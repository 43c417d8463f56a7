import TaskBoard.Proofs.Stores.Sorting

namespace TaskBoard.Proofs.Stores.Marking

open TaskBoard.Entries Proofs.Entries Proofs.Order Sorting

def mark : Change := fun t => .ok t.complete

def completeAmong (ids : List ℤ) (t : Task) : Task := if ∃ id ∈ ids, t.id = some id then t.complete else t

structure Markable (b : Backend) : Prop where
  listable : Listable b
  calm : Calm b
  addressable : ∀ id t, StoredAs b id t → Addressable b id

def Marked (ids : List ℤ) (b b' : Backend) : Prop :=
  ∀ id t, StoredAs b' id t ↔ ∃ u, StoredAs b id u ∧ t = completeAmong ids u

section Completing

variable {ids later : List ℤ} {id : ℤ} {t : Task}

lemma completeAmong_of_mem (h : id ∈ ids) (ht : t.id = some id) : completeAmong ids t = t.complete :=
  if_pos ⟨id, h, ht⟩

lemma completeAmong_of_ne (h : ∀ id ∈ ids, t.id ≠ some id) : completeAmong ids t = t :=
  if_neg fun ⟨id, hid, ht⟩ => h id hid ht

@[simp] lemma completeAmong_nil (t : Task) : completeAmong [] t = t := completeAmong_of_ne (by simp)

@[simp] lemma rank_completeAmong (ids : List ℤ) (t : Task) : rank (completeAmong ids t) = rank t := by
  rw [completeAmong]
  split <;> rfl

@[simp] lemma complete_completeAmong (ids : List ℤ) (t : Task) : (completeAmong ids t).complete = t.complete := by
  rw [completeAmong]
  split <;> rfl

lemma completeAmong_append (ids later : List ℤ) (t : Task) :
    completeAmong (ids ++ later) t = completeAmong later (completeAmong ids t) := by
  by_cases hids : ∃ id ∈ ids, t.id = some id
  · obtain ⟨id, hid, ht⟩ := hids
    rw [completeAmong_of_mem hid ht, completeAmong_of_mem (List.mem_append_left later hid) ht, completeAmong]
    split <;> rfl
  · have hids' : completeAmong ids t = t := if_neg hids
    have hiff : (∃ id ∈ ids ++ later, t.id = some id) ↔ ∃ id ∈ later, t.id = some id := by
      simp only [List.mem_append, or_and_right, exists_or]
      exact or_iff_right hids
    rw [hids', completeAmong, completeAmong]
    simp only [hiff]

lemma completeAmong_congr {ids' : List ℤ} (h : ∀ id, id ∈ ids' ↔ id ∈ ids) :
    completeAmong ids' = completeAmong ids := by
  funext t
  rw [completeAmong, completeAmong]
  simp only [h]

end Completing

lemma storedAs_id {b : Backend} {id : ℤ} {t : Task} (h : StoredAs b id t) : t.id = some id := by
  cases h <;> rfl

lemma completeAmong_singleton {b : Backend} {j : ℤ} {u : Task} (hu : StoredAs b j u) (id : ℤ) :
    completeAmong [id] u = if j = id then u.complete else u := by
  split_ifs with hj
  · exact completeAmong_of_mem (List.mem_singleton_self id) (hj ▸ storedAs_id hu)
  · refine completeAmong_of_ne fun i hi heq => hj ?_
    rw [List.mem_singleton.mp hi, storedAs_id hu] at heq
    exact Option.some.inj heq

section Reading

lemma storedAs_memory (m : Memory) (j : ℤ) (t : Task) :
    StoredAs (.memory m) j t ↔ ∃ x, (j, x) ∈ m.tasks ∧ t = { x with id := some j } := by
  constructor
  · intro h
    cases h with
    | memory hx => exact ⟨_, hx, rfl⟩
  · rintro ⟨x, hx, rfl⟩
    exact .memory hx

lemma storedAs_sql {d : Database} {rows : List (ℤ × Row)} (hrows : d.rows = some rows) (j : ℤ) (t : Task) :
    StoredAs (.sql d) j t ↔ ∃ r, (j, r) ∈ rows ∧
      ∃ u, Dated u ∧ Database.encodeTime u = .ok r.created ∧ t = rowTask j u r := by
  constructor
  · intro h
    cases h with
    | sql hrows' hr hu hc =>
      rw [Option.some.inj (hrows.symm.trans hrows')]
      exact ⟨_, hr, _, hu, hc, rfl⟩
  · rintro ⟨r, hr, u, hu, hc, rfl⟩
    exact .sql hrows hr hu hc

lemma storedAs_datastore (c : Datastore.Client) (j : ℤ) (t : Task) :
    StoredAs (.datastore c) j t ↔ ∃ e, (Datastore.taskKey j, e) ∈ c.entities ∧
      ∃ created, e.properties.lookup "created" = some (.time created) ∧ t = entityTask j created e := by
  constructor
  · intro h
    cases h with
    | datastore he hc => exact ⟨_, he, _, hc, rfl⟩
  · rintro ⟨e, he, created, hc, rfl⟩
    exact .datastore he hc

end Reading

section Steps

variable {b b' b'' : Backend} {ids later : List ℤ} {id : ℤ} {t : Task}

lemma Marked.refl (b : Backend) : Marked [] b b := by
  intro id t
  constructor
  · intro h
    exact ⟨t, h, (completeAmong_nil t).symm⟩
  · rintro ⟨u, hu, ht⟩
    rwa [ht, completeAmong_nil]

lemma Marked.trans (h : Marked ids b b') (h' : Marked later b' b'') : Marked (ids ++ later) b b'' := by
  intro id t
  rw [h' id t]
  constructor
  · rintro ⟨v, hv, rfl⟩
    obtain ⟨u, hu, rfl⟩ := (h id v).mp hv
    exact ⟨u, hu, (completeAmong_append ids later u).symm⟩
  · rintro ⟨u, hu, rfl⟩
    exact ⟨completeAmong ids u, (h id _).mpr ⟨u, hu, rfl⟩, completeAmong_append ids later u⟩

lemma marked_of_absent (h : ∀ u, ¬ StoredAs b id u) (hsame : ∀ j u, StoredAs b' j u ↔ StoredAs b j u) :
    Marked [id] b b' := by
  have hself {j : ℤ} {u : Task} (hu : StoredAs b j u) : completeAmong [id] u = u := by
    have hj : j ≠ id := fun hj => h u (hj ▸ hu)
    rw [completeAmong_singleton hu, if_neg hj]
  intro j t
  rw [hsame]
  constructor
  · intro ht
    exact ⟨t, ht, (hself ht).symm⟩
  · rintro ⟨u, hu, rfl⟩
    rwa [hself hu]

/--
A store by its entries, of which one is written anew. The entry that is written is read as the old one was, but for
the mark.
-/
lemma marked_of_assign {κ α : Type} [BEq κ] [LawfulBEq κ] {key : ℤ → κ} (hkey : Function.Injective key)
    {reads : ℤ → α → Task → Prop} {entries : List (κ × α)} {old new : α} (hn : (keys entries).Nodup)
    (hold : (key id, old) ∈ entries)
    (hb : ∀ j t, StoredAs b j t ↔ ∃ x, (key j, x) ∈ entries ∧ reads j x t)
    (hb' : ∀ j t, StoredAs b' j t ↔ ∃ x, (key j, x) ∈ assign (key id) new entries ∧ reads j x t)
    (hnew : ∀ t, reads id new t ↔ ∃ u, reads id old u ∧ t = u.complete) : Marked [id] b b' := by
  intro j t
  rw [hb']
  by_cases hj : j = id
  · subst hj
    constructor
    · rintro ⟨x, hx, ht⟩
      obtain rfl : x = new := ((mem_assign_iff hn hold).mp hx).elim And.right fun h => absurd rfl h.1
      obtain ⟨u, hu, rfl⟩ := (hnew t).mp ht
      have hstored := (hb j u).mpr ⟨old, hold, hu⟩
      exact ⟨u, hstored, by rw [completeAmong_singleton hstored, if_pos rfl]⟩
    · rintro ⟨u, hu, rfl⟩
      rw [completeAmong_singleton hu, if_pos rfl]
      obtain ⟨x, hx, hread⟩ := (hb j u).mp hu
      have heq : x = old := congrArg Prod.snd (List.inj_on_of_nodup_map hn hx hold rfl)
      exact ⟨new, (mem_assign_iff hn hold).mpr (Or.inl ⟨rfl, rfl⟩), (hnew _).mpr ⟨u, heq ▸ hread, rfl⟩⟩
  · have hne : key j ≠ key id := fun h => hj (hkey h)
    constructor
    · rintro ⟨x, hx, ht⟩
      have hx' := ((mem_assign_iff hn hold).mp hx).elim (fun h => absurd h.1 hne) And.right
      have hstored := (hb j t).mpr ⟨x, hx', ht⟩
      exact ⟨t, hstored, by rw [completeAmong_singleton hstored, if_neg hj]⟩
    · rintro ⟨u, hu, rfl⟩
      rw [completeAmong_singleton hu, if_neg hj]
      obtain ⟨x, hx, hread⟩ := (hb j u).mp hu
      exact ⟨x, (mem_assign_iff hn hold).mpr (Or.inr ⟨hne, hx⟩), hread⟩

end Steps

section Contents

variable {b b' : Backend} {ids : List ℤ} {id : ℤ}

lemma mem_contents_iff (h : Listable b) : id ∈ keys (contents b) ↔ ∃ t, StoredAs b id t := by
  obtain ⟨stock, hstock⟩ := h.stock
  rw [hstock.keys_contents]
  constructor
  · intro hid
    obtain ⟨t, ht⟩ := exists_of_mem_keys hid
    exact ⟨t, (hstock.complete id t).mpr ht⟩
  · rintro ⟨t, ht⟩
    exact mem_keys_of_mem ((hstock.complete id t).mp ht)

lemma Marked.mem_contents_iff (h : Marked ids b b') (hb : Listable b) (hb' : Listable b') (id : ℤ) :
    id ∈ keys (contents b') ↔ id ∈ keys (contents b) := by
  rw [Marking.mem_contents_iff hb, Marking.mem_contents_iff hb']
  constructor
  · rintro ⟨t, ht⟩
    obtain ⟨u, hu, -⟩ := (h id t).mp ht
    exact ⟨u, hu⟩
  · rintro ⟨u, hu⟩
    exact ⟨_, (h id _).mpr ⟨u, hu, rfl⟩⟩

lemma kin_addressable_iff (h : Kin b b') (id : ℤ) : Addressable b' id ↔ Addressable b id := by
  cases b <;> cases b' <;> first | exact Iff.rfl | exact h.elim

lemma Markable.marked (h : Markable b) (hb' : Listable b') (hk : Kin b b') (hm : Marked ids b b') : Markable b' := by
  refine ⟨hb', hk.calm h.calm, fun id t ht => ?_⟩
  obtain ⟨u, hu, -⟩ := (hm id t).mp ht
  exact hk.addressable (h.addressable id u hu)

lemma untouched_listable (h : Untouched b b') (hb : Listable b) : Listable b' := by
  cases hb with
  | memory hm ha =>
    rw [show b' = _ from h]
    exact .memory hm ha
  | sql hrows hn hw =>
    rw [show b' = _ from h]
    exact .sql hrows hn hw
  | datastore hf hn he =>
    obtain ⟨calls, rfl⟩ := h
    exact .datastore hf hn he

lemma untouched_storedAs (h : Untouched b b') (id : ℤ) (t : Task) : StoredAs b' id t ↔ StoredAs b id t := by
  cases b with
  | memory m => rw [show b' = _ from h]
  | sql d => rw [show b' = _ from h]
  | datastore c =>
    obtain ⟨calls, rfl⟩ := h
    rw [storedAs_datastore, storedAs_datastore, Remote.noted_entities]

end Contents

section Backends

variable {id : ℤ}

def Marks (b : Backend) (id : ℤ) (t : Task) : Prop := ∃ b', (∀ journal, Store.modify id mark ⟨b, journal⟩ =
  .ok t.complete ⟨b', journal⟩) ∧ Listable b' ∧ Kin b b' ∧ Marked [id] b b'

lemma marks_memory {m : Memory} (h : Listable (.memory m)) {t : Task} (ht : (id, t) ∈ m.tasks) :
    Marks (.memory m) id { t with id := some id } := by
  cases h with
  | @memory seed operations start _ hm ha =>
    obtain ⟨m', hrun, hholds⟩ := run_seeded seed operations start
    rw [hrun] at hm
    cases hm
    have hmodify (journal : List Log.Record) : Store.modify id mark ⟨.memory m, journal⟩ =
        .ok { t.complete with id := some id }
          ⟨.memory { m with tasks := assign id { t.complete with id := some id } m.tasks }, journal⟩ :=
      settle_ok.mpr ⟨_, InMemory.modify_of_present (lookup_of_mem hholds.nodup ht) mark, rfl, rfl⟩
    refine ⟨_, hmodify, ?_, le_refl m.next, ?_⟩
    · refine @Listable.memory seed (operations ++ [.modify id mark]) start _ ?_ ?_
      · rw [run_append, hrun]
        change (finalStore (Store.modify id mark ⟨.memory m, start⟩)).backend = _
        rw [hmodify]
        rfl
      · intro e he
        rcases mem_assign he with rfl | he
        · exact (ha _ ht : Proofs.Order.Timed (fun u => u.isAware = true) t.created)
        · exact ha e he
    · refine marked_of_assign Function.injective_id hholds.nodup ht (storedAs_memory m) (storedAs_memory _) fun u => ?_
      constructor
      · rintro rfl
        exact ⟨_, rfl, rfl⟩
      · rintro ⟨_, rfl, rfl⟩
        rfl

lemma marks_sql {d : Database} {rows : List (ℤ × Row)} (h : Listable (.sql d)) (hrows : d.rows = some rows)
    (hid : TaskId.inRange id = true) {r : Row} (hr : (id, r) ∈ rows) {u : Time.Timestamp} (hu : Dated u)
    (hc : Database.encodeTime u = .ok r.created) : Marks (.sql d) id (rowTask id u r) := by
  cases h with
  | @sql _ rows' hrows' hn hw =>
    obtain rfl : rows = rows' := Option.some.inj (hrows.symm.trans hrows')
    have hstamp : r.created = Stamp.stamp u := by
      rw [SortKeys.encodeTime_of_utc hu.1] at hc
      exact (Except.ok.inj hc).symm
    -- The time that was read is written as the text it was read from.
    have hsaves : InTable.Saves (rowTask id u r).complete (rowTask id u r).complete :=
      ⟨r.description, u, u, rfl, rfl, Stamp.toUtc_of_utc hu.1, rfl⟩
    have hrow : InTable.row (rowTask id u r).complete = { r with done := 1 } := by
      simp [InTable.row, InTable.createdText, rowTask, Task.complete, Value.text?, Database.ofBool, hstamp]
    have hread : Database.toTask id r = .ok (rowTask id u r) :=
      toTask_rowTask (e := (id, r)) (u := fun _ => u) hu hstamp
    have hmodify :
        d.modify id mark = .ok ((rowTask id u r).complete, ⟨some (assign id { r with done := 1 } rows)⟩) := by
      rw [InTable.modify_eq_ok hrows, ← hrow]
      exact ⟨hid, r, lookup_of_mem hn hr, _, _, _, hread, rfl, hsaves, rfl⟩
    refine ⟨_, fun journal => settle_ok.mpr ⟨_, hmodify, rfl, rfl⟩, .sql rfl (nodup_assign hn _) ?_, trivial, ?_⟩
    · intro e he
      rcases mem_assign he with rfl | he
      · exact ⟨u, hu.storable, hc⟩
      · exact hw e he
    · refine marked_of_assign Function.injective_id hn hr (storedAs_sql hrows) (storedAs_sql rfl) fun t => ?_
      constructor
      · rintro ⟨v, hv, hvc, rfl⟩
        exact ⟨_, ⟨v, hv, hvc, rfl⟩, rfl⟩
      · rintro ⟨_, ⟨v, hv, hvc, rfl⟩, rfl⟩
        exact ⟨v, hv, hvc, rfl⟩

lemma marks_datastore {c : Datastore.Client} (h : Listable (.datastore c)) (hcalm : Calm (.datastore c))
    {e : Datastore.Entity} (he : (Datastore.taskKey id, e) ∈ c.entities) {created : Time.Timestamp}
    (hc : e.properties.lookup "created" = some (.time created)) :
    Marks (.datastore c) id (entityTask id created e) := by
  cases h with
  | datastore hf hn hread =>
    have hmarked : Datastore.toTask (Datastore.taskKey id) e >>= mark = .ok (entityTask id created e).complete := by
      rw [toTask_entityTask hc]
      rfl
    have hmodify := Remote.modify_of_none hcalm id mark
    simp only [lookup_of_mem hn he, hmarked] at hmodify
    refine ⟨_, fun journal => onClient_of_ok hmodify, .datastore hf (nodup_assign hn _) ?_, rfl, ?_⟩
    · intro e' he' hkind
      rcases mem_assign he' with rfl | he'
      · obtain ⟨_, time, -, htime, haware⟩ := hread _ he rfl
        obtain rfl : created = time := Value.time.inj (Option.some.inj (hc.symm.trans htime))
        exact ⟨id, created, rfl, rfl, haware⟩
      · exact hread e' he' hkind
    · refine marked_of_assign Remote.taskKey_injective hn he (storedAs_datastore c) (storedAs_datastore _) fun t => ?_
      constructor
      · rintro ⟨time, ⟨⟩, rfl⟩
        exact ⟨_, ⟨created, hc, rfl⟩, rfl⟩
      · rintro ⟨_, ⟨time, htime, rfl⟩, rfl⟩
        obtain rfl : created = time := Value.time.inj (Option.some.inj (hc.symm.trans htime))
        exact ⟨created, rfl, rfl⟩

end Backends

section Modifying

variable {s : Store} {id : ℤ} {t : Task}

lemma modify_stored (h : Markable s.backend) (ht : StoredAs s.backend id t) : ∃ b',
    Store.modify id mark s = .ok t.complete ⟨b', s.journal⟩ ∧ Markable b' ∧ Kin s.backend b' ∧
      Marked [id] s.backend b' := by
  have hmarks : Marks s.backend id t := by
    have haddr := h.addressable id t ht
    have hl := h.listable
    have hcalm := h.calm
    generalize s.backend = b at ht haddr hl hcalm
    cases ht with
    | memory hx => exact marks_memory hl hx
    | sql hrows hr hu hc => exact marks_sql hl hrows haddr hr hu hc
    | datastore he hc => exact marks_datastore hl hcalm he hc
  obtain ⟨b', hmodify, hb', hkin, hmarked⟩ := hmarks
  exact ⟨b', hmodify s.journal, h.marked hb' hkin hmarked, hkin, hmarked⟩

lemma modify_missing (h : Markable s.backend) (ha : Addressable s.backend id) (hid : id ∉ keys (contents s.backend)) :
    ∃ s', Store.modify id mark s = .error (.taskNotFound id) s' ∧ Untouched s.backend s'.backend := by
  obtain ⟨b, journal⟩ := s
  cases b with
  | memory m =>
    rw [keys_memory] at hid
    exact ⟨_, settle_error.mpr ⟨by rw [InMemory.modify_of_absent hid mark]; rfl, rfl⟩, rfl⟩
  | sql d =>
    cases h.listable with
    | @sql _ rows hrows hn hw =>
      have hrow : id ∉ keys rows := by
        rwa [contents, hrows, Option.getD_some, keys, List.map_map] at hid
      exact ⟨_, settle_error.mpr ⟨by rw [InTable.modify_of_absent hrows ha hrow mark]; rfl, rfl⟩, rfl⟩
  | datastore c =>
    have hlookup : c.entities.lookup (Datastore.taskKey id) = none := by
      rw [lookup_eq_none_iff]
      intro hk
      obtain ⟨e, he⟩ := exists_of_mem_keys hk
      have hentry : (id, Kept.ofEntity e) ∈ contents (.datastore c) := List.mem_filterMap.mpr ⟨_, he, rfl⟩
      exact hid (mem_keys_of_mem hentry)
    have hmodify := Remote.modify_of_none h.calm id mark
    simp only [hlookup] at hmodify
    exact ⟨_, onClient_of_error hmodify, _, rfl⟩

lemma modify_tooLarge (h : Listable s.backend) (ha : ¬ Addressable s.backend id) :
    Store.modify id mark s = .error Database.tooLarge s := by
  obtain ⟨b, journal⟩ := s
  cases b with
  | memory m => exact absurd trivial ha
  | datastore c => exact absurd trivial ha
  | sql d =>
    cases h with
    | sql hrows hn hw =>
      have hmodify : d.modify id mark = .error Database.tooLarge := by
        have hid : ¬ TaskId.inRange id = true := ha
        rw [Database.modify, Database.update, InTable.searchable_eq hrows, if_neg hid]
        rfl
      exact settle_error.mpr ⟨by rw [hmodify]; rfl, rfl⟩

end Modifying

lemma Marked.sorted_eq {ids : List ℤ} {b b' : Backend} {stock stock' : List (ℤ × Task)} (h : Marked ids b b')
    (hb : Stock b stock) (hb' : Stock b' stock') : (values stock').mergeSort Task.notAfter =
      ((values stock).mergeSort Task.notAfter).map (completeAmong ids) := by
  apply eq_of_pairwise_rank (pairwise_values hb'.nodup hb'.named hb'.aware)
  · rw [List.pairwise_map]
    simp only [rank_completeAmong]
    exact pairwise_values hb.nodup hb.named hb.aware
  · intro t
    rw [hb'.mem_sorted, List.mem_map]
    constructor
    · rintro ⟨id, ht⟩
      obtain ⟨u, hu, rfl⟩ := (h id t).mp ht
      exact ⟨u, (hb.mem_sorted u).mpr ⟨id, hu⟩, rfl⟩
    · rintro ⟨u, hu, rfl⟩
      obtain ⟨id, hu⟩ := (hb.mem_sorted u).mp hu
      exact ⟨id, (h id _).mpr ⟨u, hu, rfl⟩⟩

end TaskBoard.Proofs.Stores.Marking
