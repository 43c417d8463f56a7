import TaskBoard.Proofs.Stores.Counter
import TaskBoard.Proofs.Stores.Listing
import TaskBoard.Proofs.Stores.SortKeys

namespace TaskBoard.Proofs.Stores.Sorting

open TaskBoard.Entries Proofs.Entries Proofs.Order

/-- Stores in which each task has a number and a time with a fixed offset; a table wrote its times itself. -/
inductive Listable : Backend → Prop
  | memory {seed : List Task} {operations : List Operation} {journal : List Log.Record} {m : Memory}
      (hm : (run operations (seeded seed journal)).backend = .memory m)
      (ha : ∀ e ∈ m.tasks, Timed (fun u => u.isAware = true) e.2.created) : Listable (.memory m)
  | sql {d : Database} {rows : List (ℤ × Row)} (hrows : d.rows = some rows) (hn : (keys rows).Nodup)
      (hw : ∀ e ∈ rows, ∃ t, Stamp.Storable t ∧ Database.encodeTime t = .ok e.2.created) : Listable (.sql d)
  | datastore {c : Datastore.Client} (hf : c.faults .fetch = none) (hn : (keys c.entities).Nodup)
      (he : ∀ e ∈ c.entities, e.1.kind = Datastore.taskKind → ∃ id created, e.1 = Datastore.taskKey id ∧
        e.2.properties.lookup "created" = some (.time created) ∧ created.isAware = true) : Listable (.datastore c)

def rowTask (id : ℤ) (created : Time.Timestamp) (r : Row) : Task :=
  ⟨.text r.description, .time created, r.done != 0, some id⟩

def entityTask (id : ℤ) (created : Time.Timestamp) (e : Datastore.Entity) : Task :=
  ⟨(e.properties.lookup "description").getD (.text ""), .time created,
    ((e.properties.lookup "done").getD (.bool false)).truth, some id⟩

inductive StoredAs : Backend → ℤ → Task → Prop
  | memory {m : Memory} {id : ℤ} {t : Task} (h : (id, t) ∈ m.tasks) : StoredAs (.memory m) id { t with id := some id }
  | sql {d : Database} {rows : List (ℤ × Row)} {id : ℤ} {r : Row} {u : Time.Timestamp} (hrows : d.rows = some rows)
      (h : (id, r) ∈ rows) (hu : Dated u) (hc : Database.encodeTime u = .ok r.created) :
      StoredAs (.sql d) id (rowTask id u r)
  | datastore {c : Datastore.Client} {id : ℤ} {e : Datastore.Entity} {created : Time.Timestamp}
      (h : (Datastore.taskKey id, e) ∈ c.entities) (hc : e.properties.lookup "created" = some (.time created)) :
      StoredAs (.datastore c) id (entityTask id created e)

structure Stock (b : Backend) (stock : List (ℤ × Task)) : Prop where
  nodup : (keys stock).Nodup
  named : ∀ e ∈ stock, e.2.id = some e.1
  aware : ∀ e ∈ stock, Timed (fun u => u.isAware = true) e.2.created
  complete : ∀ id t, StoredAs b id t ↔ (id, t) ∈ stock
  keys_contents : keys (contents b) = keys stock
  list_ok : ∀ journal, ∃ s', Store.list ⟨b, journal⟩ = .ok ((values stock).mergeSort Task.notAfter) s'

lemma stock_memory {m : Memory} (h : Holds (.memory m) m.tasks)
    (ha : ∀ e ∈ m.tasks, Timed (fun u => u.isAware = true) e.2.created) :
    Stock (.memory m) m.tasks where
  nodup := h.nodup
  named := h.named
  aware := ha
  complete id t := by
    have hown {t : Task} (hm : (id, t) ∈ m.tasks) : { t with id := some id } = t := by rw [← h.named _ hm]
    constructor
    · rintro ⟨hm⟩
      rwa [hown hm]
    · intro hm
      rw [← hown hm]
      exact .memory hm
  keys_contents := keys_memory m
  list_ok := list_memory (comparable_values h.named ha)

section Rows

variable {d : Database} {rows : List (ℤ × Row)} {u : ℤ × Row → Time.Timestamp}

lemma stamp_injective {v w : Time.Timestamp} (hv : Dated v) (hw : Dated w) (h : Stamp.stamp v = Stamp.stamp w) :
    v = w := by
  have hread := Stamp.decodeTime_of_le hv.1 hv.2
  rw [h, Stamp.decodeTime_of_le hw.1 hw.2] at hread
  exact (Except.ok.inj hread).symm

lemma toTask_rowTask {e : ℤ × Row} (hu : Dated (u e)) (hc : e.2.created = Stamp.stamp (u e)) :
    Database.toTask e.1 e.2 = .ok (rowTask e.1 (u e) e.2) := by
  rw [Database.toTask, hc, Stamp.decodeTime_of_le hu.1 hu.2]
  rfl

lemma list_rows (hrows : d.rows = some rows) (hu : ∀ e ∈ rows, Dated (u e) ∧ e.2.created = Stamp.stamp (u e)) :
    d.list = .ok ((rows.map fun e => rowTask e.1 (u e) e.2).mergeSort Task.notAfter) := by
  have hread : ∀ e ∈ rows.mergeSort Database.notAfter, Database.toTask e.1 e.2 = .ok (rowTask e.1 (u e) e.2) := by
    intro e he
    rw [List.mem_mergeSort] at he
    exact toTask_rowTask (hu e he).1 (hu e he).2
  rw [InTable.list_eq hrows, mapM_ok hread]
  -- The rows are sorted by their texts and the tasks by their instants.
  apply congrArg Except.ok
  apply List.map_mergeSort
  intro a ha b hb
  exact notAfter_row (hu a ha).1 (hu b hb).1 rfl rfl (hu a ha).2 (hu b hb).2 rfl rfl

def rowStock (u : ℤ × Row → Time.Timestamp) (rows : List (ℤ × Row)) : List (ℤ × Task) :=
  rows.map fun e => (e.1, rowTask e.1 (u e) e.2)

lemma storedAs_table (hrows : d.rows = some rows) (hu : ∀ e ∈ rows, Dated (u e) ∧ e.2.created = Stamp.stamp (u e))
    (id : ℤ) (t : Task) : StoredAs (.sql d) id t ↔ (id, t) ∈ rowStock u rows := by
  constructor
  · intro h
    cases h with
    | @sql _ rows' _ r v hrows' hm hv hc =>
      -- The row has one time only: two times on a UTC clock with one text are the same.
      have heq : rows' = rows := Option.some.inj (hrows'.symm.trans hrows)
      rw [heq] at hm
      obtain ⟨hdated, hstamp⟩ := hu _ hm
      have hsame : Stamp.stamp v = Stamp.stamp (u (id, r)) := by
        rw [SortKeys.encodeTime_of_utc hv.1] at hc
        exact (Except.ok.inj hc).trans hstamp
      rw [stamp_injective hv hdated hsame]
      exact List.mem_map_of_mem (f := fun e => (e.1, rowTask e.1 (u e) e.2)) hm
  · intro hm
    obtain ⟨e, he, heq⟩ := List.mem_map.mp hm
    cases heq
    refine .sql hrows he (hu e he).1 ?_
    rw [(hu e he).2]
    exact SortKeys.encodeTime_of_utc (hu e he).1.1

lemma stock_sql (hrows : d.rows = some rows) (hn : (keys rows).Nodup)
    (hu : ∀ e ∈ rows, Dated (u e) ∧ e.2.created = Stamp.stamp (u e)) : Stock (.sql d) (rowStock u rows) where
  nodup := by
    rw [keys, rowStock, List.map_map]
    exact hn
  named e he := by
    obtain ⟨_, _, rfl⟩ := List.mem_map.mp he
    rfl
  aware e he := by
    obtain ⟨a, ha, rfl⟩ := List.mem_map.mp he
    exact timed_time.mpr (hu a ha).1.isAware
  complete := storedAs_table hrows hu
  keys_contents := by
    rw [contents, hrows, Option.getD_some, keys, keys, rowStock, List.map_map, List.map_map]
    rfl
  list_ok journal := by
    refine ⟨⟨.sql d, journal⟩, ?_⟩
    simp only [Store.list, Store.lift, list_rows hrows hu, values, rowStock, List.map_map]
    rfl

end Rows

section Entities

variable {c : Datastore.Client} {id : Datastore.Key × Datastore.Entity → ℤ}
  {created : Datastore.Key × Datastore.Entity → Time.Timestamp}

def ofKind (c : Datastore.Client) : List (Datastore.Key × Datastore.Entity) :=
  c.entities.filter fun e => e.1.kind == Datastore.taskKind

lemma mem_ofKind {e : Datastore.Key × Datastore.Entity} :
    e ∈ ofKind c ↔ e ∈ c.entities ∧ e.1.kind = Datastore.taskKind := by
  rw [ofKind, List.mem_filter, beq_iff_eq]

lemma contents_ofKind (c : Datastore.Client) : contents (.datastore c) = (ofKind c).filterMap entityContents := by
  rw [contents, ofKind, List.filterMap_filter]
  refine List.filterMap_congr fun e _ => ?_
  by_cases h : e.1.kind = Datastore.taskKind
  · simp [h]
  · simp [entityContents, h]

lemma toTask_entityTask {e : Datastore.Entity} {i : ℤ} {t : Time.Timestamp}
    (h : e.properties.lookup "created" = some (.time t)) :
    Datastore.toTask (Datastore.taskKey i) e = .ok (entityTask i t e) := by
  simp only [Datastore.toTask, h]
  rfl

def Numbered (c : Datastore.Client) (id : Datastore.Key × Datastore.Entity → ℤ)
    (created : Datastore.Key × Datastore.Entity → Time.Timestamp) : Prop :=
  ∀ e ∈ ofKind c, e.1 = Datastore.taskKey (id e) ∧ e.2.properties.lookup "created" = some (.time (created e)) ∧
    (created e).isAware = true

def entityStock (c : Datastore.Client) (id : Datastore.Key × Datastore.Entity → ℤ)
    (created : Datastore.Key × Datastore.Entity → Time.Timestamp) : List (ℤ × Task) :=
  (ofKind c).map fun e => (id e, entityTask (id e) (created e) e.2)

namespace Numbered

lemma keys_entityStock (he : Numbered c id created) :
    (keys (entityStock c id created)).map Datastore.taskKey = keys (ofKind c) := by
  rw [keys, keys, entityStock, List.map_map, List.map_map]
  exact List.map_congr_left fun e hm => (he e hm).1.symm

lemma storedAs_iff (he : Numbered c id created) (i : ℤ) (t : Task) :
    StoredAs (.datastore c) i t ↔ (i, t) ∈ entityStock c id created := by
  constructor
  · intro h
    cases h with
    | @datastore _ _ e time hm hc =>
      have hmem := mem_ofKind.mpr ⟨hm, rfl⟩
      obtain ⟨hid, hcreated, -⟩ := he _ hmem
      have hi : i = id (Datastore.taskKey i, e) := Remote.taskKey_injective hid
      have ht : time = created (Datastore.taskKey i, e) := Value.time.inj (Option.some.inj (hc.symm.trans hcreated))
      have hentry := List.mem_map_of_mem (f := fun e => (id e, entityTask (id e) (created e) e.2)) hmem
      rw [← hi, ← ht] at hentry
      exact hentry
  · intro hm
    obtain ⟨e, hmem, heq⟩ := List.mem_map.mp hm
    cases heq
    obtain ⟨hid, hcreated, -⟩ := he e hmem
    refine .datastore ?_ hcreated
    rw [← hid]
    exact (mem_ofKind.mp hmem).1

lemma contents_eq (he : Numbered c id created) :
    contents (.datastore c) = (ofKind c).map fun e => (id e, Kept.ofEntity e.2) := by
  have hentry : ∀ e ∈ ofKind c, entityContents e = some (id e, Kept.ofEntity e.2) := by
    intro e hm
    rw [entityContents, if_pos (mem_ofKind.mp hm).2, (he e hm).1]
    rfl
  rw [contents_ofKind, List.filterMap_congr hentry, List.filterMap_eq_map']

lemma list_ok (he : Numbered c id created) (hf : c.faults .fetch = none) (journal : List Log.Record) : ∃ s',
    Store.list ⟨.datastore c, journal⟩ = .ok ((values (entityStock c id created)).mergeSort Task.notAfter) s' := by
  have hread : ∀ e ∈ ofKind c, Datastore.toTask e.1 e.2 = .ok (entityTask (id e) (created e) e.2) := by
    intro e hm
    obtain ⟨hid, hcreated, -⟩ := he e hm
    rw [hid]
    exact toTask_entityTask hcreated
  rw [values, entityStock, List.map_map]
  apply list_client hf (mapM_ok hread)
  intro t ht
  obtain ⟨e, hm, rfl⟩ := List.mem_map.mp ht
  exact ⟨timed_time.mpr (he e hm).2.2, id e, rfl⟩

lemma stock (he : Numbered c id created) (hf : c.faults .fetch = none) (hn : (keys c.entities).Nodup) :
    Stock (.datastore c) (entityStock c id created) where
  nodup := by
    apply List.Nodup.of_map Datastore.taskKey
    rw [he.keys_entityStock]
    exact hn.sublist ((List.filter_sublist ..).map Prod.fst)
  named e hm := by
    obtain ⟨_, _, rfl⟩ := List.mem_map.mp hm
    rfl
  aware e hm := by
    obtain ⟨a, ha, rfl⟩ := List.mem_map.mp hm
    exact timed_time.mpr (he a ha).2.2
  complete := he.storedAs_iff
  keys_contents := by
    rw [he.contents_eq, keys, keys, entityStock, List.map_map, List.map_map]
    rfl
  list_ok := he.list_ok hf

end Numbered

end Entities

lemma Listable.stock {b : Backend} (h : Listable b) : ∃ stock, Stock b stock := by
  cases h with
  | @memory seed operations journal m hm ha =>
    obtain ⟨m', hrun, hholds⟩ := run_seeded seed operations journal
    rw [hrun] at hm
    cases hm
    exact ⟨m.tasks, stock_memory hholds ha⟩
  | @sql d rows hrows hn hw =>
    have hstamp : ∀ e ∈ rows, ∃ u, Dated u ∧ e.2.created = Stamp.stamp u := by
      intro e he
      obtain ⟨t, ht, henc⟩ := hw e he
      obtain ⟨u, hu, hy, hstamp, -⟩ := Stamp.encodeTime_of_storable ht
      exact ⟨u, ⟨(Stamp.toUtc?_spec hu).1, hy⟩, Except.ok.inj (henc.symm.trans hstamp)⟩
    choose! u hu using hstamp
    exact ⟨_, stock_sql hrows hn hu⟩
  | @datastore c hf hn he =>
    have hread : ∀ e ∈ ofKind c, ∃ id created, e.1 = Datastore.taskKey id ∧
        e.2.properties.lookup "created" = some (.time created) ∧ created.isAware = true := by
      intro e hm
      exact he e (mem_ofKind.mp hm).1 (mem_ofKind.mp hm).2
    choose! id created hread using hread
    exact ⟨_, Numbered.stock hread hf hn⟩

namespace Stock

variable {b b' : Backend} {stock stock' : List (ℤ × Task)}

lemma mem_sorted (h : Stock b stock) (t : Task) :
    t ∈ (values stock).mergeSort Task.notAfter ↔ ∃ id, StoredAs b id t := by
  rw [List.mem_mergeSort]
  constructor
  · intro ht
    obtain ⟨⟨id, _⟩, he, rfl⟩ := List.mem_map.mp ht
    exact ⟨id, (h.complete id _).mpr he⟩
  · rintro ⟨id, ht⟩
    exact List.mem_map_of_mem ((h.complete id t).mp ht)

lemma ids_sorted (h : Stock b stock) :
    (((values stock).mergeSort Task.notAfter).map Task.id).Perm ((keys (contents b)).map some) := by
  rw [h.keys_contents, ← ids_values h.named]
  exact (List.mergeSort_perm _ _).map Task.id

lemma sorted_eq (h : Stock b stock) (h' : Stock b' stock') (hsame : ∀ id t, StoredAs b' id t ↔ StoredAs b id t) :
    (values stock').mergeSort Task.notAfter = (values stock).mergeSort Task.notAfter := by
  apply eq_of_pairwise_rank (pairwise_values h'.nodup h'.named h'.aware) (pairwise_values h.nodup h.named h.aware)
  intro t
  rw [h'.mem_sorted, h.mem_sorted]
  exact exists_congr fun id => hsame id t

end Stock

/--
A listing holds each task of the store once, under the id of its key, in strict order of instants and then of ids. It
leaves the store as it is, and is the same for all stores that hold the same tasks.
-/
theorem list_sorted {s : Store} (h : Listable s.backend) : ∃ tasks s', Store.list s = .ok tasks s' ∧
    Untouched s.backend s'.backend ∧ (∀ t, t ∈ tasks ↔ ∃ id, StoredAs s.backend id t) ∧
      (tasks.map Task.id).Perm ((keys (contents s.backend)).map some) ∧ tasks.Pairwise (fun t u => rank t < rank u) ∧
        ∀ other : Store, Listable other.backend → (∀ id t, StoredAs other.backend id t ↔ StoredAs s.backend id t) →
          ∃ other', Store.list other = .ok tasks other' := by
  obtain ⟨stock, hstock⟩ := h.stock
  obtain ⟨s', hlist⟩ := hstock.list_ok s.journal
  have huntouched := list_untouched s
  rw [hlist] at huntouched
  have hsorted := pairwise_values hstock.nodup hstock.named hstock.aware
  refine ⟨_, s', hlist, huntouched, hstock.mem_sorted, hstock.ids_sorted, hsorted, ?_⟩
  intro other hother hsame
  obtain ⟨stock', hstock'⟩ := hother.stock
  obtain ⟨other', hlist'⟩ := hstock'.list_ok other.journal
  rw [hstock.sorted_eq hstock' hsame] at hlist'
  exact ⟨other', hlist'⟩

def noon : Time.Timestamp := { Time.Timestamp.epoch with wall := 63871329600000000, wall_lt := by decide }

def noonAhead : Time.Timestamp :=
  ⟨63871336800000000, some (7200 * Time.microsOfSecond), by decide, by rintro o ⟨⟩; decide⟩

def left : Datastore.Entity := ⟨[("created", .time noon)], []⟩

def finished : Datastore.Entity := ⟨[("done", .bool true), ("created", .time noonAhead)], []⟩

def mixed : Datastore.Client where
  entities := [(Datastore.taskKey 9, left), (⟨"Note", .number 4⟩, ⟨[], []⟩), (Datastore.taskKey 4, finished)]
  nextId := 10

theorem list_sorted_mixed : Listable (.datastore mixed) ∧ ∃ s', Store.list ⟨.datastore mixed, []⟩ =
    .ok [⟨.text "", .time noonAhead, true, some 4⟩, ⟨.text "", .time noon, false, some 9⟩] s' := by
  have h : Listable (.datastore mixed) := by
    refine .datastore rfl (by decide) fun e he hkind => ?_
    simp only [mixed, List.mem_cons, List.not_mem_nil, or_false] at he
    rcases he with rfl | rfl | rfl
    · exact ⟨9, noon, rfl, rfl, rfl⟩
    · exact absurd hkind (by decide)
    · exact ⟨4, noonAhead, rfl, rfl, rfl⟩
  obtain ⟨tasks, s', hlist, -, hmem, -, hrank, -⟩ := list_sorted (s := ⟨.datastore mixed, []⟩) h
  refine ⟨h, s', ?_⟩
  rw [hlist]
  congr 1
  apply eq_of_pairwise_rank hrank
  · rw [List.pairwise_pair]
    exact Prod.Lex.toLex_lt_toLex.mpr (Or.inr ⟨rfl, WithBot.coe_lt_coe.mpr (by decide)⟩)
  · intro t
    rw [hmem, List.mem_pair]
    constructor
    · rintro ⟨id, ht⟩
      cases ht with
      | datastore he hc =>
        simp only [mixed, Datastore.taskKey, Datastore.taskKind, List.mem_cons, Prod.mk.injEq,
          Datastore.Key.mk.injEq, Datastore.KeyId.number.injEq, true_and, String.reduceEq, false_and,
          List.not_mem_nil, or_false, false_or] at he
        rcases he with ⟨rfl, rfl⟩ | ⟨rfl, rfl⟩ <;> cases hc
        · exact Or.inr rfl
        · exact Or.inl rfl
    · rintro (rfl | rfl)
      · exact ⟨4, .datastore (e := finished) (by simp [mixed]) rfl⟩
      · exact ⟨9, .datastore (e := left) (by simp [mixed]) rfl⟩

end TaskBoard.Proofs.Stores.Sorting
