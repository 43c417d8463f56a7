import TaskBoard.Proofs.Stores.Contents

/-! What each operation does to the tasks that a store holds, the same for all backends. -/

namespace TaskBoard.Proofs.Stores

open TaskBoard.Entries Proofs.Entries Outcome

def Kin : Backend → Backend → Prop
  | .memory m, .memory m' => m.next ≤ m'.next
  | .sql _, .sql _ => True
  | .datastore c, .datastore c' => c'.faults = c.faults
  | _, _ => False

def Calm : Backend → Prop
  | .datastore c => ∀ kind, c.faults kind = none
  | _ => True

def Addressable : Backend → ℤ → Prop
  | .sql _, id => TaskId.inRange id = true
  | _, _ => True

def Passed : Backend → ℤ → Prop
  | .memory m, id => id < m.next
  | _, _ => True

/-- Tasks that every backend keeps. No text holds half of a surrogate pair, and the offset of a time is a fixed one. -/
def Keepable (t : Task) : Prop := (∃ s, t.description = .text s) ∧ Proofs.Order.Timed Stamp.Storable t.created

lemma Untouched.kin {a b : Backend} (h : Untouched a b) : Kin a b := by
  cases a with
  | memory m =>
    rw [show b = _ from h]
    exact le_refl m.next
  | sql d =>
    rw [show b = _ from h]
    trivial
  | datastore c =>
    obtain ⟨calls, rfl⟩ := h
    exact rfl

lemma Kin.trans {a b c : Backend} (hab : Kin a b) (hbc : Kin b c) : Kin a c := by
  cases a <;> cases b <;> first | exact hab.elim | cases c <;> first | exact hbc.elim | skip
  · exact le_trans hab hbc
  · trivial
  · exact Eq.trans hbc hab

lemma Kin.calm {a b : Backend} (h : Kin a b) (ha : Calm a) : Calm b := by
  cases a <;> cases b <;> first | trivial | exact h.elim | skip
  intro kind
  rw [show _ = _ from h]
  exact ha kind

lemma Kin.passed {a b : Backend} (h : Kin a b) {id : ℤ} (hid : Passed a id) : Passed b id := by
  cases a <;> cases b <;> first | trivial | exact h.elim | skip
  exact lt_of_lt_of_le hid (Int.ofNat_le.mpr h)

lemma Kin.addressable {a b : Backend} (h : Kin a b) {id : ℤ} (hid : Addressable a id) : Addressable b id := by
  cases a <;> cases b <;> trivial

lemma addressable_of_inRange {id : ℤ} (h : TaskId.inRange id = true) (b : Backend) : Addressable b id := by
  cases b <;> trivial

lemma Kin.written_eq {a b : Backend} (h : Kin a b) : written b = written a := by
  cases a <;> cases b <;> first | rfl | exact h.elim

lemma Holds.mem_iff {b : Backend} {tasks : List (ℤ × Task)} (h : Holds b tasks) {id : ℤ} {t : Task} :
    (id, t) ∈ tasks ↔ tasks.lookup id = some t := ⟨lookup_of_mem h.nodup, mem_of_lookup⟩

lemma named_assign {tasks : List (ℤ × Task)} (h : ∀ e ∈ tasks, e.2.id = some e.1) {id : ℤ} {t : Task}
    (ht : t.id = some id) : ∀ e ∈ assign id t tasks, e.2.id = some e.1 := by
  intro e he
  rcases mem_assign he with rfl | he
  · exact ht
  · exact h e he

lemma named_erase {tasks : List (ℤ × Task)} (h : ∀ e ∈ tasks, e.2.id = some e.1) (id : ℤ) :
    ∀ e ∈ erase id tasks, e.2.id = some e.1 := fun e he => h e (List.mem_filter.mp he).1

section Assign

variable {tasks : List (ℤ × Task)} {id : ℤ} {t : Task}

lemma Holds.assign_memory {m : Memory} (h : Holds (.memory m) tasks) (hid : t.id = some id) (next : ℕ) :
    Holds (.memory ⟨assign id t m.tasks, next⟩) (assign id t tasks) :=
  ⟨nodup_assign h.nodup t, named_assign h.named hid, by rw [show m.tasks = tasks from h.stored]; exact rfl⟩

lemma Holds.assign_sql {d : Database} {rows : List (ℤ × Row)} (h : Holds (.sql d) tasks) (hrows : d.rows = some rows)
    (hp : InTable.Plain t) (hid : t.id = some id) :
    Holds (.sql ⟨some (assign id (InTable.row t) rows)⟩) (assign id t tasks) := by
  refine ⟨nodup_assign h.nodup t, named_assign h.named hid, ?_, ?_⟩
  · rw [Option.some.inj (hrows.symm.trans h.stored.1)]
    exact congrArg some (InTable.assign_rowsOf id t tasks)
  · intro e he
    rcases mem_assign he with rfl | he
    · exact hp
    · exact h.stored.2 e he

lemma Holds.assign_datastore {c c' : Datastore.Client} (h : Holds (.datastore c) tasks) (hid : t.id = some id)
    (he : c'.entities = assign (Datastore.taskKey id) (Datastore.ofTask t) c.entities) (hn : c.nextId ≤ c'.nextId)
    (hlt : id < c'.nextId) : Holds (.datastore c') (assign id t tasks) := by
  refine ⟨nodup_assign h.nodup t, named_assign h.named hid, ?_, ?_⟩
  · rw [he, h.stored.1]
    exact Remote.assign_entitiesOf id t tasks
  · intro i hi
    obtain ⟨value, hmem⟩ := exists_of_mem_keys hi
    rcases mem_assign hmem with heq | hmem
    · rwa [(Prod.mk.inj heq).1]
    · exact (h.stored.2 i (mem_keys_of_mem hmem)).trans_le hn

end Assign

section Running

variable {α : Type} {s s' : Store} {a : α} {f : Failure}

lemma settle_ok {β : Type} {outcome : Except Failure β} {result : β → α × Backend} :
    s.settle (outcome.map result) = .ok a s' ↔
      ∃ r, outcome = .ok r ∧ a = (result r).1 ∧ s' = { s with backend := (result r).2 } := by
  cases outcome with
  | error f => simp [Except.map, Store.settle]
  | ok r => simp [Except.map, Store.settle, eq_comm]

lemma settle_error {outcome : Except Failure (α × Backend)} :
    s.settle outcome = .error f s' ↔ outcome = .error f ∧ s' = s := by
  cases outcome <;> simp [Store.settle, eq_comm]

lemma onClient_of_ok {c after : Datastore.Client} {act : Datastore.Action α} (h : act c = .ok a after) :
    s.onClient c act = .ok a { s with backend := .datastore after } := by
  simp only [Store.onClient, h]

lemma onClient_of_error {c after : Datastore.Client} {act : Datastore.Action α} (h : act c = .error f after) :
    s.onClient c act = .error f { s with backend := .datastore after } := by
  simp only [Store.onClient, h]

end Running

section Add

variable {s s' : Store} {t r : Task} {f : Failure} {tasks : List (ℤ × Task)}

lemma add_error (h : Store.add t s = .error f s') : Untouched s.backend s'.backend := by
  obtain ⟨b, journal⟩ := s
  cases b with
  | memory m => cases h
  | sql d =>
    obtain ⟨_, rfl⟩ := settle_error.mp h
    exact rfl
  | datastore c =>
    cases hp : c.faults .put with
    | none => cases (onClient_of_ok (Remote.add_of_none hp t)).symm.trans h
    | some g =>
      cases (onClient_of_error (Remote.add_of_fault hp t)).symm.trans h
      exact ⟨_, rfl⟩

lemma add_ok (hs : Holds s.backend tasks) (h : Store.add t s = .ok r s') : ∃ id kept,
    r = { t with id := some id } ∧ (t.id = none → id = newId s.backend ∧ Passed s'.backend id) ∧
      Saves s.backend r kept ∧
      Holds s'.backend (assign id kept tasks) ∧ Kin s.backend s'.backend := by
  obtain ⟨b, journal⟩ := s
  cases b with
  | memory m =>
    cases hid : t.id with
    | none =>
      have hfree : m.tasks ++ [((m.freeId : ℤ), { t with id := some (m.freeId : ℤ) })] =
        assign (m.freeId : ℤ) { t with id := some (m.freeId : ℤ) } m.tasks :=
          (assign_of_notMem (InMemory.freeId_notMem m) _).symm
      simp only [Store.add, InMemory.add_new hid, hfree] at h
      cases h
      have hle := (InMemory.freeId_spec m).2.1
      exact ⟨m.freeId, _, rfl, fun _ => ⟨rfl, Int.lt_succ m.freeId⟩, rfl, hs.assign_memory rfl _,
        hle.trans m.freeId.le_succ⟩
    | some id =>
      simp only [Store.add, InMemory.add_own hid] at h
      cases h
      refine ⟨id, t, by rw [← hid], ?_, rfl, hs.assign_memory hid _, le_refl m.next⟩
      rintro ⟨⟩
  | sql d =>
    have hrows := hs.stored.1
    obtain ⟨_, hadd, rfl, rfl⟩ := settle_ok.mp h
    obtain ⟨_, ⟨text, c, u, htext, hc, hu, rfl⟩, rfl⟩ := (InTable.add_eq_ok hrows).mp hadd
    have hnew : Database.newId (InTable.rowsOf tasks) = newId (.sql d) := by rw [newId, hrows]; rfl
    have hk : InTable.Saves { t with id := some (newId (.sql d)) }
      ⟨.text text, .time u, t.done, some (newId (.sql d))⟩ := ⟨text, c, u, htext, hc, hu, rfl⟩
    have hfree := InTable.newId_notMem (InTable.rowsOf tasks)
    rw [← assign_of_notMem hfree, hnew]
    exact ⟨newId (.sql d), _, rfl, fun _ => ⟨rfl, trivial⟩, hk, hs.assign_sql hrows hk.plain rfl, trivial⟩
  | datastore c =>
    cases hp : c.faults .put with
    | some g => cases (onClient_of_error (Remote.add_of_fault hp t)).symm.trans h
    | none =>
      cases (onClient_of_ok (Remote.add_of_none hp t)).symm.trans h
      exact ⟨c.nextId, _, rfl, fun _ => ⟨rfl, trivial⟩, rfl,
        hs.assign_datastore rfl rfl (Int.le_add_one le_rfl) (Int.lt_succ c.nextId), rfl⟩

lemma exists_add_ok (hs : Holds s.backend tasks) (hc : Calm s.backend) (ht : Keepable t) :
    ∃ r s', Store.add t s = .ok r s' := by
  obtain ⟨b, journal⟩ := s
  cases b with
  | memory m => exact ⟨_, _, rfl⟩
  | sql d =>
    obtain ⟨⟨text, htext⟩, hcreated⟩ := ht
    obtain ⟨kept, hk, _⟩ := InTable.saves_of_storable htext hcreated
    have hadd := (InTable.add_eq_ok hs.stored.1).mpr ⟨kept, hk, rfl⟩
    exact ⟨_, _, settle_ok.mpr ⟨_, hadd, rfl, rfl⟩⟩
  | datastore c => exact ⟨_, _, onClient_of_ok (Remote.add_of_none (hc .put) t)⟩

end Add

section Modify

variable {s s' : Store} {id : ℤ} {change : Change} {t r : Task} {f : Failure} {tasks : List (ℤ × Task)}

lemma modify_error (h : Store.modify id change s = .error f s') : Untouched s.backend s'.backend := by
  obtain ⟨b, journal⟩ := s
  cases b with
  | memory m =>
    obtain ⟨_, rfl⟩ := settle_error.mp h
    exact rfl
  | sql d =>
    obtain ⟨_, rfl⟩ := settle_error.mp h
    exact rfl
  | datastore c =>
    rcases Remote.modify_cases id change c with ⟨g, calls, hm⟩ | ⟨e, t, calls, _, _, hm⟩
    · cases (onClient_of_error hm).symm.trans h
      exact ⟨calls, rfl⟩
    · cases (onClient_of_ok hm).symm.trans h

lemma modify_ok (hs : Holds s.backend tasks) (h : Store.modify id change s = .ok r s') : ∃ t changed kept,
    (id, t) ∈ tasks ∧ change t = .ok changed ∧ r = { changed with id := some id } ∧ Saves s.backend r kept ∧
      Holds s'.backend (assign id kept tasks) ∧ Kin s.backend s'.backend := by
  obtain ⟨b, journal⟩ := s
  cases b with
  | memory m =>
    obtain ⟨_, hm, rfl, rfl⟩ := settle_ok.mp h
    cases hl : m.tasks.lookup id with
    | none =>
      rw [InMemory.modify_of_absent (lookup_eq_none_iff.mp hl)] at hm
      cases hm
    | some t =>
      rw [InMemory.modify_of_present hl] at hm
      obtain ⟨changed, hch, rfl⟩ := map_eq_ok.mp hm
      rw [show m.tasks = tasks from hs.stored] at hl
      exact ⟨t, changed, _, mem_of_lookup hl, hch, rfl, rfl, hs.assign_memory rfl _, le_refl m.next⟩
  | sql d =>
    obtain ⟨hrows, hplain⟩ := hs.stored
    obtain ⟨_, hm, rfl, rfl⟩ := settle_ok.mp h
    obtain ⟨_, old, hl, t, changed, _, ht, hch, ⟨text, c, u, htext, hc, hu, rfl⟩, rfl⟩ :=
      (InTable.modify_eq_ok hrows).mp hm
    have hk : InTable.Saves { changed with id := some id } ⟨.text text, .time u, changed.done, some id⟩ :=
      ⟨text, c, u, htext, hc, hu, rfl⟩
    rw [InTable.lookup_rowsOf] at hl
    obtain ⟨t', hl', rfl⟩ := Option.map_eq_some_iff.mp hl
    have hmem := mem_of_lookup hl'
    rw [InTable.toTask_eq_ok (hplain _ hmem) (hs.named _ hmem) ht] at hch
    exact ⟨t', changed, _, hmem, hch, rfl, hk, hs.assign_sql hrows hk.plain rfl, trivial⟩
  | datastore c =>
    obtain ⟨hents, hnext⟩ := hs.stored
    rcases Remote.modify_cases id change c with ⟨g, calls, hm⟩ | ⟨e, changed, calls, hl, hch, hm⟩
    · cases (onClient_of_error hm).symm.trans h
    · cases (onClient_of_ok hm).symm.trans h
      rw [hents, Remote.lookup_entitiesOf] at hl
      obtain ⟨t, hl', rfl⟩ := Option.map_eq_some_iff.mp hl
      have hmem := mem_of_lookup hl'
      have hid : { t with id := some id } = t := by rw [← hs.named _ hmem]
      have hch : change { t with id := some id } = .ok changed := hch
      rw [hid] at hch
      exact ⟨t, changed, _, hmem, hch, rfl, rfl,
        hs.assign_datastore rfl rfl le_rfl (hnext id (mem_keys_of_mem hmem)), rfl⟩

lemma modify_of_absent (hs : Holds s.backend tasks) (hc : Calm s.backend) (hr : Addressable s.backend id)
    (hid : id ∉ keys tasks) : ∃ s', Untouched s.backend s'.backend ∧
      ∀ change, Store.modify id change s = .error (.taskNotFound id) s' := by
  obtain ⟨b, journal⟩ := s
  cases b with
  | memory m =>
    rw [← show m.tasks = tasks from hs.stored] at hid
    exact ⟨_, Untouched.refl _, fun change =>
      settle_error.mpr ⟨by rw [InMemory.modify_of_absent hid change]; rfl, rfl⟩⟩
  | sql d =>
    have hrow : id ∉ keys (InTable.rowsOf tasks) := by rwa [InTable.keys_rowsOf]
    exact ⟨_, Untouched.refl _, fun change =>
      settle_error.mpr ⟨by rw [InTable.modify_of_absent hs.stored.1 hr hrow change]; rfl, rfl⟩⟩
  | datastore c =>
    have hl : c.entities.lookup (Datastore.taskKey id) = none := by
      rw [hs.stored.1, Remote.lookup_entitiesOf, lookup_eq_none_iff.mpr hid]
      rfl
    have hm (change : Change) : Datastore.modify id change c = .error (.taskNotFound id)
        (Remote.noted c [Remote.began, Remote.got id true, Remote.undone]) := by
      rw [Remote.modify_of_none hc, hl]
    exact ⟨⟨_, journal⟩, ⟨_, rfl⟩, fun change => onClient_of_error (hm change)⟩

lemma exists_modify_ok (hs : Holds s.backend tasks) (hc : Calm s.backend) (hr : Addressable s.backend id)
    (ht : (id, t) ∈ tasks) (hk : Keepable t) {changed : Task} (hch : change t = .ok changed) (hk' : Keepable changed) :
    ∃ r s', Store.modify id change s = .ok r s' := by
  obtain ⟨b, journal⟩ := s
  cases b with
  | memory m =>
    rw [← show m.tasks = tasks from hs.stored] at ht
    have hl : m.tasks.lookup id = some t := by
      rw [show m.tasks = tasks from hs.stored] at ht ⊢
      exact hs.mem_iff.mp ht
    exact ⟨_, _, settle_ok.mpr ⟨_, by rw [InMemory.modify_of_present hl, hch]; rfl, rfl, rfl⟩⟩
  | sql d =>
    obtain ⟨⟨text, htext⟩, hcreated⟩ := hk'
    obtain ⟨kept, hsave, _⟩ := InTable.saves_of_storable htext hcreated
    have hl : (InTable.rowsOf tasks).lookup id = some (InTable.row t) := by
      rw [InTable.lookup_rowsOf, hs.mem_iff.mp ht]
      rfl
    have hplain := hs.stored.2 _ ht
    have hread := InTable.toTask_row hplain (hs.named _ ht) (hplain.year_le hk.2)
    have hm := (InTable.modify_eq_ok hs.stored.1).mpr ⟨hr, _, hl, t, changed, kept, hread, hch, hsave, rfl⟩
    exact ⟨_, _, settle_ok.mpr ⟨_, hm, rfl, rfl⟩⟩
  | datastore c =>
    have hl : c.entities.lookup (Datastore.taskKey id) = some (Datastore.ofTask t) := by
      rw [hs.stored.1, Remote.lookup_entitiesOf, hs.mem_iff.mp ht]
      rfl
    have hm := Remote.modify_of_none hc id change
    have hid : { t with id := some id } = t := by rw [← hs.named _ ht]
    have hread : (Datastore.toTask (Datastore.taskKey id) (Datastore.ofTask t) >>= change) = .ok changed := by
      rw [Remote.toTask_ofTask, hid]
      exact hch
    simp only [hl, hread] at hm
    exact ⟨_, _, onClient_of_ok hm⟩

end Modify

section Get

variable {s s' : Store} {id : ℤ} {r : Option Task} {f : Failure} {tasks : List (ℤ × Task)}

lemma get_error (h : Store.get id s = .error f s') : Untouched s.backend s'.backend := by
  obtain ⟨b, journal⟩ := s
  cases b with
  | memory m => cases h
  | sql d =>
    obtain ⟨_, rfl⟩ := settle_error.mp h
    exact rfl
  | datastore c =>
    cases hg : c.faults .get with
    | some g =>
      cases (onClient_of_error (Remote.getTask_of_fault hg id)).symm.trans h
      exact ⟨_, rfl⟩
    | none =>
      have hget := Remote.getTask_of_none hg id
      split at hget
      · cases (onClient_of_ok hget).symm.trans h
      · split at hget
        · cases (onClient_of_ok hget).symm.trans h
        · cases (onClient_of_error hget).symm.trans h
          exact ⟨_, rfl⟩

lemma get_ok (hs : Holds s.backend tasks) (h : Store.get id s = .ok r s') :
    r = tasks.lookup id ∧ Untouched s.backend s'.backend := by
  obtain ⟨b, journal⟩ := s
  cases b with
  | memory m =>
    cases h
    exact ⟨by rw [Memory.get?, show m.tasks = tasks from hs.stored], rfl⟩
  | sql d =>
    obtain ⟨hrows, hplain⟩ := hs.stored
    obtain ⟨found, hget, rfl, rfl⟩ := settle_ok.mp h
    refine ⟨?_, rfl⟩
    have hid : TaskId.inRange id = true := by
      obtain ⟨_, hsearch, _⟩ := bind_eq_ok.mp hget
      exact ((InTable.searchable_eq_ok hrows).mp (InTable.reported_eq_ok.mp hsearch)).1
    rw [InTable.get_eq hrows hid, InTable.lookup_rowsOf] at hget
    cases hl : tasks.lookup id with
    | none =>
      rw [hl] at hget
      cases hget
      rfl
    | some t =>
      rw [hl] at hget
      obtain ⟨t', ht', rfl⟩ := map_eq_ok.mp hget
      have hmem := hs.mem_iff.mpr hl
      rw [InTable.toTask_eq_ok (hplain _ hmem) (hs.named _ hmem) ht']
  | datastore c =>
    cases hg : c.faults .get with
    | some g => cases (onClient_of_error (Remote.getTask_of_fault hg id)).symm.trans h
    | none =>
      have hget := Remote.getTask_of_none hg id
      rw [hs.stored.1, Remote.lookup_entitiesOf] at hget
      cases hl : tasks.lookup id with
      | none =>
        rw [hl] at hget
        cases (onClient_of_ok hget).symm.trans h
        exact ⟨rfl, _, rfl⟩
      | some t =>
        have hid : { t with id := some id } = t := by rw [← hs.named _ (hs.mem_iff.mpr hl)]
        simp only [hl, Option.map_some, Remote.toTask_ofTask, hid] at hget
        cases (onClient_of_ok hget).symm.trans h
        exact ⟨rfl, _, rfl⟩

lemma exists_get_ok (hs : Holds s.backend tasks) (hc : Calm s.backend) (hr : Addressable s.backend id)
    (hk : ∀ e ∈ tasks, Keepable e.2) : ∃ r s', Store.get id s = .ok r s' := by
  obtain ⟨b, journal⟩ := s
  cases b with
  | memory m => exact ⟨_, _, rfl⟩
  | sql d =>
    obtain ⟨hrows, hplain⟩ := hs.stored
    have hget : ∃ found, d.get id = .ok found := by
      rw [InTable.get_eq hrows hr, InTable.lookup_rowsOf]
      cases hl : tasks.lookup id with
      | none => exact ⟨_, rfl⟩
      | some t =>
        have hmem := hs.mem_iff.mpr hl
        have hread := InTable.toTask_row (hplain _ hmem) (hs.named _ hmem) ((hplain _ hmem).year_le (hk _ hmem).2)
        exact ⟨some t, map_eq_ok.mpr ⟨t, hread, rfl⟩⟩
    obtain ⟨found, hget⟩ := hget
    exact ⟨_, _, settle_ok.mpr ⟨_, hget, rfl, rfl⟩⟩
  | datastore c =>
    have hget := Remote.getTask_of_none (hc .get) id
    rw [hs.stored.1, Remote.lookup_entitiesOf] at hget
    cases hl : tasks.lookup id with
    | none =>
      rw [hl] at hget
      exact ⟨_, _, onClient_of_ok hget⟩
    | some t =>
      rw [hl] at hget
      exact ⟨_, _, onClient_of_ok hget⟩

end Get

section Remove

variable {s s' : Store} {id : ℤ} {f : Failure} {tasks : List (ℤ × Task)}

lemma remove_error (h : Store.remove id s = .error f s') : Untouched s.backend s'.backend := by
  obtain ⟨b, journal⟩ := s
  cases b with
  | memory m => cases h
  | sql d =>
    obtain ⟨_, rfl⟩ := settle_error.mp h
    exact rfl
  | datastore c =>
    cases hd : c.faults .delete with
    | none => cases (onClient_of_ok (Remote.remove_of_none hd id)).symm.trans h
    | some g =>
      cases (onClient_of_error (Remote.remove_of_fault hd id)).symm.trans h
      exact ⟨_, rfl⟩

lemma remove_ok (hs : Holds s.backend tasks) (h : Store.remove id s = .ok () s') :
    Holds s'.backend (erase id tasks) ∧ Kin s.backend s'.backend := by
  have hnamed := named_erase hs.named id
  have hnodup := nodup_erase hs.nodup id
  obtain ⟨b, journal⟩ := s
  cases b with
  | memory m =>
    cases h
    exact ⟨⟨hnodup, hnamed, congrArg (erase id) hs.stored⟩, le_refl m.next⟩
  | sql d =>
    obtain ⟨hrows, hplain⟩ := hs.stored
    obtain ⟨_, hrem, _, rfl⟩ := settle_ok.mp h
    obtain ⟨_, rfl⟩ := (InTable.remove_eq_ok hrows).mp hrem
    refine ⟨⟨hnodup, hnamed, congrArg some (InTable.erase_rowsOf id tasks), ?_⟩, trivial⟩
    exact fun e he => hplain e (List.mem_filter.mp he).1
  | datastore c =>
    obtain ⟨hents, hnext⟩ := hs.stored
    cases hd : c.faults .delete with
    | some g => cases (onClient_of_error (Remote.remove_of_fault hd id)).symm.trans h
    | none =>
      cases (onClient_of_ok (Remote.remove_of_none hd id)).symm.trans h
      refine ⟨⟨hnodup, hnamed, ?_, ?_⟩, rfl⟩
      · rw [hents]
        exact Remote.erase_entitiesOf id tasks
      · intro i hi
        rw [keys_erase] at hi
        exact hnext i (List.mem_filter.mp hi).1

lemma remove_of_absent (hs : Holds s.backend tasks) (hid : id ∉ keys tasks) (h : Store.remove id s = .ok () s') :
    Untouched s.backend s'.backend := by
  obtain ⟨b, journal⟩ := s
  cases b with
  | memory m =>
    cases h
    rw [← show m.tasks = tasks from hs.stored] at hid
    exact congrArg Backend.memory (by rw [Memory.remove, erase_of_notMem hid])
  | sql d =>
    obtain ⟨hrows, hplain⟩ := hs.stored
    obtain ⟨_, hrem, _, rfl⟩ := settle_ok.mp h
    obtain ⟨_, rfl⟩ := (InTable.remove_eq_ok hrows).mp hrem
    rw [InTable.erase_rowsOf, erase_of_notMem hid, ← hrows]
    exact rfl
  | datastore c =>
    cases hd : c.faults .delete with
    | some g => cases (onClient_of_error (Remote.remove_of_fault hd id)).symm.trans h
    | none =>
      cases (onClient_of_ok (Remote.remove_of_none hd id)).symm.trans h
      refine ⟨[Remote.deleted id], ?_⟩
      rw [hs.stored.1, Remote.erase_entitiesOf, erase_of_notMem hid, ← hs.stored.1]
      rfl

lemma exists_remove_ok (hs : Holds s.backend tasks) (hc : Calm s.backend) (hr : Addressable s.backend id) :
    ∃ s', Store.remove id s = .ok () s' := by
  obtain ⟨b, journal⟩ := s
  cases b with
  | memory m => exact ⟨_, rfl⟩
  | sql d =>
    have hrem := (InTable.remove_eq_ok hs.stored.1).mpr ⟨hr, rfl⟩
    exact ⟨_, settle_ok.mpr ⟨_, hrem, rfl, rfl⟩⟩
  | datastore c => exact ⟨_, onClient_of_ok (Remote.remove_of_none (hc .delete) id)⟩

end Remove

section Listing

def finalStore {α : Type} : EStateM.Result Failure Store α → Store
  | .ok _ s => s
  | .error _ s => s

lemma finalStore_lift {α : Type} (outcome : Except Failure α) (s : Store) : finalStore (Store.lift outcome s) = s := by
  cases outcome <;> rfl

lemma list_untouched (s : Store) : Untouched s.backend (finalStore (Store.list s)).backend := by
  obtain ⟨b, journal⟩ := s
  cases b with
  | memory m =>
    rw [show finalStore (Store.list ⟨.memory m, journal⟩) = _ from finalStore_lift _ _]
    exact rfl
  | sql d =>
    rw [show finalStore (Store.list ⟨.sql d, journal⟩) = _ from finalStore_lift _ _]
    exact rfl
  | datastore c =>
    cases hf : c.faults .fetch with
    | some f =>
      refine ⟨[Remote.listed], ?_⟩
      simp [Store.list, bind, EStateM.bind, onClient_of_error (Remote.fetch_of_fault hf), finalStore]
    | none =>
      refine ⟨[Remote.listed], ?_⟩
      simp [Store.list, bind, EStateM.bind, onClient_of_ok (Remote.fetch_of_none hf), Store.log, finalStore_lift]

end Listing

end TaskBoard.Proofs.Stores
