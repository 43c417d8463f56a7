import TaskBoard.Proofs.Stores.Runs

namespace TaskBoard.Proofs.Stores

open TaskBoard.Entries Proofs.Entries

def Found (s : Store) (id : ℤ) (r : Option Task) : Prop :=
  ∃ s', Store.get id s = .ok r s' ∧ Untouched s.backend s'.backend

/-- Tasks that agree up to the zone in which the time of creation is given. -/
def Same (t u : Task) : Prop :=
  u.description = t.description ∧ t.created.same u.created = true ∧ u.done = t.done ∧ u.id = t.id

def FoundSame (s : Store) (id : ℤ) (t : Task) : Prop := ∃ r, Found s id (some r) ∧ Same t r

def Frame (s s' : Store) (id : ℤ) : Prop := ∀ j, j ≠ id → TaskId.inRange j = true → ∀ r, Found s' j r ↔ Found s j r

structure Laws (s : Store) : Prop where
  quiet : ∀ s', Untouched s.backend s'.backend → ∀ j, TaskId.inRange j = true → ∀ r, Found s' j r ↔ Found s j r
  get : ∀ id, TaskId.inRange id = true → ∃ r, Found s id r ∧ (r = none ↔ id ∉ keys (contents s.backend))
  add : ∀ t, t.id = none → Keepable t → ∃ id s', Store.add t s = .ok { t with id := some id } s' ∧
    id ∉ keys (contents s.backend) ∧ Frame s s' id ∧
      (TaskId.inRange id = true → FoundSame s' id { t with id := some id })
  modify : ∀ id t change changed, TaskId.inRange id = true → Found s id (some t) → change t = .ok changed →
    Keepable changed → ∃ s', Store.modify id change s = .ok { changed with id := some id } s' ∧ Frame s s' id ∧
      FoundSame s' id { changed with id := some id }
  refused : ∀ id t change f, Found s id (some t) → change t = .error f →
    ∃ g s', Store.modify id change s = .error g s' ∧ Untouched s.backend s'.backend
  missing : ∀ id, TaskId.inRange id = true → Found s id none →
    ∃ s', Untouched s.backend s'.backend ∧ ∀ change, Store.modify id change s = .error (.taskNotFound id) s'
  remove : ∀ id, TaskId.inRange id = true → ∃ s', Store.remove id s = .ok () s' ∧ Found s' id none ∧ Frame s s' id ∧
    (Found s id none → Untouched s.backend s'.backend)

structure Steady (s : Store) (tasks : List (ℤ × Task)) : Prop where
  holds : Holds s.backend tasks
  calm : Calm s.backend
  keepable : ∀ e ∈ tasks, Keepable e.2

section Steady

variable {s s' : Store} {tasks : List (ℤ × Task)}

lemma Steady.untouched (h : Steady s tasks) (hu : Untouched s.backend s'.backend) : Steady s' tasks :=
  ⟨hu.holds h.holds, hu.kin.calm h.calm, h.keepable⟩

lemma Steady.assign (h : Steady s tasks) {id : ℤ} {t : Task} (hs : Holds s'.backend (assign id t tasks))
    (hk : Kin s.backend s'.backend) (ht : Keepable t) : Steady s' (TaskBoard.Entries.assign id t tasks) :=
  ⟨hs, hk.calm h.calm, keepable_assign h.keepable ht id⟩

lemma Steady.erase (h : Steady s tasks) {id : ℤ} (hr : Store.remove id s = .ok () s') :
    Steady s' (TaskBoard.Entries.erase id tasks) :=
  ⟨(remove_ok h.holds hr).1, (remove_ok h.holds hr).2.calm h.calm, keepable_erase h.keepable id⟩

end Steady

section Reading

variable {s s' : Store} {tasks : List (ℤ × Task)} {id : ℤ} {t kept : Task} {r : Option Task}

lemma Found.eq_lookup (h : Found s id r) (hs : Holds s.backend tasks) : r = tasks.lookup id := by
  obtain ⟨s', hget, _⟩ := h
  exact (get_ok hs hget).1

lemma Steady.found (h : Steady s tasks) (hr : TaskId.inRange id = true) : Found s id (tasks.lookup id) := by
  obtain ⟨r, s', hget⟩ := exists_get_ok h.holds h.calm (addressable_of_inRange hr s.backend) h.keepable
  obtain ⟨rfl, hu⟩ := get_ok h.holds hget
  exact ⟨s', hget, hu⟩

lemma Steady.found_iff (h : Steady s tasks) (hr : TaskId.inRange id = true) : Found s id r ↔ r = tasks.lookup id := by
  constructor
  · intro hf
    exact hf.eq_lookup h.holds
  · rintro rfl
    exact h.found hr

lemma Steady.found_of_mem (h : Steady s tasks) (hr : TaskId.inRange id = true) (hm : (id, t) ∈ tasks) :
    Found s id (some t) := (h.found_iff hr).mpr (lookup_of_mem h.holds.nodup hm).symm

lemma Steady.frame {tasks' : List (ℤ × Task)} (h : Steady s tasks) (h' : Steady s' tasks')
    (hl : ∀ j, j ≠ id → tasks'.lookup j = tasks.lookup j) : Frame s s' id := by
  intro j hj hr r
  rw [h.found_iff hr, h'.found_iff hr, hl j hj]

lemma Saves.same {b : Backend} (h : Saves b t kept) (ht : Keepable t) : Same t kept := by
  obtain ⟨⟨text, htext⟩, c, hc, haware, _⟩ := ht
  have hself : t.created.same t.created = true := by simp [hc, Value.same, Time.Timestamp.sameTime]
  cases b with
  | memory m => rw [show kept = t from h]; exact ⟨rfl, hself, rfl, rfl⟩
  | datastore c => rw [show kept = t from h]; exact ⟨rfl, hself, rfl, rfl⟩
  | sql d =>
    obtain ⟨s, c', u, hs, hc', hu, rfl⟩ := h
    obtain rfl : c = c' := Value.time.inj (hc.symm.trans hc')
    obtain ⟨hzero, hinstant⟩ := Stamp.toUtc?_spec (Stamp.toUtc_spec hu)
    rw [htext, Database.encodeDescription] at hs
    cases hs
    refine ⟨htext.symm, ?_, rfl, rfl⟩
    rw [hc, Value.same, Time.Timestamp.sameTime, haware, hinstant, Time.Timestamp.isAware, hzero]
    simp

lemma Steady.foundSame (h : Steady s' (TaskBoard.Entries.assign id kept tasks)) (hr : TaskId.inRange id = true)
    {b : Backend}
    (hsave : Saves b t kept) (ht : Keepable t) : FoundSame s' id t := by
  refine ⟨kept, ?_, hsave.same ht⟩
  rw [h.found_iff hr, lookup_assign_self]

end Reading

lemma Steady.laws {s : Store} {tasks : List (ℤ × Task)} (h : Steady s tasks) : Laws s where
  quiet s' hu j hr r := by rw [(h.untouched hu).found_iff hr, h.found_iff hr]
  get id hr := by
    refine ⟨_, h.found hr, ?_⟩
    rw [h.holds.keys_contents]
    exact lookup_eq_none_iff
  add t hid ht := by
    obtain ⟨r, s', hadd⟩ := exists_add_ok h.holds h.calm ht
    obtain ⟨id, kept, rfl, hnew, hsave, hs', hkin⟩ := add_ok h.holds hadd
    have ht' : Keepable { t with id := some id } := ht
    have hst := h.assign hs' hkin (hsave.keepable ht')
    refine ⟨id, s', hadd, ?_, h.frame hst fun j hj => lookup_assign_of_ne hj kept tasks, fun hr => ?_⟩
    · rw [h.holds.keys_contents, (hnew hid).1]
      exact h.holds.newId_notMem
    · exact hst.foundSame hr hsave ht'
  modify id t change changed hr hf hch hk := by
    have hmem := mem_of_lookup (hf.eq_lookup h.holds).symm
    have haddr := addressable_of_inRange hr s.backend
    obtain ⟨r, s', hmod⟩ := exists_modify_ok h.holds h.calm haddr hmem (h.keepable _ hmem) hch hk
    obtain ⟨t', changed', kept, hmem', hch', rfl, hsave, hs', hkin⟩ := modify_ok h.holds hmod
    have ht : t' = t := Option.some.inj ((h.holds.mem_iff.mp hmem').symm.trans (h.holds.mem_iff.mp hmem))
    rw [ht, hch] at hch'
    cases hch'
    have hk' : Keepable { changed with id := some id } := hk
    have hst := h.assign hs' hkin (hsave.keepable hk')
    exact ⟨s', hmod, h.frame hst fun j hj => lookup_assign_of_ne hj kept tasks, hst.foundSame hr hsave hk'⟩
  refused id t change f hf hch := by
    have hmem := mem_of_lookup (hf.eq_lookup h.holds).symm
    cases hmod : Store.modify id change s with
    | error g s' => exact ⟨g, s', rfl, modify_error hmod⟩
    | ok r s' =>
      obtain ⟨t', changed, _, hmem', hch', _⟩ := modify_ok h.holds hmod
      have ht : t' = t := Option.some.inj ((h.holds.mem_iff.mp hmem').symm.trans (h.holds.mem_iff.mp hmem))
      rw [ht, hch] at hch'
      cases hch'
  missing id hr hf :=
    modify_of_absent h.holds h.calm (addressable_of_inRange hr _) (lookup_eq_none_iff.mp (hf.eq_lookup h.holds).symm)
  remove id hr := by
    obtain ⟨s', hrem⟩ := exists_remove_ok h.holds h.calm (addressable_of_inRange hr _)
    have hst := h.erase hrem
    refine ⟨s', hrem, ?_, h.frame hst fun j hj => lookup_erase_of_ne hj tasks, fun hf => ?_⟩
    · rw [hst.found_iff hr, lookup_erase_self]
    · exact remove_of_absent h.holds (lookup_eq_none_iff.mp (hf.eq_lookup h.holds).symm) hrem

/--
The laws hold once no call fails, after any operations on a new store that wrote what can be kept: texts without halves
of surrogate pairs, and times with a fixed offset.
-/
theorem laws_of_run {b : Backend} (hb : Fresh b) (journal : List Log.Record) {operations : List Operation}
    (hops : AllKeep operations ⟨b, journal⟩) (hc : Calm (run operations ⟨b, journal⟩).backend) :
    Laws (run operations ⟨b, journal⟩) := by
  obtain ⟨tasks, h, hk⟩ := run_keepable (s := ⟨b, journal⟩) hb.holds (by simp) hops
  have hsteady : Steady _ tasks := ⟨h, hc, hk⟩
  exact hsteady.laws

def sample : Task := { description := .text "water the plants", created := .time .epoch }

lemma sample_keepable : Keepable sample := ⟨⟨_, rfl⟩, .epoch, rfl, rfl, .epoch, rfl, by decide⟩

theorem laws_of_run_sample : Laws (run [.add sample, .setFaults fun _ => some (.value "offline"), .remove 7,
    .setFaults fun _ => none, .modify 7 fun t => .ok t.complete] ⟨.datastore { nextId := 7 }, []⟩) := by
  refine laws_of_run (.datastore 7) [] ⟨sample_keepable, trivial, trivial, trivial, ?_, trivial⟩ fun _ => rfl
  rintro r s' ⟨⟩
  exact sample_keepable

end TaskBoard.Proofs.Stores
