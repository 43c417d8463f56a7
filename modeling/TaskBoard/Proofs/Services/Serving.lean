import TaskBoard.Proofs.Services.Effects
import TaskBoard.Proofs.Stores.Listing

/-! A service over any store as a list of tasks, in which newer tasks have greater ids. -/

namespace TaskBoard.Proofs.Services

open TaskBoard.Entries Proofs.Entries Stores

def Recorded (t : Task) : Prop := (∃ text, t.description = .text text) ∧ Proofs.Order.Timed Dated t.created

lemma Recorded.keepable {t : Task} (h : Recorded t) : Keepable t := ⟨h.1, h.2.imp fun _ h => h.storable⟩

lemma Recorded.plain {t : Task} (h : Recorded t) : InTable.Plain t := ⟨h.1, h.2.imp fun _ h => h.1⟩

/-- The store holds the tasks, and can be searched for the ids that are of use. -/
structure Serves (useful : ℤ → Prop) (s : Service) (tasks : List (ℤ × Task)) : Prop where
  holds : Holds s.store.backend tasks
  calm : Calm s.store.backend
  addressable : ∀ id, useful id → Addressable s.store.backend id
  recorded : ∀ e ∈ tasks, Recorded e.2
  passed : ∀ i ∈ keys tasks, Passed s.store.backend i
  rising : (keys tasks).Pairwise (· < ·)

section Serving

variable {useful : ℤ → Prop} {s s' : Service} {tasks : List (ℤ × Task)} {id : ℤ} {t : Task}

lemma Serves.lt_newId (h : Serves useful s tasks) {i : ℤ} (hi : i ∈ keys tasks) : i < newId s.store.backend := by
  have hp := h.passed i hi
  have hs := h.holds.stored
  cases hb : s.store.backend with
  | memory m =>
    rw [hb] at hp
    exact lt_of_lt_of_le hp (Int.ofNat_le.mpr (InMemory.freeId_spec m).2.1)
  | sql d =>
    rw [hb] at hs
    rw [newId, hs.1, Option.getD_some]
    exact InTable.lt_newId (by rwa [InTable.keys_rowsOf])
  | datastore c =>
    rw [hb] at hs
    exact hs.2 i hi

lemma Serves.untouched (h : Serves useful s tasks) (hu : Untouched s.store.backend s'.store.backend) :
    Serves useful s' tasks :=
  ⟨hu.holds h.holds, hu.kin.calm h.calm, fun id hid => hu.kin.addressable (h.addressable id hid), h.recorded,
    fun i hi => hu.kin.passed (h.passed i hi), h.rising⟩

lemma Serves.of_eq (h : Serves useful s tasks) (hb : s'.store.backend = s.store.backend) : Serves useful s' tasks :=
  h.untouched (by rw [hb]; exact Untouched.refl _)

lemma Saves.eq_of_recorded {b : Backend} {kept : Task} (h : Saves b t kept) (ht : Recorded t) : kept = t := by
  cases b with
  | memory m => exact h
  | datastore c => exact h
  | sql d => exact InTable.Saves.eq_of_plain h ht.plain

lemma createTask_spec (h : Serves useful s tasks) {created : Time.Timestamp} (hr : s.clock.reading = .ok created)
    (hd : Dated created) (description : String) : ∃ s', s'.clock = s.clock.advance ∧
      Service.createTask description s =
        .ok { newTask description created with id := some (newId s.store.backend) } s' ∧
      Serves useful s' (tasks ++ [(newId s.store.backend,
        { newTask description created with id := some (newId s.store.backend) })]) := by
  have hrec : Recorded { newTask description created with id := some (newId s.store.backend) } :=
    ⟨⟨_, rfl⟩, created, rfl, hd⟩
  obtain ⟨t, st, ha⟩ := exists_add_ok h.holds h.calm (t := newTask description created) hrec.keepable
  obtain ⟨id, kept, rfl, hid, hsave, hst, hkin⟩ := add_ok h.holds ha
  obtain ⟨rfl, hpassed⟩ := hid rfl
  have hkept := Saves.eq_of_recorded hsave hrec
  rw [hkept, assign_of_notMem h.holds.newId_notMem] at hst
  obtain ⟨journal, hc⟩ := createTask_of_ok hr ha
  have huse (id : ℤ) (hid : useful id) := hkin.addressable (h.addressable id hid)
  refine ⟨_, rfl, hc, hst, hkin.calm h.calm, huse, ?_, ?_, ?_⟩
  · exact List.forall_mem_append.mpr ⟨h.recorded, by simpa using hrec⟩
  · rw [keys_append]
    exact List.forall_mem_append.mpr ⟨fun i hi => hkin.passed (h.passed i hi), by simpa using hpassed⟩
  · rw [keys_append, List.pairwise_append]
    refine ⟨h.rising, List.pairwise_singleton _ _, fun i hi j hj => ?_⟩
    rw [List.mem_singleton.mp hj]
    exact h.lt_newId hi

lemma Serves.completed (h : Serves useful s tasks) (ht : (id, t) ∈ tasks)
    (hst : Holds s'.store.backend (assign id t.complete tasks)) (hkin : Kin s.store.backend s'.store.backend) :
    Serves useful s' (assign id t.complete tasks) := by
  have hdone : Recorded t.complete := h.recorded (id, t) ht
  have hkeys := keys_assign_of_mem (mem_keys_of_mem ht) t.complete
  refine ⟨hst, hkin.calm h.calm, fun id hid => hkin.addressable (h.addressable id hid), fun e he => ?_, ?_, ?_⟩
  · rcases mem_assign he with rfl | he
    · exact hdone
    · exact h.recorded e he
  · rw [hkeys]
    exact fun i hi => hkin.passed (h.passed i hi)
  · rw [hkeys]
    exact h.rising

lemma Serves.removed (h : Serves useful s tasks) (hst : Holds s'.store.backend (erase id tasks))
    (hkin : Kin s.store.backend s'.store.backend) : Serves useful s' (erase id tasks) := by
  have hkeys := keys_erase id tasks
  refine ⟨hst, hkin.calm h.calm, fun id hid => hkin.addressable (h.addressable id hid),
    fun e he => h.recorded e (List.mem_filter.mp he).1, ?_, ?_⟩
  · rw [hkeys]
    exact fun i hi => hkin.passed (h.passed i (List.mem_filter.mp hi).1)
  · rw [hkeys]
    exact h.rising.filter _

lemma markDone_present (h : Serves useful s tasks) (hid : useful id) (ht : (id, t) ∈ tasks) :
    ∃ s', s'.clock = s.clock ∧ Service.markDone id s = .ok t.complete s' ∧
      Serves useful s' (assign id t.complete tasks) := by
  have hrec : Recorded t := h.recorded _ ht
  have hdone : Recorded t.complete := hrec
  have hmodify : ∃ r st, Store.modify id (fun t => .ok t.complete) s.store = .ok r st :=
    exists_modify_ok h.holds h.calm (h.addressable id hid) ht hrec.keepable rfl hdone.keepable
  obtain ⟨r, st, hm⟩ := hmodify
  obtain ⟨journal, hc⟩ := markDone_of_ok hm
  obtain ⟨t', hmem, rfl, hst, hkin⟩ := markDone_ok h.holds hc
  have heq : t' = t := Option.some.inj ((h.holds.mem_iff.mp hmem).symm.trans (h.holds.mem_iff.mp ht))
  rw [heq] at hc hst
  exact ⟨{ s with store := ⟨st.backend, journal⟩ }, rfl, hc, h.completed ht hst hkin⟩

lemma markDone_absent (h : Serves useful s tasks) (hid : useful id) (ht : id ∉ keys tasks) :
    ∃ s', s'.clock = s.clock ∧ Service.markDone id s = .error (.taskNotFound id) s' ∧ Serves useful s' tasks := by
  obtain ⟨st, hu, hm⟩ := modify_of_absent h.holds h.calm (h.addressable id hid) ht
  exact ⟨{ s with store := st }, rfl, markDone_of_error (hm _), h.untouched hu⟩

lemma removeTask_spec (h : Serves useful s tasks) (hid : useful id) :
    ∃ s', s'.clock = s.clock ∧ Service.removeTask id s = .ok () s' ∧ Serves useful s' (erase id tasks) := by
  obtain ⟨st, hm⟩ := exists_remove_ok h.holds h.calm (h.addressable id hid)
  obtain ⟨journal, hc⟩ := removeTask_of_ok hm
  obtain ⟨hst, hkin⟩ := removeTask_ok h.holds hc
  exact ⟨{ s with store := ⟨st.backend, journal⟩ }, rfl, hc, h.removed hst hkin⟩

lemma listTasks_spec (h : Serves useful s tasks) : ∃ s', s'.clock = s.clock ∧
    Service.listTasks s = .ok ((values tasks).mergeSort Task.notAfter) s' ∧ Serves useful s' tasks := by
  obtain ⟨st, hl⟩ := list_ok h.holds h.calm fun e he => (h.recorded e he).2
  have hu := list_untouched s.store
  rw [hl] at hu
  refine ⟨{ s with store := st }, rfl, ?_, h.untouched hu⟩
  simp only [Service.listTasks, Service.onStore, hl]

end Serving

end TaskBoard.Proofs.Services
