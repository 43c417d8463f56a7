import TaskBoard.Proofs.Stores.Runs
import TaskBoard.Service

namespace TaskBoard.Proofs.Services

open TaskBoard.Entries Proofs.Entries Stores

def newTask (description : String) (created : Time.Timestamp) : Task :=
  { description := .text description, created := .time created }

section Equations

variable {s : Service} {st : Store} {f : Failure}

lemma lift_ok {α : Type} {outcome : Except Failure α} {a : α} {s' : Service} :
    Service.lift outcome s = .ok a s' ↔ outcome = .ok a ∧ s' = s := by
  cases outcome <;> simp [Service.lift, eq_comm]

lemma lift_error {α : Type} {outcome : Except Failure α} {s' : Service} :
    Service.lift outcome s = .error f s' ↔ outcome = .error f ∧ s' = s := by
  cases outcome <;> simp [Service.lift, eq_comm]

lemma createTask_of_clock (h : s.clock.reading = .error f) (description : String) :
    Service.createTask description s = .error f { s with clock := s.clock.advance } := by
  simp [Service.createTask, bind, EStateM.bind, Service.now, h]

lemma createTask_of_error {created : Time.Timestamp} {description : String} (hr : s.clock.reading = .ok created)
    (h : Store.add (newTask description created) s.store = .error f st) :
    Service.createTask description s = .error f ⟨st, s.clock.advance⟩ := by
  rw [newTask] at h
  simp [Service.createTask, bind, EStateM.bind, Service.now, hr, Service.onStore, h]

lemma createTask_of_ok {created : Time.Timestamp} {description : String} {t : Task} (hr : s.clock.reading = .ok created)
    (h : Store.add (newTask description created) s.store = .ok t st) : ∃ journal,
    Service.createTask description s = .ok t ⟨⟨st.backend, journal⟩, s.clock.advance⟩ := by
  rw [newTask] at h
  simp [Service.createTask, bind, EStateM.bind, Service.now, hr, Service.onStore, h, Service.noteTask, Service.log,
    Store.log, pure, EStateM.pure]

lemma markDone_of_error {id : ℤ} (h : Store.modify id (fun t => .ok t.complete) s.store = .error f st) :
    Service.markDone id s = .error f { s with store := st } := by
  simp [Service.markDone, bind, EStateM.bind, Service.onStore, h]

lemma markDone_of_ok {id : ℤ} {t : Task} (h : Store.modify id (fun t => .ok t.complete) s.store = .ok t st) :
    ∃ journal, Service.markDone id s = .ok t { s with store := ⟨st.backend, journal⟩ } := by
  simp [Service.markDone, bind, EStateM.bind, Service.onStore, h, Service.noteTask, Service.log, Store.log, pure,
    EStateM.pure]

lemma removeTask_of_error {id : ℤ} (h : Store.remove id s.store = .error f st) :
    Service.removeTask id s = .error f { s with store := st } := by
  simp [Service.removeTask, bind, EStateM.bind, Service.onStore, h]

lemma removeTask_of_ok {id : ℤ} (h : Store.remove id s.store = .ok () st) :
    ∃ journal, Service.removeTask id s = .ok () { s with store := ⟨st.backend, journal⟩ } := by
  simp [Service.removeTask, bind, EStateM.bind, Service.onStore, h, Service.noteTask, Service.log, Store.log]

end Equations

section Effects

variable {s s' : Service} {t : Task} {f : Failure} {tasks : List (ℤ × Task)} {id : ℤ} {description : String}

lemma createTask_error (h : Service.createTask description s = .error f s') :
    Untouched s.store.backend s'.store.backend := by
  cases hr : s.clock.reading with
  | error g =>
    cases (createTask_of_clock hr description).symm.trans h
    exact Untouched.refl _
  | ok created =>
    cases ha : Store.add (newTask description created) s.store with
    | error g st =>
      cases (createTask_of_error hr ha).symm.trans h
      exact add_error ha
    | ok t st =>
      obtain ⟨journal, ht⟩ := createTask_of_ok hr ha
      cases ht.symm.trans h

lemma createTask_ok (hs : Holds s.store.backend tasks) (h : Service.createTask description s = .ok t s') :
    ∃ created kept, s.clock.reading = .ok created ∧
      t = { newTask description created with id := some (newId s.store.backend) } ∧
      Saves s.store.backend t kept ∧ Holds s'.store.backend (tasks ++ [(newId s.store.backend, kept)]) ∧
        Kin s.store.backend s'.store.backend := by
  cases hr : s.clock.reading with
  | error g => cases (createTask_of_clock hr description).symm.trans h
  | ok created =>
    cases ha : Store.add (newTask description created) s.store with
    | error g st => cases (createTask_of_error hr ha).symm.trans h
    | ok t' st =>
      obtain ⟨journal, ht⟩ := createTask_of_ok hr ha
      cases ht.symm.trans h
      obtain ⟨id, kept, rfl, hid, hsave, hst, hkin⟩ := add_ok hs ha
      rw [(hid rfl).1] at hsave hst ⊢
      rw [assign_of_notMem hs.newId_notMem] at hst
      exact ⟨created, kept, rfl, rfl, hsave, hst, hkin⟩

lemma markDone_error (h : Service.markDone id s = .error f s') : Untouched s.store.backend s'.store.backend := by
  cases hm : Store.modify id (fun t => .ok t.complete) s.store with
  | error g st =>
    cases (markDone_of_error hm).symm.trans h
    exact modify_error hm
  | ok t st =>
    obtain ⟨journal, ht⟩ := markDone_of_ok hm
    cases ht.symm.trans h

lemma markDone_ok (hs : Holds s.store.backend tasks) {r : Task} (h : Service.markDone id s = .ok r s') : ∃ t,
    (id, t) ∈ tasks ∧ r = t.complete ∧ Holds s'.store.backend (assign id t.complete tasks) ∧
      Kin s.store.backend s'.store.backend := by
  cases hm : Store.modify id (fun t => .ok t.complete) s.store with
  | error g st => cases (markDone_of_error hm).symm.trans h
  | ok r' st =>
    obtain ⟨journal, ht⟩ := markDone_of_ok hm
    cases ht.symm.trans h
    obtain ⟨t, changed, kept, hmem, hch, rfl, hsave, hst, hkin⟩ := modify_ok hs hm
    cases hch
    have hid : { t.complete with id := some id } = t.complete := by rw [Task.complete, ← hs.named _ hmem]
    rw [hid] at hsave ⊢
    rw [hsave.eq_of_complete hs.stored hmem] at hst
    exact ⟨t, hmem, rfl, hst, hkin⟩

lemma removeTask_error (h : Service.removeTask id s = .error f s') : Untouched s.store.backend s'.store.backend := by
  cases hm : Store.remove id s.store with
  | error g st =>
    cases (removeTask_of_error hm).symm.trans h
    exact remove_error hm
  | ok u st =>
    obtain ⟨journal, ht⟩ := removeTask_of_ok hm
    cases ht.symm.trans h

lemma removeTask_ok (hs : Holds s.store.backend tasks) (h : Service.removeTask id s = .ok () s') :
    Holds s'.store.backend (erase id tasks) ∧ Kin s.store.backend s'.store.backend := by
  cases hm : Store.remove id s.store with
  | error g st => cases (removeTask_of_error hm).symm.trans h
  | ok u st =>
    obtain ⟨journal, ht⟩ := removeTask_of_ok hm
    cases ht.symm.trans h
    have hst := remove_ok hs hm
    exact hst

def finalService {α : Type} : EStateM.Result Failure Service α → Service
  | .ok _ s => s
  | .error _ s => s

lemma listTasks_untouched (s : Service) :
    Untouched s.store.backend (finalService (Service.listTasks s)).store.backend := by
  have h := list_untouched s.store
  simp only [Service.listTasks, Service.onStore]
  cases hl : Store.list s.store <;> simpa [hl, finalStore, finalService] using h

end Effects

end TaskBoard.Proofs.Services
