import TaskBoard.Proofs.Services.Runs
import TaskBoard.Proofs.Services.Serving

namespace TaskBoard.Proofs.Services

open TaskBoard.Entries Proofs.Entries Stores

/-- No reading of the clock is outside UTC or before the year 1000; it may fail to give one. -/
def Punctual (clock : Clock) : Prop := ∀ k t, (Clock.advance^[k] clock).reading = .ok t → Dated t

def Reached (b : Backend) : Prop := ∃ start journal clock calls, Fresh start ∧ Punctual clock ∧
  (run calls ⟨⟨start, journal⟩, clock⟩).store.backend = b

lemma Punctual.advance {clock : Clock} (h : Punctual clock) : Punctual clock.advance := fun k t ht =>
  h (k + 1) t (by rwa [Function.iterate_succ_apply])

lemma punctual_scripted {next : Time.Timestamp} {later : List Time.Timestamp} (h : ∀ t ∈ next :: later, Dated t) :
    Punctual (.scripted next later) := by
  intro k t ht
  induction k generalizing next later with
  | zero =>
    cases ht
    exact h t List.mem_cons_self
  | succ k ih =>
    rw [Function.iterate_succ_apply] at ht
    cases later with
    | nil => exact ih h ht
    | cons u later => exact ih (fun v hv => h v (List.mem_cons_of_mem next hv)) ht

lemma punctual_epoch : Punctual (.scripted .epoch []) := punctual_scripted fun t ht => by
  rw [List.mem_singleton.mp ht]
  exact ⟨rfl, by decide⟩

section Steps

variable {useful : ℤ → Prop} {s : Service} {tasks : List (ℤ × Task)}

lemma perform_clock (call : Call) (s : Service) :
    (call.perform s).clock = s.clock ∨ (call.perform s).clock = s.clock.advance := by
  cases call with
  | create description =>
    refine Or.inr ?_
    rw [Call.perform]
    cases hr : s.clock.reading with
    | error f => rw [createTask_of_clock hr]; rfl
    | ok created =>
      cases ha : Store.add (newTask description created) s.store with
      | error f st => rw [createTask_of_error hr ha]; rfl
      | ok t st =>
        obtain ⟨journal, hc⟩ := createTask_of_ok hr ha
        rw [hc]
        rfl
  | markDone id =>
    refine Or.inl ?_
    rw [Call.perform]
    cases hm : Store.modify id (fun t => .ok t.complete) s.store with
    | error f st => rw [markDone_of_error hm]; rfl
    | ok t st =>
      obtain ⟨journal, hc⟩ := markDone_of_ok hm
      rw [hc]
      rfl
  | remove id =>
    refine Or.inl ?_
    rw [Call.perform]
    cases hm : Store.remove id s.store with
    | error f st => rw [removeTask_of_error hm]; rfl
    | ok _ st =>
      obtain ⟨journal, hc⟩ := removeTask_of_ok hm
      rw [hc]
      rfl
  | list =>
    refine Or.inl ?_
    rw [Call.perform, Service.listTasks, Service.onStore]
    cases Store.list s.store <;> rfl

lemma perform_serves (h : Serves useful s tasks) (hc : Punctual s.clock) (call : Call) :
    ∃ tasks', Serves useful (call.perform s) tasks' := by
  cases call with
  | create description =>
    rw [Call.perform]
    cases hr : s.clock.reading with
    | error f =>
      rw [createTask_of_clock hr]
      exact ⟨tasks, h.of_eq rfl⟩
    | ok created =>
      obtain ⟨s', _, hcreate, hs'⟩ := createTask_spec h hr (hc 0 created hr) description
      rw [hcreate]
      exact ⟨_, hs'⟩
  | markDone id =>
    rw [Call.perform]
    cases hr : Service.markDone id s with
    | error f s' => exact ⟨tasks, h.untouched (markDone_error hr)⟩
    | ok t s' =>
      obtain ⟨t, hmem, _, hst, hkin⟩ := markDone_ok h.holds hr
      exact ⟨_, h.completed hmem hst hkin⟩
  | remove id =>
    rw [Call.perform]
    cases hr : Service.removeTask id s with
    | error f s' => exact ⟨tasks, h.untouched (removeTask_error hr)⟩
    | ok _ s' =>
      obtain ⟨hst, hkin⟩ := removeTask_ok h.holds hr
      exact ⟨_, h.removed hst hkin⟩
  | list => exact ⟨tasks, h.untouched (listTasks_untouched s)⟩

lemma run_serves (h : Serves useful s tasks) (hc : Punctual s.clock) (calls : List Call) :
    ∃ tasks', Serves useful (run calls s) tasks' := by
  induction calls generalizing s tasks with
  | nil => exact ⟨tasks, h⟩
  | cons call calls ih =>
    obtain ⟨tasks', h'⟩ := perform_serves h hc call
    refine ih h' ?_
    rcases perform_clock call s with hp | hp <;> rw [hp]
    · exact hc
    · exact hc.advance

end Steps

lemma Fresh.serves {b : Backend} (h : Fresh b) (journal : List Log.Record) (clock : Clock) :
    Serves (fun id => TaskId.inRange id = true) ⟨⟨b, journal⟩, clock⟩ [] :=
  ⟨h.holds, h.calm, fun _ hid => addressable_of_inRange hid b, by simp, by simp, by simp⟩

lemma Reached.serves {s : Service} (h : Reached s.store.backend) :
    ∃ tasks, Serves (fun id => TaskId.inRange id = true) s tasks := by
  obtain ⟨start, journal, clock, calls, hstart, hclock, hb⟩ := h
  obtain ⟨tasks, ht⟩ := run_serves (Fresh.serves hstart journal clock) hclock calls
  exact ⟨tasks, ht.of_eq hb.symm⟩

end TaskBoard.Proofs.Services
