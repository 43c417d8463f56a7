import TaskBoard.Proofs.Services.Effects

namespace TaskBoard.Proofs.Services

open TaskBoard.Entries Proofs.Entries Stores

inductive Call where
  | create (description : String)
  | markDone (id : ℤ)
  | remove (id : ℤ)
  | list

inductive Answer where
  | task (t : Task)
  | tasks (listed : List Task)
  | nothing

def outcome {α : Type} : EStateM.Result Failure Service α → Except Failure α
  | .ok a _ => .ok a
  | .error f _ => .error f

namespace Call

def answer : Call → Service → Except Failure Answer
  | create description, s => (outcome (Service.createTask description s)).map .task
  | markDone id, s => (outcome (Service.markDone id s)).map .task
  | remove id, s => (outcome (Service.removeTask id s)).map fun _ => .nothing
  | list, s => (outcome (Service.listTasks s)).map .tasks

def perform : Call → Service → Service
  | create description, s => finalService (Service.createTask description s)
  | markDone id, s => finalService (Service.markDone id s)
  | remove id, s => finalService (Service.removeTask id s)
  | list, s => finalService (Service.listTasks s)

def issues : Call → Service → List ℤ
  | create description, s =>
    match Service.createTask description s with
    | .ok t _ => t.id.toList
    | .error _ _ => []
  | markDone _, _ | remove _, _ | list, _ => []

end Call

def run (calls : List Call) (s : Service) : Service := calls.foldl (fun s call => call.perform s) s

def issued : List Call → Service → List ℤ
  | [], _ => []
  | call :: calls, s => call.issues s ++ issued calls (call.perform s)

lemma run_concat (calls : List Call) (call : Call) (s : Service) :
    run (calls ++ [call]) s = call.perform (run calls s) := by
  simp [run]

lemma issued_concat (calls : List Call) (call : Call) (s : Service) :
    issued (calls ++ [call]) s = issued calls s ++ call.issues (run calls s) := by
  induction calls generalizing s with
  | nil => simp [issued, run]
  | cons first calls ih => rw [List.cons_append, issued, ih, issued, List.append_assoc]; rfl

lemma perform_spec {s : Service} {tasks : List (ℤ × Task)} (h : Holds s.store.backend tasks) (call : Call) :
    (call.issues s = [] ∨ call.issues s = [newId s.store.backend]) ∧
      ∃ tasks', Holds (call.perform s).store.backend tasks' ∧ Kin s.store.backend (call.perform s).store.backend ∧
        keys tasks' ⊆ keys tasks ++ call.issues s := by
  cases call with
  | create description =>
    rw [Call.perform, Call.issues]
    cases hr : Service.createTask description s with
    | error f s' =>
      have hu := createTask_error hr
      exact ⟨Or.inl rfl, tasks, hu.holds h, hu.kin, by simp⟩
    | ok t s' =>
      obtain ⟨created, kept, _, rfl, _, hs', hkin⟩ := createTask_ok h hr
      exact ⟨Or.inr rfl, _, hs', hkin, by simp⟩
  | markDone id =>
    rw [Call.perform, Call.issues]
    cases hr : Service.markDone id s with
    | error f s' =>
      have hu := markDone_error hr
      exact ⟨Or.inl rfl, tasks, hu.holds h, hu.kin, by simp⟩
    | ok t s' =>
      obtain ⟨t, hmem, _, hs', hkin⟩ := markDone_ok h hr
      exact ⟨Or.inl rfl, _, hs', hkin, by rw [keys_assign_of_mem (mem_keys_of_mem hmem)]; simp⟩
  | remove id =>
    rw [Call.perform, Call.issues]
    cases hr : Service.removeTask id s with
    | error f s' =>
      have hu := removeTask_error hr
      exact ⟨Or.inl rfl, tasks, hu.holds h, hu.kin, by simp⟩
    | ok t s' =>
      obtain ⟨hs', hkin⟩ := removeTask_ok h hr
      refine ⟨Or.inl rfl, _, hs', hkin, ?_⟩
      rw [keys_erase, List.append_nil]
      exact List.filter_subset_self _
  | list =>
    have hu := listTasks_untouched s
    exact ⟨Or.inl rfl, tasks, hu.holds h, hu.kin, by simp [Call.issues]⟩

lemma run_spec {s : Service} {tasks : List (ℤ × Task)} (h : Holds s.store.backend tasks) (calls : List Call) :
    ∃ tasks', Holds (run calls s).store.backend tasks' ∧ Kin s.store.backend (run calls s).store.backend ∧
      keys tasks' ⊆ keys tasks ++ issued calls s := by
  induction calls using List.reverseRecOn with
  | nil => exact ⟨tasks, h, (Untouched.refl _).kin, by simp [issued]⟩
  | append_singleton calls call ih =>
    obtain ⟨tasks₁, h₁, hkin₁, hsub₁⟩ := ih
    obtain ⟨_, tasks₂, h₂, hkin₂, hsub₂⟩ := perform_spec h₁ call
    rw [run_concat, issued_concat]
    refine ⟨tasks₂, h₂, hkin₁.trans hkin₂, fun i hi => ?_⟩
    rw [← List.append_assoc, List.mem_append]
    exact (List.mem_append.mp (hsub₂ hi)).imp_left fun hi => hsub₁ hi

end TaskBoard.Proofs.Services
