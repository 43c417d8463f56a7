import TaskBoard.Proofs.Services.Effects
import TaskBoard.Proofs.Web.Body
import TaskBoard.Web

namespace TaskBoard.Proofs.Web

open TaskBoard.Web TaskBoard.Entries Proofs.Entries Outcome Stores Services

def announcement (id : ℤ) : String := "created new task with ID " ++ Number.integerText id ++ "\n"

def completion (id : ℤ) : String := "task " ++ Number.integerText id ++ " marked done\n"

section Failures

variable (r : Request) (f : Failure) (s : Service)

lemma answerFailure_backend : (answerFailure r f s).2.store.backend = s.store.backend := by
  rw [answerFailure]
  cases failureResponse? f <;> rfl

lemma failureResponse?_status {f : Failure} {reply : Response} (h : failureResponse? f = some reply) :
    reply.status ≠ 200 := by
  rw [failureResponse?] at h
  split at h <;> cases h <;> simp [plainText]

lemma answerFailure_status : (answerFailure r f s).1.status ≠ 200 := by
  rw [answerFailure]
  cases hf : failureResponse? f with
  | none => simp [plainText]
  | some reply => exact failureResponse?_status hf

end Failures

section Methods

variable {s s' : Service} {body : Body} {f : Failure} {reply : Response} {tasks : List (ℤ × Task)}

lemma getTasks_untouched (convert : Conversion) (s : Service) :
    Untouched s.store.backend (finalService (getTasks convert s)).store.backend := by
  have h := listTasks_untouched s
  cases hl : Service.listTasks s with
  | error f s' =>
    rw [hl] at h
    simpa [getTasks, bind, EStateM.bind, hl, finalService] using h
  | ok listed s' =>
    rw [hl] at h
    cases hb : listing convert listed <;>
      simpa [getTasks, bind, EStateM.bind, hl, Service.lift, hb, pure, EStateM.pure, finalService] using h

lemma postTask_error (h : postTask body s = .error f s') : Untouched s.store.backend s'.store.backend := by
  rcases run_bind_error.mp h with hm | ⟨m, _, hm, hrest⟩
  · rw [(lift_error.mp hm).2]
    exact Untouched.refl _
  obtain ⟨_, rfl⟩ := lift_ok.mp hm
  rcases run_bind_error.mp hrest with hc | ⟨_, _, _, hlog⟩
  · exact createTask_error hc
  · cases hlog

lemma postTask_ok (hs : Holds s.store.backend tasks) (h : postTask body s = .ok reply s') : ∃ t kept,
    reply = plainText 200 (announcement (newId s.store.backend)) ∧
      t.description = .text (leadingText body messageLimit) ∧
      t.done = false ∧ Saves s.store.backend t kept ∧ Kin s.store.backend s'.store.backend ∧
        Holds s'.store.backend (tasks ++ [(newId s.store.backend, kept)]) := by
  obtain ⟨m, _, hm, hcreate⟩ := run_bind_ok.mp h
  obtain ⟨hmessage, rfl⟩ := lift_ok.mp hm
  obtain ⟨t, st, hc, hlog⟩ := run_bind_ok.mp hcreate
  obtain ⟨_, kept, _, rfl, hsave, hst, hkin⟩ := createTask_ok hs hc
  cases hlog
  exact ⟨_, kept, rfl, congrArg Value.text (message_text hmessage), rfl, hsave, hkin, hst⟩

lemma deleteTask_error (h : deleteTask body s = .error f s') : Untouched s.store.backend s'.store.backend := by
  rcases run_bind_error.mp h with hm | ⟨m, _, hm, hparse⟩
  · rw [(lift_error.mp hm).2]
    exact Untouched.refl _
  obtain ⟨_, rfl⟩ := lift_ok.mp hm
  rcases run_bind_error.mp hparse with hp | ⟨id, _, hp, hmark⟩
  · rw [(lift_error.mp hp).2]
    exact Untouched.refl _
  obtain ⟨_, rfl⟩ := lift_ok.mp hp
  rcases run_bind_error.mp hmark with hd | ⟨_, _, _, hlog⟩
  · exact markDone_error hd
  · cases hlog

lemma deleteTask_ok (hs : Holds s.store.backend tasks) (h : deleteTask body s = .ok reply s') : ∃ id t,
    reply = plainText 200 (completion id) ∧ (id, t) ∈ tasks ∧ Kin s.store.backend s'.store.backend ∧
      Holds s'.store.backend (assign id t.complete tasks) := by
  obtain ⟨m, _, hm, hparse⟩ := run_bind_ok.mp h
  obtain ⟨_, rfl⟩ := lift_ok.mp hm
  obtain ⟨id, _, hp, hmark⟩ := run_bind_ok.mp hparse
  obtain ⟨_, rfl⟩ := lift_ok.mp hp
  obtain ⟨r, st, hd, hlog⟩ := run_bind_ok.mp hmark
  obtain ⟨t, hmem, _, hst, hkin⟩ := markDone_ok hs hd
  cases hlog
  exact ⟨id, t, rfl, hmem, hkin, hst⟩

end Methods

end TaskBoard.Proofs.Web
