import TaskBoard.Proofs.Stores.Runs
import TaskBoard.Proofs.Stores.Transaction

namespace TaskBoard.Proofs.Stores

open TaskBoard.Datastore Remote Transaction

def FromClient (f : Failure) : Prop :=
  match f.reason with
  | .call _ _ | .api _ | .retry _ | .auth _ _ => True
  | _ => False

def failureOf {α : Type} : EStateM.Result Failure Store α → Option Failure
  | .ok _ _ => none
  | .error f _ => some f

def Transaction.Stage.kind : Stage → CallKind
  | .begin => .begin
  | .get => .get
  | .put => .put
  | .commit => .commit

namespace Operation

def failure? : Operation → Store → Option Failure
  | add t, s => failureOf (Store.add t s)
  | get id, s => failureOf (Store.get id s)
  | modify id change, s => failureOf (Store.modify id change s)
  | remove id, s => failureOf (Store.remove id s)
  | list, s => failureOf (Store.list s)
  | setFaults _, _ => none

def label : Operation → String
  | add _ => "create task"
  | get _ => "read task"
  | modify _ _ => "update task"
  | remove _ => "delete task"
  | list => "read from datastore"
  | setFaults _ => ""

inductive Struck (c : Client) : Operation → Failure → Prop
  | add {t : Task} {f : Failure} (h : c.faults .put = some f) : Struck c (.add t) f
  | get {id : ℤ} {f : Failure} (h : c.faults .get = some f) : Struck c (.get id) f
  | modify {id : ℤ} {change : Change} {stage : Stage} {f : Failure} (hs : Stopped id change c stage f)
    (h : c.faults stage.kind = some f) : Struck c (.modify id change) f
  | remove {id : ℤ} {f : Failure} (h : c.faults .delete = some f) : Struck c (.remove id) f
  | list {f : Failure} (h : c.faults .fetch = some f) : Struck c .list f

end Operation

section Reporting

variable {c : Client} {journal : List Log.Record} {op : Operation} {f : Failure}

lemma failureOf_of_error {α : Type} (act : Store.Action α) {calls : List Call} {s : Store}
    (h : act s = .error f ⟨.datastore (noted c calls), s.journal⟩) :
    failureOf (act s) = some f ∧ Untouched (.datastore c) (finalStore (act s)).backend := by
  rw [h]
  exact ⟨rfl, calls, rfl⟩

lemma list_of_fault (h : c.faults .fetch = some f) (journal : List Log.Record) :
    Store.list ⟨.datastore c, journal⟩ =
      .error (mapped "read from datastore" f) ⟨.datastore (noted c [listed]), journal⟩ := by
  simp [Store.list, bind, EStateM.bind, onClient_of_error (fetch_of_fault h)]

lemma failure?_of_struck (h : op.Struck c f) (journal : List Log.Record) :
    op.failure? ⟨.datastore c, journal⟩ = some (mapped op.label f) ∧
      Untouched (.datastore c) (op.perform ⟨.datastore c, journal⟩).backend := by
  cases h with
  | @add t f h => exact failureOf_of_error (Store.add t) (onClient_of_error (add_of_fault h t))
  | @get id f h => exact failureOf_of_error (Store.get id) (onClient_of_error (getTask_of_fault h id))
  | @modify id change stage f hs h =>
    have hm := modify_of_error (update_of_stopped hs)
    exact failureOf_of_error (Store.modify id change) (onClient_of_error hm)
  | @remove id f h => exact failureOf_of_error (Store.remove id) (onClient_of_error (remove_of_fault h id))
  | list h => exact failureOf_of_error Store.list (list_of_fault h journal)

lemma store_ne (operation : String) (f : Failure) : Failure.store operation f ≠ f := by
  intro h
  have hsize := congrArg sizeOf h
  rw [Failure.store, Failure.because] at hsize
  simp at hsize
  omega

lemma mapped_eq_store_iff {operation : String} : mapped operation f = .store operation f ↔ f.isCall = true := by
  rw [mapped]
  split
  · rename_i h
    exact iff_of_true rfl h
  · rename_i h
    exact iff_of_false (store_ne operation f).symm h

/--
An operation on the remote store whose call fails changes no entity. It reports a failure of the store just if the
client's failure is one of a call; every other failure reaches the caller as it is.
-/
theorem reported_iff_isCall (h : op.Struck c f) (journal : List Log.Record) :
    Untouched (.datastore c) (op.perform ⟨.datastore c, journal⟩).backend ∧
      (op.failure? ⟨.datastore c, journal⟩ = some (.store op.label f) ↔ f.isCall = true) ∧
        (f.isCall = false → op.failure? ⟨.datastore c, journal⟩ = some f) := by
  obtain ⟨hfail, hu⟩ := failure?_of_struck h journal
  refine ⟨hu, ?_, fun hf => ?_⟩
  · rw [hfail, Option.some_inj]
    exact mapped_eq_store_iff
  · rw [hfail, mapped, hf]
    rfl

def overdue : Failure := .ofReason (.retry [.text "deadline exceeded", .null])

def atFetch (f : Failure) : Client := { nextId := 1, faults := fun kind => if kind = .fetch then some f else none }

theorem reported_iff_isCall_overdue : Operation.Struck (atFetch overdue) .list overdue ∧
    Operation.failure? .list ⟨.datastore (atFetch overdue), []⟩ = some overdue := by
  have h : Operation.Struck (atFetch overdue) .list overdue := .list rfl
  exact ⟨h, (reported_iff_isCall h []).2.2 rfl⟩

theorem not_all_reported : ¬ ∀ (c : Client) (journal : List Log.Record) (op : Operation) (f : Failure),
    FromClient f → op.Struck c f → op.failure? ⟨.datastore c, journal⟩ = some (.store op.label f) := by
  intro h
  have hstore := h (atFetch overdue) [] .list overdue trivial (.list rfl)
  rw [(failure?_of_struck (.list rfl) []).1, Option.some_inj, mapped_eq_store_iff] at hstore
  cases hstore

end Reporting

end TaskBoard.Proofs.Stores
