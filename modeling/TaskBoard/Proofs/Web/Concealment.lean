import TaskBoard.Proofs.Stores.Twins
import TaskBoard.Proofs.Web.Requests

namespace TaskBoard.Proofs.Web

open TaskBoard.Web Outcome Stores

structure TwinServices (s s' : Service) : Prop where
  store : TwinStores s.store s'.store
  clock : s.clock = s'.clock

section Actions

variable {α : Type}

lemma parallel_onStore {act : Store.Action α} (h : Parallel TwinStores act) :
    Parallel TwinServices (Service.onStore act) := by
  intro s s' hs
  rw [Service.onStore, Service.onStore]
  have hact := h s.store s'.store hs.store
  revert hact
  cases act s.store <;> cases act s'.store <;> rintro (⟨_, hst⟩ | ⟨hf, hst⟩)
  · exact .ok _ ⟨hst, hs.clock⟩
  · exact .error hf ⟨hst, hs.clock⟩

lemma parallel_settled (outcome : Except Failure α) : Parallel TwinServices (Service.lift outcome) := by
  intro s s' hs
  cases outcome with
  | ok a => exact .ok a hs
  | error f => exact .error (.same f) hs

lemma parallel_now : Parallel TwinServices Service.now := by
  intro s s' hs
  have hnext : TwinServices { s with clock := s.clock.advance } { s' with clock := s'.clock.advance } :=
    ⟨hs.store, congrArg Clock.advance hs.clock⟩
  simp only [Service.now, hs.clock] at hnext ⊢
  cases s'.clock.reading with
  | ok t => exact .ok t hnext
  | error f => exact .error (.same f) hnext

lemma parallel_record (r : Log.Record) : Parallel TwinServices (Service.log r) := parallel_onStore (parallel_log r)

lemma parallel_createTask (description : String) : Parallel TwinServices (Service.createTask description) :=
  parallel_now.bind fun _ => (parallel_onStore (parallel_add _)).bind fun saved =>
    (parallel_record _).bind fun _ => parallel_pure saved

lemma parallel_markDone (id : ℤ) : Parallel TwinServices (Service.markDone id) :=
  (parallel_onStore (parallel_modify id _)).bind fun t => (parallel_record _).bind fun _ => parallel_pure t

lemma parallel_getTasks (convert : Conversion) : Parallel TwinServices (getTasks convert) :=
  (parallel_onStore parallel_list).bind fun tasks =>
    (parallel_settled (listing convert tasks)).bind fun _ => parallel_pure _

lemma parallel_postTask (body : Body) : Parallel TwinServices (postTask body) :=
  (parallel_settled _).bind fun m => (parallel_createTask m.text).bind fun _ =>
    (parallel_record _).bind fun _ => parallel_pure _

lemma parallel_deleteTask (body : Body) : Parallel TwinServices (deleteTask body) :=
  (parallel_settled _).bind fun m => (parallel_settled (TaskId.parse m.text)).bind fun id =>
    (parallel_markDone id).bind fun _ => (parallel_record _).bind fun _ => parallel_pure _

lemma parallel_action {convert : Conversion} {method : String} {body : Body} {act : Service.Action Response}
    (h : action? convert method body = some act) : Parallel TwinServices act := by
  rcases action?_cases h with ⟨-, rfl⟩ | ⟨-, rfl⟩ | ⟨-, rfl⟩
  · exact parallel_getTasks convert
  · exact parallel_postTask body
  · exact parallel_deleteTask body

end Actions

section Answers

variable {convert : Conversion} {f f' : Failure} {s s' : Service}

lemma Foreign.failureResponse?_eq (h : Foreign f) : failureResponse? f = none := by
  obtain ⟨reason, cause⟩ := f
  cases reason <;> first | rfl | exact h.elim

lemma failureResponse?_of_isCall (h : f.isCall = true) : failureResponse? f = none := by
  obtain ⟨reason, cause⟩ := f
  cases reason <;> first | rfl | cases h

lemma Alike.failureResponse?_eq (h : Alike f f') : failureResponse? f = failureResponse? f' := by
  cases h with
  | same => rfl
  | calls h h' => rw [failureResponse?_of_isCall h, failureResponse?_of_isCall h']
  | foreign h h' => rw [Foreign.failureResponse?_eq h, Foreign.failureResponse?_eq h']
  | stores => rfl

lemma answerFailure_alike (r : Request) (hf : Alike f f') (hs : TwinServices s s') :
    (answerFailure r f s).1 = (answerFailure r f' s').1 ∧
      TwinServices (answerFailure r f s).2 (answerFailure r f' s').2 := by
  rw [answerFailure, answerFailure, Alike.failureResponse?_eq hf]
  cases failureResponse? f' <;> exact ⟨rfl, hs.store, hs.clock⟩

lemma handle_alike (r : Request) (hs : TwinServices s s') :
    (handle convert r s).1 = (handle convert r s').1 ∧ TwinServices (handle convert r s).2 (handle convert r s').2 := by
  by_cases hp : isOwnPath r.path = true
  · cases ha : action? convert r.method r.body with
    | none =>
      rw [handle, handle, if_pos hp, if_pos hp, ha]
      exact ⟨rfl, hs⟩
    | some act =>
      have hact := parallel_action ha s s' hs
      cases hr : act s with
      | ok reply t =>
        cases hr' : act s' with
        | ok reply' t' =>
          rw [handle_of_ok _ hp ha hr, handle_of_ok _ hp ha hr']
          rw [hr, hr'] at hact
          cases hact with
          | ok _ ht => exact ⟨rfl, ht⟩
        | error f' t' =>
          rw [hr, hr'] at hact
          cases hact
      | error f t =>
        cases hr' : act s' with
        | ok reply' t' =>
          rw [hr, hr'] at hact
          cases hact
        | error f' t' =>
          rw [handle_of_error hp ha hr, handle_of_error hp ha hr']
          rw [hr, hr'] at hact
          cases hact with
          | error hf ht => exact answerFailure_alike r hf ht
  · rw [handle_of_path hp, handle_of_path hp]
    exact ⟨rfl, hs⟩

end Answers

inductive SameEvent : Event → Event → Prop
  | request (r : Request) : SameEvent (.request r) (.request r)
  | setFaults {faults faults' : Datastore.CallKind → Option Failure} (h : FaultsAlike faults faults') :
    SameEvent (.setFaults faults) (.setFaults faults')

structure SameExchange (x x' : Exchange) : Prop where
  request : x.request = x'.request
  reply : x.reply = x'.reply
  store : TwinStores x.after.store x'.after.store

lemma setFaults_twins {convert : Conversion} {s s' : Service} {faults faults' : Datastore.CallKind → Option Failure}
    (hs : TwinServices s s') (h : FaultsAlike faults faults') :
    TwinServices (Event.perform convert (.setFaults faults) s) (Event.perform convert (.setFaults faults') s') := by
  obtain ⟨⟨b, journal⟩, clock⟩ := s
  obtain ⟨⟨b', journal'⟩, clock'⟩ := s'
  obtain ⟨⟨c, c', rfl, rfl, hc⟩, hclock⟩ := hs
  exact ⟨⟨_, _, rfl, rfl, hc.entities, hc.nextId, hc.calls, h⟩, hclock⟩

/--
Two runs over remote stores that hold the same, with the same requests and faults at the same calls, have the same
answers and leave the same in their stores, whatever the failures of the client say in either of them.
-/
theorem answers_conceal (convert : Conversion) {s s' : Service} (hs : TwinServices s s') {events events' : List Event}
    (he : List.Forall₂ SameEvent events events') :
    List.Forall₂ SameExchange (exchanges convert events s) (exchanges convert events' s') := by
  induction he generalizing s s' with
  | nil => exact .nil
  | @cons event event' events events' h _ ih =>
    cases h with
    | request r =>
      obtain ⟨hreply, hnext⟩ := handle_alike r hs
      exact .cons ⟨rfl, hreply, hnext.store⟩ (ih hnext)
    | setFaults h => exact ih (setFaults_twins hs h)

section Outages

variable {kind : Datastore.CallKind} {f f' : Failure}

def failing (kind : Datastore.CallKind) (f : Failure) : Datastore.CallKind → Option Failure :=
  fun k => if k = kind then some f else none

lemma failing_alike (h : Alike f f') : FaultsAlike (failing kind f) (failing kind f') := by
  intro k
  rw [failing, failing]
  split
  · exact .some h
  · exact .none

def unavailable : Failure := .ofReason (.call .serviceUnavailable [.text "try again"])

def denied : Failure := .ofReason (.call .permissionDenied [.text "secret project"])

def lost : Failure := .ofReason (.general .key [.text "token"])

def overrun : Failure := .ofReason (.retry [.text "deadline exceeded", .null])

def outage (atPut atFetch : Failure) : List Event :=
  [.setFaults (failing .put atPut), .request ⟨"POST", "/", ⟨[Text.Utf8.encode "water"], false⟩⟩,
    .setFaults (failing .fetch atFetch), .request ⟨"GET", "/", ⟨[], false⟩⟩]

lemma outage_same {g g' : Failure} (hf : Alike f f') (hg : Alike g g') :
    List.Forall₂ SameEvent (outage f g) (outage f' g') :=
  .cons (.setFaults (failing_alike hf)) (.cons (.request _) (.cons (.setFaults (failing_alike hg))
    (.cons (.request _) .nil)))

theorem answers_conceal_outage : let s : Service := ⟨⟨.datastore { nextId := 7 }, []⟩, .scripted .epoch []⟩
    TwinServices s s ∧ List.Forall₂ SameEvent (outage unavailable lost) (outage denied overrun) ∧
      (exchanges timesOnly (outage unavailable lost) s).map (fun x => x.reply.body) =
        ["failed to create task", "internal server error"] ∧
      List.Forall₂ SameExchange (exchanges timesOnly (outage unavailable lost) s)
        (exchanges timesOnly (outage denied overrun) s) := by
  intro s
  have hs : TwinServices s s := ⟨⟨_, _, rfl, rfl, rfl, rfl, rfl, fun _ => .none⟩, rfl⟩
  have he := outage_same (.calls rfl rfl : Alike unavailable denied) (.foreign trivial trivial : Alike lost overrun)
  exact ⟨hs, he, by decide +kernel, answers_conceal timesOnly hs he⟩

end Outages

end TaskBoard.Proofs.Web
