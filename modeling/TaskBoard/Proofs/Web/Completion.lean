import TaskBoard.Proofs.Services.Reached
import TaskBoard.Proofs.Web.Listing

namespace TaskBoard.Proofs.Web

open TaskBoard.Web TaskBoard.Entries Proofs.Entries Outcome Stores Services Numerals

structure Shows (convert : Conversion) (s : Service) (listed : List Task) : Prop where
  lists : ∃ s', Service.listTasks s = .ok listed s'
  answers : ∃ body, listing convert listed = .ok body ∧
    ∀ ignored, (handle convert ⟨"GET", "/", ignored⟩ s).1 = ⟨200, some "application/json", none, body⟩

def completeAt (n : ℤ) (t : Task) : Task := if t.id = some n then t.complete else t

def deletion (convert : Conversion) (s : Service) (body : Body) : Exchange := ⟨convert, s, ⟨"DELETE", "/", body⟩⟩

/-- The answers to a request with some text, and the list that is shown from then on. -/
inductive Decided (b : Backend) (text : String) (listed : List Task) : Response → List Task → Prop
  | refused (h : ∀ n, ¬ Names text n) :
      Decided b text listed (plainText 400 "failed to parse ID (must be int64)") listed
  | missing {n : ℤ} (h : Names text n) (hn : n ∉ keys (contents b)) :
      Decided b text listed (plainText 404 "failed to mark task done: task not found") listed
  | marked {n : ℤ} (h : Names text n) (hn : n ∈ keys (contents b)) :
      Decided b text listed (plainText 200 ("task " ++ toString n ++ " marked done\n")) (listed.map (completeAt n))

section Lists

variable {convert : Conversion} {useful : ℤ → Prop} {s : Service} {tasks : List (ℤ × Task)} {id : ℤ} {t : Task}

lemma shows_of_serves (h : Serves useful s tasks) : Shows convert s ((values tasks).mergeSort Task.notAfter) := by
  obtain ⟨s', _, hl, _⟩ := listTasks_spec h
  have hentry : ∀ t ∈ (values tasks).mergeSort Task.notAfter, ∃ e ∈ tasks, e.2 = t := fun t ht =>
    List.mem_map.mp (List.mem_mergeSort.mp ht)
  have hb := listing_eq convert (fun t ht => by
    obtain ⟨e, he, rfl⟩ := hentry t ht
    exact (h.recorded e he).1) (fun t ht => by
    obtain ⟨e, he, rfl⟩ := hentry t ht
    exact Exists.imp (fun _ h => h.1) (h.recorded e he).2) fun t ht => by
    obtain ⟨e, he, rfl⟩ := hentry t ht
    exact ⟨e.1, h.holds.named e he⟩
  exact ⟨⟨s', hl⟩, _, hb, fun ignored => by rw [handle_get hl hb]⟩

lemma notAfter_completeAt (n : ℤ) (t u : Task) :
    Task.notAfter (completeAt n t) (completeAt n u) = Task.notAfter t u := by
  rw [completeAt, completeAt]
  split <;> split <;> rfl

lemma values_assign_complete (h : Holds s.store.backend tasks) (ht : (id, t) ∈ tasks) :
    values (assign id t.complete tasks) = (values tasks).map (completeAt id) := by
  rw [assign_of_mem h.nodup ht, values, values, List.map_map, List.map_map]
  refine List.map_congr_left fun e he => ?_
  rw [Function.comp_apply, Function.comp_apply, completeAt]
  by_cases hid : e.1 = id
  · obtain rfl : e = (id, t) := by
      have hlookup := (h.mem_iff.mp ht).symm.trans (hid ▸ h.mem_iff.mp he)
      exact Prod.ext hid (Option.some.inj hlookup).symm
    rw [if_pos BEq.rfl, if_pos (h.named _ he)]
  · have hne : e.2.id ≠ some id := by
      rw [h.named e he]
      exact fun heq => hid (Option.some.inj heq)
    rw [if_neg (by simpa using hid), if_neg hne]

lemma sorted_assign_complete (h : Holds s.store.backend tasks) (ht : (id, t) ∈ tasks) :
    (values (assign id t.complete tasks)).mergeSort Task.notAfter =
      ((values tasks).mergeSort Task.notAfter).map (completeAt id) := by
  rw [values_assign_complete h ht]
  exact (List.map_mergeSort fun t _ u _ => (notAfter_completeAt id t u).symm).symm

end Lists

lemma Decided.status_ne {b : Backend} {text : String} {listed listed' : List Task} {reply : Response}
    (h : Decided b text listed reply listed') : reply.status ≠ 500 := by
  cases h <;> simp [plainText]

theorem Decided.unique {b : Backend} {text : String} {listed xs ys : List Task} {reply reply' : Response}
    (h : Decided b text listed reply xs) (h' : Decided b text listed reply' ys) : reply = reply' ∧ xs = ys := by
  cases h with
  | refused h =>
    cases h' with
    | refused => exact ⟨rfl, rfl⟩
    | missing hn => exact absurd hn (h _)
    | marked hn => exact absurd hn (h _)
  | missing h hn =>
    cases h' with
    | refused hno => exact absurd h (hno _)
    | missing => exact ⟨rfl, rfl⟩
    | marked h' hm => exact absurd (h.unique h' ▸ hm) hn
  | marked h hn =>
    cases h' with
    | refused hno => exact absurd h (hno _)
    | missing h' hm => exact absurd (h.unique h' ▸ hn) hm
    | marked h' hm => rw [h.unique h']; exact ⟨rfl, rfl⟩

section Methods

variable {convert : Conversion} {s s' : Service} {body : Body} {m : Message} {f : Failure} {n : ℤ} {reply : Response}

lemma deletion_of_error (convert : Conversion) (h : deleteTask body s = .error f s')
    (hf : failureResponse? f = some reply) :
    (deletion convert s body).reply = reply ∧ (deletion convert s body).after.store.backend = s'.store.backend := by
  rw [Exchange.reply, Exchange.after, deletion, handle_of_error rfl rfl h]
  exact ⟨by rw [answerFailure, hf], answerFailure_backend _ _ _⟩

variable (hm : body.message messageLimit = .ok m)

include hm

lemma deleteTask_of_refused (hp : TaskId.parse m.text = .error f) : deleteTask body s = .error f s := by
  simp [deleteTask, bind, EStateM.bind, Service.lift, hm, hp]

variable (hp : TaskId.parse m.text = .ok n)

include hp

lemma deleteTask_of_missing (hd : Service.markDone n s = .error f s') : deleteTask body s = .error f s' := by
  simp [deleteTask, bind, EStateM.bind, Service.lift, hm, hp, hd]

lemma deleteTask_of_marked {t : Task} (hd : Service.markDone n s = .ok t s') : ∃ s'',
    deleteTask body s = .ok (plainText 200 (completion n)) s'' ∧ s''.store.backend = s'.store.backend := by
  simp [deleteTask, bind, EStateM.bind, Service.lift, hm, hp, hd, Service.log, Service.onStore, Store.log, completion,
    pure, EStateM.pure]

end Methods

section Decisions

variable {convert : Conversion} {s : Service} {tasks : List (ℤ × Task)} {body : Body} {m : Message} {n : ℤ}

def Settles (convert : Conversion) (s : Service) (body : Body) (text : String) (tasks : List (ℤ × Task)) : Prop :=
  ∃ listed', Shows convert (deletion convert s body).after listed' ∧
    Decided s.store.backend text ((values tasks).mergeSort Task.notAfter) (deletion convert s body).reply listed'

variable (hs : Serves (fun id => TaskId.inRange id = true) s tasks) (hm : body.message messageLimit = .ok m)
  (hl : (Text.trim m.text.toList).length ≤ Number.digitLimit)

include hs hm hl

lemma settles_refused (h : ∀ n, ¬ Names m.text n) : Settles convert s body m.text tasks := by
  obtain ⟨text, hp⟩ := parse_of_not_names hl h
  obtain ⟨hr, hb⟩ := deletion_of_error convert (deleteTask_of_refused hm hp) rfl
  refine ⟨_, shows_of_serves (hs.of_eq hb), ?_⟩
  rw [hr]
  exact .refused h

lemma settles_missing (hn : Names m.text n) (ht : n ∉ keys tasks) : Settles convert s body m.text tasks := by
  obtain ⟨s', _, hd, hs'⟩ := markDone_absent hs hn.2 ht
  obtain ⟨hr, hb⟩ := deletion_of_error convert (deleteTask_of_missing hm (parse_of_names hl hn) hd) rfl
  refine ⟨_, shows_of_serves (hs'.of_eq hb), ?_⟩
  rw [hr]
  exact .missing hn (by rwa [hs.holds.keys_contents])

lemma settles_marked (hn : Names m.text n) (ht : n ∈ keys tasks) : Settles convert s body m.text tasks := by
  obtain ⟨t, ht'⟩ := exists_of_mem_keys ht
  obtain ⟨s', _, hd, hs'⟩ := markDone_present hs hn.2 ht'
  obtain ⟨s'', hdel, hb⟩ := deleteTask_of_marked hm (parse_of_names hl hn) hd
  have hshows : Shows convert s'' _ := shows_of_serves (hs'.of_eq hb)
  rw [sorted_assign_complete hs.holds ht'] at hshows
  rw [Settles, Exchange.reply, Exchange.after, deletion, handle_of_ok convert rfl rfl hdel, completion,
    Decimals.integerText_eq_toString]
  exact ⟨_, hshows, .marked hn (by rwa [hs.holds.keys_contents])⟩

end Decisions

/--
Whatever the octets of the body are and however they arrive, the answer is decided by the number that its first 256
octets name, if any, and it is never a failure of the server. The list changes at most in the task with that number.
-/
theorem deletion_decided (convert : Conversion) {s : Service} (h : Reached s.store.backend)
    (chunks : List (List UInt8)) :
    ∃ listed listed', Shows convert s listed ∧ Shows convert (deletion convert s ⟨chunks, false⟩).after listed' ∧
      Decided s.store.backend (leadingText ⟨chunks, false⟩ 256) listed (deletion convert s ⟨chunks, false⟩).reply listed' ∧
        (deletion convert s ⟨chunks, false⟩).reply.status ≠ 500 := by
  obtain ⟨tasks, hs⟩ := h.serves
  obtain ⟨m, hm⟩ := exists_message chunks messageLimit
  have htext : m.text = leadingText ⟨chunks, false⟩ 256 := message_text hm
  -- So few octets cannot hold more digits than are turned into a number.
  have hl : (Text.trim m.text.toList).length ≤ Number.digitLimit := by
    rw [htext]
    exact (length_leadingText_le _ _).trans (by decide)
  have hsettles : Settles convert s ⟨chunks, false⟩ m.text tasks := by
    by_cases hn : ∃ n, Names m.text n
    · obtain ⟨n, hn⟩ := hn
      by_cases ht : n ∈ keys tasks
      · exact settles_marked hs hm hl hn ht
      · exact settles_missing hs hm hl hn ht
    · exact settles_refused hs hm hl fun n h => hn ⟨n, h⟩
  obtain ⟨listed', hshows, hdec⟩ := hsettles
  rw [htext] at hdec
  exact ⟨_, listed', shows_of_serves hs, hshows, hdec, hdec.status_ne⟩

def chores : Service := run [.create "water", .create "feed", .remove 1, .markDone 7]
  ⟨⟨.sql {}, []⟩, .scripted .epoch []⟩

def signedTwo : List (List UInt8) := [[0x20, 0x2B], [0x32, 0x0A]]

theorem deletion_decided_chores : Reached chores.store.backend ∧ leadingText ⟨signedTwo, false⟩ 256 = " +2\n" ∧
    ∃ listed listed', Shows timesOnly chores listed ∧
      Shows timesOnly (deletion timesOnly chores ⟨signedTwo, false⟩).after listed' ∧
      Decided chores.store.backend (leadingText ⟨signedTwo, false⟩ 256) listed
        (deletion timesOnly chores ⟨signedTwo, false⟩).reply listed' ∧
          (deletion timesOnly chores ⟨signedTwo, false⟩).reply.status ≠ 500 := by
  have hclock : Punctual (.scripted .epoch []) := punctual_scripted fun t ht => by
    rw [List.mem_singleton.mp ht]
    exact ⟨rfl, by decide⟩
  have h : Reached chores.store.backend := ⟨_, _, _, _, .sql, hclock, rfl⟩
  exact ⟨h, by decide, deletion_decided timesOnly h signedTwo⟩

end TaskBoard.Proofs.Web
