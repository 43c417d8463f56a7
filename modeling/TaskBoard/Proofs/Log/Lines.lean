import TaskBoard.Log
import TaskBoard.Proofs.Json.Lines

namespace TaskBoard.Proofs.Log

open TaskBoard.Log Proofs.Entries Proofs.Json

inductive Shows : Option Value → Option Value → Prop
  | missing : Shows none none
  | nothing : Shows (some .null) none
  | value {v : Value} (h : v ≠ .null) : Shows (some v) (some v)

def Silent (c : Context) : Prop := Shows c.method none ∧ Shows c.path none ∧ Shows c.status none

inductive TellsRequest (c : Context) : Option Value → Prop
  | silent (h : Silent c) : TellsRequest c none
  | told {members : List (String × Value)} (h : ¬ Silent c) (nodup : (keys members).Nodup)
      (only : keys members ⊆ ["method", "path", "status"]) (method : Shows c.method (members.lookup "method"))
      (path : Shows c.path (members.lookup "path")) (status : Shows c.status (members.lookup "status")) :
      TellsRequest c (some (.map members))

inductive TellsTrouble : Trouble → Option Value → Prop
  | none : TellsTrouble .none none
  | unnamed : TellsTrouble .unnamed none
  | failure (f : Failure) : TellsTrouble (.failure f)
      (some (.map [("type", .text f.name), ("message", .text f.message), ("stack", .text f.stack)]))

structure Tells (time : String) (r : Record) (members : List (String × Value)) : Prop where
  nodup : (keys members).Nodup
  only : keys members ⊆ ["time", "level", "logger", "message", "task_id", "http", "error"]
  time : members.lookup "time" = some (.text time)
  level : members.lookup "level" = some (.text (levelName r.level))
  logger : members.lookup "logger" = some (.text r.logger)
  message : members.lookup "message" = some (.text r.message)
  task : Shows r.context.taskId (members.lookup "task_id")
  request : TellsRequest r.context (members.lookup "http")
  trouble : TellsTrouble r.trouble (members.lookup "error")

def Loggable (v : Option Value) : Prop := ∀ w ∈ v, Faithful w

structure LoggableContext (c : Context) : Prop where
  task : Loggable c.taskId
  method : Loggable c.method
  path : Loggable c.path
  status : Loggable c.status

section Fields

variable {key : String} {v : Option Value}

def Sole (key : String) (members : List (String × Value)) : Prop := (keys members).Sublist [key]

lemma Sole.lookup_of_ne {other : String} {members : List (String × Value)} (h : Sole key members) (hne : other ≠ key) :
    members.lookup other = none :=
  lookup_eq_none_iff.mpr fun hk => hne (List.mem_singleton.mp (h.subset hk))

lemma optional_cases (key : String) (v : Option Value) : Log.optional key v = [] ∧ Shows v none ∨
    ∃ w, Log.optional key v = [(key, w)] ∧ v = some w ∧ w ≠ .null := by
  rcases v with _ | v
  · exact Or.inl ⟨rfl, .missing⟩
  · cases v with
    | null => exact Or.inl ⟨rfl, .nothing⟩
    | _ => exact Or.inr ⟨_, rfl, rfl, by rintro ⟨⟩⟩

lemma optional_eq_nil : Log.optional key v = [] ↔ Shows v none := by
  rcases optional_cases key v with ⟨he, h⟩ | ⟨w, he, rfl, h⟩
  · exact iff_of_true he h
  · refine iff_of_false (by simp [he]) fun hn => ?_
    cases hn
    exact h rfl

lemma sole_optional : Sole key (Log.optional key v) := by
  unfold Sole
  rcases optional_cases key v with ⟨he, -⟩ | ⟨w, he, -⟩ <;> simp [he]

lemma mem_optional {e : String × Value} (h : e ∈ Log.optional key v) : e.2 ∈ v := by
  rcases optional_cases key v with ⟨he, -⟩ | ⟨w, he, rfl, -⟩ <;> simp_all

lemma shows_optional : Shows v ((Log.optional key v).lookup key) := by
  rcases optional_cases key v with ⟨he, h⟩ | ⟨w, he, rfl, h⟩
  · rwa [he]
  · rw [he, List.lookup_cons_self]
    exact .value h

end Fields

section Request

variable {c : Context}

lemma keys_requestMembers : (keys (requestMembers c)).Sublist ["method", "path", "status"] := by
  rw [requestMembers, keys_append, keys_append]
  exact (sole_optional.append sole_optional).append sole_optional

lemma requestMembers_eq_nil : requestMembers c = [] ↔ Silent c := by
  simp only [requestMembers, List.append_eq_nil_iff, optional_eq_nil, Silent, and_assoc]

lemma faithful_requestMembers (h : LoggableContext c) : Faithful (.map (requestMembers c)) := by
  refine .map (keys_requestMembers.nodup (by decide)) fun e he => ?_
  rw [requestMembers, List.mem_append, List.mem_append] at he
  rcases he with (he | he) | he
  · exact h.method _ (mem_optional he)
  · exact h.path _ (mem_optional he)
  · exact h.status _ (mem_optional he)

lemma shows_request : Shows c.method ((requestMembers c).lookup "method") ∧
    Shows c.path ((requestMembers c).lookup "path") ∧ Shows c.status ((requestMembers c).lookup "status") := by
  simp (disch := decide) only [requestMembers, List.lookup_append, sole_optional.lookup_of_ne, Option.or_none,
    Option.none_or]
  exact ⟨shows_optional, shows_optional, shows_optional⟩

def requestMember (c : Context) : List (String × Value) :=
  if (requestMembers c).isEmpty then [] else [("http", .map (requestMembers c))]

lemma requestMember_of_silent (h : Silent c) : requestMember c = [] := by
  simp [requestMember, requestMembers_eq_nil.mpr h]

lemma requestMember_of_told (h : ¬ Silent c) : requestMember c = [("http", .map (requestMembers c))] := by
  have hne : requestMembers c ≠ [] := fun he => h (requestMembers_eq_nil.mp he)
  simp [requestMember, hne]

lemma faithful_requestMember (h : LoggableContext c) : ∀ e ∈ requestMember c, Faithful e.2 := by
  by_cases hs : Silent c
  · simp [requestMember_of_silent hs]
  · simpa [requestMember_of_told hs] using faithful_requestMembers h

lemma sole_requestMember : Sole "http" (requestMember c) := by
  unfold Sole
  by_cases h : Silent c
  · simp [requestMember_of_silent h]
  · simp [requestMember_of_told h]

lemma tells_request : TellsRequest c ((requestMember c).lookup "http") := by
  by_cases h : Silent c
  · rw [requestMember_of_silent h]
    exact .silent h
  · obtain ⟨hmethod, hpath, hstatus⟩ := shows_request (c := c)
    rw [requestMember_of_told h, List.lookup_cons_self]
    exact .told h (keys_requestMembers.nodup (by decide)) keys_requestMembers.subset hmethod hpath hstatus

end Request

section Trouble

variable {t : Trouble}

lemma sole_troubleMembers : Sole "error" (troubleMembers t) := by
  unfold Sole
  cases t <;> simp [troubleMembers]

lemma faithful_troubleMembers : ∀ e ∈ troubleMembers t, Faithful e.2 := by
  cases t with
  | none => simp [troubleMembers]
  | unnamed => simp [troubleMembers]
  | failure f =>
    rintro e he
    obtain rfl := List.mem_singleton.mp he
    refine .map (by simp [keys]) fun e he => ?_
    simp only [List.mem_cons, List.not_mem_nil, or_false] at he
    rcases he with rfl | rfl | rfl <;> exact .text _

lemma tells_trouble : TellsTrouble t ((troubleMembers t).lookup "error") := by
  cases t with
  | none => exact .none
  | unnamed => exact .unnamed
  | failure f => exact .failure f

end Trouble

section Records

variable {time : String} {r : Record}

def mainMembers (time : String) (r : Record) : List (String × Value) :=
  [("time", .text time), ("level", .text (levelName r.level)), ("logger", .text r.logger), ("message", .text r.message)]

def allMembers (time : String) (r : Record) : List (String × Value) :=
  mainMembers time r ++ Log.optional "task_id" r.context.taskId ++ requestMember r.context ++ troubleMembers r.trouble

lemma object_eq (time : String) (r : Record) : r.object time = .map (allMembers time r) := rfl

lemma keys_allMembers :
    (keys (allMembers time r)).Sublist ["time", "level", "logger", "message", "task_id", "http", "error"] := by
  rw [allMembers, keys_append, keys_append, keys_append]
  exact (((List.Sublist.refl (keys (mainMembers time r))).append sole_optional).append sole_requestMember).append
    sole_troubleMembers

lemma faithful_allMembers (h : LoggableContext r.context) : Faithful (.map (allMembers time r)) := by
  refine .map (keys_allMembers.nodup (by decide)) fun e he => ?_
  simp only [allMembers, List.mem_append] at he
  rcases he with ((he | he) | he) | he
  · simp only [mainMembers, List.mem_cons, List.not_mem_nil, or_false] at he
    rcases he with rfl | rfl | rfl | rfl <;> exact .text _
  · exact h.task _ (mem_optional he)
  · exact faithful_requestMember h e he
  · exact faithful_troubleMembers e he

lemma tells_allMembers : Tells time r (allMembers time r) := by
  -- The record's own texts are found in the first part, and everything else behind it.
  have hmain (key : String) (h : key ∉ ["task_id", "http", "error"]) :
      (allMembers time r).lookup key = (mainMembers time r).lookup key := by
    simp only [List.mem_cons, List.not_mem_nil, or_false, not_or] at h
    simp only [allMembers, List.lookup_append, sole_optional.lookup_of_ne h.1, sole_requestMember.lookup_of_ne h.2.1,
      sole_troubleMembers.lookup_of_ne h.2.2, Option.or_none]
  have hlater (key : String) (h : key ∉ keys (mainMembers time r)) :
      (allMembers time r).lookup key = (((Log.optional "task_id" r.context.taskId).lookup key).or
        ((requestMember r.context).lookup key)).or ((troubleMembers r.trouble).lookup key) := by
    simp only [allMembers, List.lookup_append, lookup_eq_none_iff.mpr h, Option.none_or]
  constructor
  case nodup => exact keys_allMembers.nodup (by decide)
  case only => exact keys_allMembers.subset
  case time => exact hmain "time" (by decide)
  case level => exact hmain "level" (by decide)
  case logger => exact hmain "logger" (by decide)
  case message => exact hmain "message" (by decide)
  case task =>
    rw [hlater "task_id" (by simp [mainMembers]), sole_requestMember.lookup_of_ne (by decide),
      sole_troubleMembers.lookup_of_ne (by decide), Option.or_none, Option.or_none]
    exact shows_optional
  case request =>
    rw [hlater "http" (by simp [mainMembers]), sole_optional.lookup_of_ne (by decide),
      sole_troubleMembers.lookup_of_ne (by decide), Option.none_or, Option.or_none]
    exact tells_request
  case trouble =>
    rw [hlater "error" (by simp [mainMembers]), sole_optional.lookup_of_ne (by decide),
      sole_requestMember.lookup_of_ne (by decide), Option.none_or, Option.none_or]
    exact tells_trouble

def awkward : Record where
  logger := "tasklist.api.http"
  level := error
  message := "gone\nfor \"good\""
  context := { taskId := some (.int 0), path := some (.list [.text "/tasks\r\n", .text "żółw"]), status := some .null }
  trouble := .failure (.value "no\ttask")

end Records

end TaskBoard.Proofs.Log
