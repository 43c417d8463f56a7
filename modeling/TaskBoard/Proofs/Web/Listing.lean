import TaskBoard.Proofs.Json.Reading
import TaskBoard.Proofs.Numerals
import TaskBoard.Proofs.Stamp.Rfc3339
import TaskBoard.Proofs.Stores.Listing
import TaskBoard.Proofs.Web.Requests

namespace TaskBoard.Proofs.Web

open TaskBoard.Web TaskBoard.Entries Proofs.Entries Outcome Stores Services Proofs.Order Rfc3339

structure Showable (t : Task) : Prop where
  description : ∃ text, t.description = .text text
  created : Timed (fun u => ∃ o, u.offset = some o ∧ (60 * Time.microsOfSecond : ℤ) ∣ o) t.created
  id : ∃ i, t.id = some i ∧ TaskId.inRange i = true

lemma Showable.comparable {t : Task} (h : Showable t) : Comparable t := by
  obtain ⟨u, hu, o, ho, -⟩ := h.created
  obtain ⟨i, hi, -⟩ := h.id
  exact ⟨⟨u, hu, by simp [Time.Timestamp.isAware, ho]⟩, i, hi⟩

inductive Describes (t : Task) : Json.Document → Prop
  | intro {text created : String} {u : Time.Timestamp} {o i : ℤ} (hd : t.description = .text text)
      (hu : t.created = .time u) (ho : u.offset = some o) (hi : t.id = some i) (hc : Denotes created.toList u.wall o) :
      Describes t (.ofValue (.map
        [("Desc", .text text), ("Created", .text created), ("Done", .bool t.done), ("Id", .int i)]))

section Objects

variable {convert : Conversion} {t t' : Task} {v : Json.Document}

lemma Describes.unique (h : Describes t v) (h' : Describes t' v) : t = t' := by
  cases h with
  | @intro text created u o i hd hu ho hi hc =>
    generalize hv : Json.Document.ofValue _ = w at h'
    cases h' with
    | @intro text' created' u' o' i' hd' hu' ho' hi' hc' =>
      simp only [Json.Document.ofValue, Json.Document.ofMembers, Json.Document.map.injEq, List.cons.injEq,
        Prod.mk.injEq, Json.Document.text.injEq, Json.Document.bool.injEq, Json.Document.int.injEq,
        Json.Script.ofString_injective.eq_iff, true_and, and_true] at hv
      obtain ⟨rfl, rfl, hdone, rfl⟩ := hv
      obtain ⟨hw, rfl⟩ := hc.unique hc'
      obtain rfl : u = u' := by
        obtain ⟨wall, offset, hwall, hoff⟩ := u
        obtain ⟨wall', offset', hwall', hoff'⟩ := u'
        simp_all
      obtain ⟨description, created₁, done, id⟩ := t
      obtain ⟨description', created₂, done', id'⟩ := t'
      simp_all

def createdText : Value → String
  | .time u => String.ofList (createdChars u)
  | _ => ""

def object (t : Task) : Value :=
  .map [("Desc", t.description), ("Created", .text (createdText t.created)), ("Done", .bool t.done), ("Id", .ofId t.id)]

lemma shown_eq (hd : ∃ text, t.description = .text text) (hc : ∃ u, t.created = .time u) (hi : ∃ i, t.id = some i) :
    shown convert t = .ok (object t) := by
  obtain ⟨text, hd⟩ := hd
  obtain ⟨u, hc⟩ := hc
  obtain ⟨i, hi⟩ := hi
  simp [shown, object, createdText, createdTime, hd, hc, hi, descriptionProblems, idProblems]

lemma listing_eq (convert : Conversion) {tasks : List Task}
    (hd : ∀ t ∈ tasks, ∃ text, t.description = .text text) (hc : ∀ t ∈ tasks, ∃ u, t.created = .time u)
    (hi : ∀ t ∈ tasks, ∃ i, t.id = some i) :
    listing convert tasks = .ok (Json.write .compact (.list (tasks.map object))) := by
  rw [listing, mapM_ok fun t ht => shown_eq (hd t ht) (hc t ht) (hi t ht)]
  rfl

lemma faithful_object (h : Showable t) : Json.Faithful (object t) := by
  obtain ⟨text, hd⟩ := h.description
  obtain ⟨i, hi, hrange⟩ := h.id
  refine .map (by simp [keys]) ?_
  simp only [List.forall_mem_cons, hd, hi]
  exact ⟨.text _, .text _, .bool _, .int (Numerals.length_digits_of_inRange hrange), by simp⟩

lemma describes_object (h : Showable t) : Describes t (.ofValue (object t)) := by
  obtain ⟨text, hd⟩ := h.description
  obtain ⟨u, hu, o, ho, hm⟩ := h.created
  obtain ⟨i, hi, -⟩ := h.id
  have hc : Denotes (createdText t.created).toList u.wall o := by
    rw [hu, createdText, String.toList_ofList]
    exact denotes_createdChars ho hm
  rw [object, hd, hi]
  exact .intro hd hu ho hi hc

end Objects

/-- What the dictionary, the rows or the entities of a store stand for; rows are those that the store writes itself. -/
inductive Filled : Backend → List Task → Prop
  | memory (m : Memory) : Filled (.memory m) (values m.tasks)
  | sql {d : Database} {tasks : List (ℤ × Task)} (h : Holds (.sql d) tasks) (hd : ∀ e ∈ tasks, Timed Dated e.2.created) :
      Filled (.sql d) (values tasks)
  | datastore {c : Datastore.Client} {tasks : List Task} (hf : c.faults .fetch = none)
      (h : (c.entities.filter fun e => e.1.kind == Datastore.taskKind).mapM (fun e => Datastore.toTask e.1 e.2) =
        .ok tasks) : Filled (.datastore c) tasks

section Answers

variable {convert : Conversion} {s : Service} {tasks : List Task}

lemma list_filled {s : Store} (h : Filled s.backend tasks) (hc : ∀ t ∈ tasks, Comparable t) :
    ∃ s', Store.list s = .ok (tasks.mergeSort Task.notAfter) s' := by
  obtain ⟨b, journal⟩ := s
  cases h with
  | memory m => exact list_memory hc journal
  | sql h hd => exact ⟨_, by simp only [Store.list, Store.lift, list_table h hd]; rfl⟩
  | datastore hf h => exact list_client hf h hc journal

lemma handle_get {listed : List Task} {s' : Service} {body : String} (hl : Service.listTasks s = .ok listed s')
    (hb : listing convert listed = .ok body) (ignored : Body) :
    handle convert ⟨"GET", "/", ignored⟩ s = (⟨200, some "application/json", none, body⟩, s') := by
  have hget : getTasks convert s = .ok ⟨200, some "application/json", none, body⟩ s' := by
    simp [getTasks, bind, EStateM.bind, hl, Service.lift, hb, pure, EStateM.pure]
  exact handle_of_ok convert rfl rfl hget

lemma listTasks_filled (h : Filled s.store.backend tasks) (hc : ∀ t ∈ tasks, Showable t) :
    ∃ s', Service.listTasks s = .ok (tasks.mergeSort Task.notAfter) s' := by
  obtain ⟨st, hl⟩ := list_filled h fun t ht => (hc t ht).comparable
  exact ⟨{ s with store := st }, by simp only [Service.listTasks, Service.onStore, hl]⟩

def Tells (body : String) (listed : List Task) : Prop :=
  ∃ docs, Json.read body.toList = .ok (.list docs) ∧ List.Forall₂ Describes listed docs

lemma Tells.unique {body : String} {xs ys : List Task} (h : Tells body xs) (h' : Tells body ys) : xs = ys := by
  obtain ⟨docs, hr, hx⟩ := h
  obtain ⟨docs', hr', hy⟩ := h'
  obtain rfl : docs = docs' := by
    rw [hr] at hr'
    cases hr'
    rfl
  exact List.left_unique_forall₂' (fun _ _ _ ht ht' => ht.unique ht') hx hy

lemma listing_tells (hc : ∀ t ∈ tasks, Showable t) : ∃ body, listing convert tasks = .ok body ∧ Tells body tasks := by
  have hlisting := listing_eq convert (fun t ht => (hc t ht).description)
    (fun t ht => Exists.imp (fun _ h => h.1) (hc t ht).created) fun t ht => (hc t ht).id.imp fun _ h => h.1
  have hf : Json.Faithful (.list (tasks.map object)) := by
    refine .list fun v hv => ?_
    obtain ⟨t, ht, rfl⟩ := List.mem_map.mp hv
    exact faithful_object (hc t ht)
  refine ⟨_, hlisting, (tasks.map object).map .ofValue, ?_, ?_⟩
  · rw [Json.write, String.toList_ofList, Json.read_chars Json.spaced_compact hf, Json.Document.ofValue_list]
  · rw [List.forall₂_map_right_iff, List.forall₂_map_right_iff, List.forall₂_same]
    exact fun t ht => describes_object (hc t ht)

lemma answer_get (convert : Conversion) (h : Filled s.store.backend tasks) (hc : ∀ t ∈ tasks, Showable t)
    (ignored : Body) :
    ∃ listed s' body, Service.listTasks s = .ok listed s' ∧ listed.Perm tasks ∧
      handle convert ⟨"GET", "/", ignored⟩ s = (⟨200, some "application/json", none, body⟩, s') ∧ Tells body listed := by
  obtain ⟨s', hl⟩ := listTasks_filled h hc
  have hsorted : ∀ t ∈ tasks.mergeSort Task.notAfter, Showable t := fun t ht => hc t (List.mem_mergeSort.mp ht)
  obtain ⟨body, hb, ht⟩ := listing_tells hsorted
  exact ⟨_, s', body, hl, List.mergeSort_perm _ _, handle_get hl hb ignored, ht⟩

/--
The list of a store's tasks is answered, and everything about each of them can be read off the answer. So stores with
the same answer have the same list.
-/
theorem answer_tells_all (convert : Conversion) (h : Filled s.store.backend tasks) (hc : ∀ t ∈ tasks, Showable t)
    (ignored : Body) :
    (∃ listed s' body, Service.listTasks s = .ok listed s' ∧ listed.Perm tasks ∧
      handle convert ⟨"GET", "/", ignored⟩ s = (⟨200, some "application/json", none, body⟩, s') ∧ Tells body listed) ∧
    ∀ (other : Service) (tasks' : List Task), Filled other.store.backend tasks' → (∀ t ∈ tasks', Showable t) →
      (handle convert ⟨"GET", "/", ignored⟩ other).1.body = (handle convert ⟨"GET", "/", ignored⟩ s).1.body →
        ∃ listed s' other', Service.listTasks s = .ok listed s' ∧ Service.listTasks other = .ok listed other' := by
  obtain ⟨listed, s', body, hl, hp, hg, ht⟩ := answer_get convert h hc ignored
  refine ⟨⟨listed, s', body, hl, hp, hg, ht⟩, fun other tasks' h' hc' he => ?_⟩
  obtain ⟨listed', other', body', hl', -, hg', ht'⟩ := answer_get convert h' hc' ignored
  obtain rfl : body' = body := by simpa only [hg, hg'] using he
  exact ⟨listed, s', other', hl, ht'.unique ht ▸ hl'⟩

def evening : Time.Timestamp :=
  ⟨63871027200000001, some (19800 * Time.microsOfSecond), by decide, by rintro o ⟨⟩; decide⟩

def notes : Memory := .ofTasks [{ description := .text "say \"hi\" \\ 😀\n", created := .time evening },
  { description := .text "", created := .time .epoch, done := true }]

theorem answer_tells_all_notes : let s : Service := ⟨⟨.memory notes, []⟩, .scripted .epoch []⟩
    Filled s.store.backend (values notes.tasks) ∧ (∀ t ∈ values notes.tasks, Showable t) ∧
      ∃ listed s' body, Service.listTasks s = .ok listed s' ∧ listed.Perm (values notes.tasks) ∧
        handle timesOnly ⟨"GET", "/", ⟨[], false⟩⟩ s = (⟨200, some "application/json", none, body⟩, s') ∧
          Tells body listed := by
  intro s
  have h : Filled s.store.backend (values notes.tasks) := .memory notes
  have hc : ∀ t ∈ values notes.tasks, Showable t := by
    have hv : values notes.tasks =
      [⟨.text "say \"hi\" \\ 😀\n", .time evening, false, some 1⟩, ⟨.text "", .time .epoch, true, some 2⟩] := rfl
    rw [hv, List.forall_mem_cons, List.forall_mem_singleton]
    exact ⟨⟨⟨_, rfl⟩, ⟨_, rfl, _, rfl, 330, rfl⟩, ⟨_, rfl, rfl⟩⟩, ⟨⟨_, rfl⟩, ⟨_, rfl, _, rfl, 0, rfl⟩, ⟨_, rfl, rfl⟩⟩⟩
  exact ⟨h, hc, (answer_tells_all timesOnly h hc ⟨[], false⟩).1⟩

end Answers

end TaskBoard.Proofs.Web
