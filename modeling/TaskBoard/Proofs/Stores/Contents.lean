import TaskBoard.Proofs.Stores.InMemory
import TaskBoard.Proofs.Stores.InTable
import TaskBoard.Proofs.Stores.Remote
import TaskBoard.Store.Basic

/-! What a store holds: one list of tasks behind a dictionary, the rows of a table and the entities of a client. -/

namespace TaskBoard.Proofs.Stores

open TaskBoard.Entries Proofs.Entries

structure Kept where
  description : Value
  created : Value
  done : Bool

namespace Kept

def ofTask (t : Task) : Kept := ⟨t.description, t.created, t.done⟩

def ofRow (r : Row) : Kept := ⟨.text r.description, .text r.created, r.done != 0⟩

def property (e : Datastore.Entity) (name : String) : Value := (e.properties.lookup name).getD .null

def ofEntity (e : Datastore.Entity) : Kept :=
  ⟨property e "description", property e "created", (property e "done").truth⟩

end Kept

def entityContents (e : Datastore.Key × Datastore.Entity) : Option (ℤ × Kept) :=
  if e.1.kind = Datastore.taskKind then e.1.id.number?.map fun id => (id, Kept.ofEntity e.2) else none

def contents : Backend → List (ℤ × Kept)
  | .memory m => m.tasks.map (Prod.map id Kept.ofTask)
  | .sql d => (d.rows.getD []).map (Prod.map id Kept.ofRow)
  | .datastore c => c.entities.filterMap entityContents

def Untouched : Backend → Backend → Prop
  | .datastore c, b => ∃ calls, b = .datastore (Remote.noted c calls)
  | a, b => b = a

lemma Untouched.refl (b : Backend) : Untouched b b := by
  cases b with
  | memory m => exact rfl
  | sql d => exact rfl
  | datastore c => exact ⟨[], by simp [Remote.noted]⟩

lemma Untouched.trans {a b c : Backend} (hab : Untouched a b) (hbc : Untouched b c) : Untouched a c := by
  cases a with
  | memory m =>
    cases hab
    exact hbc
  | sql d =>
    cases hab
    exact hbc
  | datastore client =>
    obtain ⟨calls, rfl⟩ := hab
    obtain ⟨later, rfl⟩ := hbc
    exact ⟨calls ++ later, by rw [Remote.noted_noted]⟩

lemma Untouched.contents_eq {a b : Backend} (h : Untouched a b) : contents b = contents a := by
  cases a with
  | memory m => rw [show b = _ from h]
  | sql d => rw [show b = _ from h]
  | datastore c =>
    obtain ⟨calls, rfl⟩ := h
    rfl

/-- How a list of tasks is stored. The ids that a client gives out are above all ids that it holds. -/
def Stored : Backend → List (ℤ × Task) → Prop
  | .memory m, tasks => m.tasks = tasks
  | .sql d, tasks => d.rows = some (InTable.rowsOf tasks) ∧ ∀ e ∈ tasks, InTable.Plain e.2
  | .datastore c, tasks => c.entities = Remote.entitiesOf tasks ∧
      ∀ i ∈ keys tasks, i < c.nextId

structure Holds (b : Backend) (tasks : List (ℤ × Task)) : Prop where
  nodup : (keys tasks).Nodup
  named : ∀ e ∈ tasks, e.2.id = some e.1
  stored : Stored b tasks

lemma Untouched.stored {a b : Backend} (h : Untouched a b) {tasks : List (ℤ × Task)} (hs : Stored a tasks) :
    Stored b tasks := by
  cases a with
  | memory m => rwa [show b = _ from h]
  | sql d => rwa [show b = _ from h]
  | datastore c =>
    obtain ⟨calls, rfl⟩ := h
    exact hs

lemma Untouched.holds {a b : Backend} (h : Untouched a b) {tasks : List (ℤ × Task)} (hs : Holds a tasks) :
    Holds b tasks :=
  ⟨hs.nodup, hs.named, h.stored hs.stored⟩

def written : Backend → Task → Kept
  | .sql _, t => Kept.ofRow (InTable.row t)
  | _, t => Kept.ofTask t

lemma Kept.ofEntity_ofTask (t : Task) : Kept.ofEntity (Datastore.ofTask t) = Kept.ofTask t := rfl

lemma entityContents_task (id : ℤ) (t : Task) :
    entityContents (Datastore.taskKey id, Datastore.ofTask t) = some (id, Kept.ofTask t) := by
  simp [entityContents, Datastore.taskKey, Datastore.KeyId.number?, Kept.ofEntity_ofTask]

lemma Stored.contents_eq {b : Backend} {tasks : List (ℤ × Task)} (h : Stored b tasks) :
    contents b = tasks.map (Prod.map id (written b)) := by
  cases b with
  | memory m =>
    rw [contents, show m.tasks = tasks from h]
    rfl
  | sql d =>
    rw [contents, h.1, Option.getD_some, InTable.rowsOf, List.map_map]
    rfl
  | datastore c =>
    rw [contents, h.1, Remote.entitiesOf, List.filterMap_map, ← List.filterMap_eq_map']
    apply List.filterMap_congr
    rintro ⟨id, t⟩ _
    exact entityContents_task id t

lemma Holds.contents_eq {b : Backend} {tasks : List (ℤ × Task)} (h : Holds b tasks) :
    contents b = tasks.map (Prod.map id (written b)) := h.stored.contents_eq

lemma Holds.keys_contents {b : Backend} {tasks : List (ℤ × Task)} (h : Holds b tasks) :
    keys (contents b) = keys tasks := by
  rw [h.contents_eq, keys, List.map_map]
  rfl

def Saves : Backend → Task → Task → Prop
  | .sql _, t, kept => InTable.Saves t kept
  | _, t, kept => kept = t

lemma written_done (b : Backend) (t : Task) : (written b t).done = t.done := by
  cases b with
  | memory m => rfl
  | datastore c => rfl
  | sql d => exact InTable.ofBool_ne_zero t.done

lemma written_complete (b : Backend) (t : Task) : written b t.complete = { written b t with done := true } := by
  cases b <;> rfl

lemma Saves.written_description {b : Backend} {t kept : Task} (h : Saves b t kept) {text : String}
    (ht : t.description = .text text) :
    (written b kept).description = .text text ∧ (written b kept).done = t.done := by
  rw [written_done]
  cases b with
  | memory m => rw [show kept = t from h]; exact ⟨ht, rfl⟩
  | datastore c => rw [show kept = t from h]; exact ⟨ht, rfl⟩
  | sql d =>
    obtain ⟨text', _, u, htext, _, _, rfl⟩ := h
    rw [ht, Database.encodeDescription] at htext
    cases htext
    exact ⟨rfl, rfl⟩

lemma Saves.eq_of_complete {b : Backend} {tasks : List (ℤ × Task)} {id : ℤ} {t kept : Task}
    (h : Saves b t.complete kept)
    (hs : Stored b tasks) (ht : (id, t) ∈ tasks) : kept = t.complete := by
  cases b with
  | memory m => exact h
  | datastore c => exact h
  | sql d =>
    have hp : InTable.Plain t.complete := hs.2 _ ht
    exact InTable.Saves.eq_of_plain h hp

def newId : Backend → ℤ
  | .memory m => m.freeId
  | .sql d => Database.newId (d.rows.getD [])
  | .datastore c => c.nextId

lemma Holds.newId_notMem {b : Backend} {tasks : List (ℤ × Task)} (h : Holds b tasks) : newId b ∉ keys tasks := by
  have hk := h.keys_contents
  cases b with
  | memory m =>
    rw [← hk, contents, keys, List.map_map]
    exact InMemory.freeId_notMem m
  | sql d =>
    rw [← hk, contents, keys, List.map_map]
    exact InTable.newId_notMem (d.rows.getD [])
  | datastore c => exact fun hmem => lt_irrefl _ (h.stored.2 _ hmem)

inductive Fresh : Backend → Prop
  | memory : Fresh (.memory {})
  | sql : Fresh (.sql {})
  | datastore (nextId : ℤ) : Fresh (.datastore { nextId })

lemma Fresh.holds {b : Backend} (h : Fresh b) : Holds b [] := by
  refine ⟨List.nodup_nil, by simp, ?_⟩
  cases h with
  | memory => exact rfl
  | sql => exact ⟨rfl, by simp⟩
  | datastore nextId => exact ⟨rfl, by simp⟩

end TaskBoard.Proofs.Stores
