import TaskBoard.Proofs.Entries
import TaskBoard.Store.Datastore

namespace TaskBoard.Proofs.Stores.Remote

open TaskBoard.Datastore Proofs.Entries

def noted (c : Client) (calls : List Call) : Client := { c with calls := c.calls ++ calls }

@[simp] lemma noted_entities (c : Client) (calls : List Call) : (noted c calls).entities = c.entities := rfl
@[simp] lemma noted_nextId (c : Client) (calls : List Call) : (noted c calls).nextId = c.nextId := rfl
@[simp] lemma noted_faults (c : Client) (calls : List Call) : (noted c calls).faults = c.faults := rfl
@[simp] lemma noted_calls (c : Client) (calls : List Call) : (noted c calls).calls = c.calls ++ calls := rfl
@[simp] lemma noted_noted (c : Client) (xs ys : List Call) : noted (noted c xs) ys = noted c (xs ++ ys) := by
  simp [noted, List.append_assoc]

def began : Call := ⟨.begin, .null, false⟩
def got (id : Int) (inTransaction : Bool) : Call := ⟨.get, .int id, inTransaction⟩
def written (id : Int) : Call := ⟨.put, .int id, true⟩
def committed : Call := ⟨.commit, .null, true⟩
def undone : Call := ⟨.rollback, .null, true⟩

lemma note_of_fault {c : Client} {kind : CallKind} {f : Failure} (h : c.faults kind = some f) (detail : Value)
    (inTransaction : Bool) : note kind detail inTransaction c = .error f (noted c [⟨kind, detail, inTransaction⟩]) := by
  simp [note, h, noted]

lemma note_of_none {c : Client} {kind : CallKind} (h : c.faults kind = none) (detail : Value) (inTransaction : Bool) :
    note kind detail inTransaction c = .ok () (noted c [⟨kind, detail, inTransaction⟩]) := by
  simp [note, h, noted]

lemma get_of_fault {c : Client} {f : Failure} (h : c.faults .get = some f) (id : Int) (inTransaction : Bool) :
    Datastore.get (taskKey id) inTransaction c = .error f (noted c [got id inTransaction]) := by
  simp [Datastore.get, bind, EStateM.bind, note_of_fault h, got, taskKey, KeyId.value]

lemma get_of_none {c : Client} (h : c.faults .get = none) (id : Int) (inTransaction : Bool) :
    Datastore.get (taskKey id) inTransaction c =
      .ok (c.entities.lookup (taskKey id)) (noted c [got id inTransaction]) := by
  simp [Datastore.get, bind, EStateM.bind, note_of_none h, got, taskKey, KeyId.value]

lemma put_of_fault {c : Client} {f : Failure} (h : c.faults .put = some f) (id : Int) (e : Entity) :
    Datastore.put (taskKey id) e true c = .error f (noted c [written id]) := by
  simp [Datastore.put, bind, EStateM.bind, note_of_fault h, written, taskKey, KeyId.value]

lemma put_of_none {c : Client} (h : c.faults .put = none) (id : Int) (e : Entity) :
    Datastore.put (taskKey id) e true c =
      .ok () { noted c [written id] with entities := Entries.assign (taskKey id) e c.entities } := by
  simp [Datastore.put, bind, EStateM.bind, note_of_none h, Datastore.assign, written, taskKey, KeyId.value]

def rewrite (id : Int) (change : Change) : Action Task := do
  match ← Datastore.get (taskKey id) true with
  | none => throw (.taskNotFound id)
  | some e =>
    let changed ← lift (change (← lift (toTask (taskKey id) e)))
    Datastore.put (taskKey id) (ofTask changed) true
    pure changed

lemma update_eq_transaction (id : Int) (change : Change) : update id change = transaction (rewrite id change) := rfl

section Rewrite

variable {c : Client} {id : Int} {change : Change} {e : Entity} {t : Task} {f : Failure}

lemma rewrite_of_get (h : c.faults .get = some f) : rewrite id change c = .error f (noted c [got id true]) := by
  simp [rewrite, bind, EStateM.bind, get_of_fault h]

lemma rewrite_of_absent (h : c.faults .get = none) (he : c.entities.lookup (taskKey id) = none) :
    rewrite id change c = .error (.taskNotFound id) (noted c [got id true]) := by
  simp only [rewrite, bind, EStateM.bind, get_of_none h, he]
  rfl

lemma rewrite_of_refused (h : c.faults .get = none) (he : c.entities.lookup (taskKey id) = some e)
    (hr : toTask (taskKey id) e >>= change = .error f) : rewrite id change c = .error f (noted c [got id true]) := by
  cases ht : toTask (taskKey id) e with
  | error g =>
    rw [ht] at hr
    cases hr
    simp [rewrite, bind, EStateM.bind, get_of_none h, he, ht, lift]
  | ok t =>
    rw [ht] at hr
    have hc : change t = .error f := hr
    simp [rewrite, bind, EStateM.bind, get_of_none h, he, ht, hc, lift]

lemma rewrite_of_put (h : c.faults .get = none) (he : c.entities.lookup (taskKey id) = some e)
    (hr : toTask (taskKey id) e >>= change = .ok t) (hp : c.faults .put = some f) :
    rewrite id change c = .error f (noted c [got id true, written id]) := by
  cases ht : toTask (taskKey id) e with
  | error g => rw [ht] at hr; cases hr
  | ok t' =>
    rw [ht] at hr
    have hc : change t' = .ok t := hr
    have hp' : (noted c [got id true]).faults .put = some f := hp
    simp [rewrite, bind, EStateM.bind, get_of_none h, he, ht, hc, lift, put_of_fault hp']

lemma rewrite_ok (h : c.faults .get = none) (he : c.entities.lookup (taskKey id) = some e)
    (hr : toTask (taskKey id) e >>= change = .ok t) (hp : c.faults .put = none) :
    rewrite id change c = .ok t { noted c [got id true, written id] with
      entities := Entries.assign (taskKey id) (ofTask t) c.entities } := by
  cases ht : toTask (taskKey id) e with
  | error g => rw [ht] at hr; cases hr
  | ok t' =>
    rw [ht] at hr
    have hc : change t' = .ok t := hr
    have hp' : (noted c [got id true]).faults .put = none := hp
    simp [rewrite, bind, EStateM.bind, get_of_none h, he, ht, hc, lift, put_of_none hp', pure, EStateM.pure]

end Rewrite

section Transaction

variable {α : Type} {c after : Client} {body : Action α} {a : α} {f : Failure}

lemma transaction_of_begin (h : c.faults .begin = some f) : transaction body c = .error f (noted c [began]) := by
  simp [transaction, bind, EStateM.bind, note_of_fault h, began]

lemma transaction_of_error (h : c.faults .begin = none) (hb : body (noted c [began]) = .error f after) :
    transaction body c = .error f (rollBack c.entities after) := by
  rw [began] at hb
  simp [transaction, bind, EStateM.bind, note_of_none h, hb]

lemma transaction_of_commit (h : c.faults .begin = none) (hb : body (noted c [began]) = .ok a after)
    (hc : after.faults .commit = some f) :
    transaction body c = .error f (rollBack c.entities (noted after [committed])) := by
  rw [began] at hb
  simp [transaction, bind, EStateM.bind, note_of_none h, hb, note_of_fault hc, committed]

lemma transaction_ok (h : c.faults .begin = none) (hb : body (noted c [began]) = .ok a after)
    (hc : after.faults .commit = none) : transaction body c = .ok a (noted after [committed]) := by
  rw [began] at hb
  simp [transaction, bind, EStateM.bind, note_of_none h, hb, note_of_none hc, committed, pure, EStateM.pure]

end Transaction

section Update

variable {c : Client} {id : Int} {change : Change} {e : Entity} {t : Task} {f : Failure}

lemma rollBack_noted (c : Client) (calls : List Call) :
    rollBack c.entities (noted c calls) = noted c (calls ++ [undone]) := by
  simp [rollBack, noted, undone]

theorem update_eq (id : Int) (change : Change) (c : Client) : update id change c =
    match c.faults .begin with
    | some f => .error f (noted c [began])
    | none => match c.faults .get with
      | some f => .error f (noted c [began, got id true, undone])
      | none => match c.entities.lookup (taskKey id) with
        | none => .error (.taskNotFound id) (noted c [began, got id true, undone])
        | some e => match toTask (taskKey id) e >>= change with
          | .error f => .error f (noted c [began, got id true, undone])
          | .ok t => match c.faults .put with
            | some f => .error f (noted c [began, got id true, written id, undone])
            | none => match c.faults .commit with
              | some f => .error f (noted c [began, got id true, written id, committed, undone])
              | none => .ok t { noted c [began, got id true, written id, committed] with
                  entities := Entries.assign (taskKey id) (ofTask t) c.entities } := by
  rw [update_eq_transaction]
  have hbody : ∀ calls, rollBack c.entities (noted (noted c [began]) calls) =
      noted c ([began] ++ calls ++ [undone]) := by
    intro calls
    rw [noted_noted, rollBack_noted]
  cases hb : c.faults .begin with
  | some f => exact transaction_of_begin hb
  | none =>
    cases hg : c.faults .get with
    | some f => exact (transaction_of_error hb (rewrite_of_get hg)).trans (congrArg _ (hbody _))
    | none =>
      cases he : c.entities.lookup (taskKey id) with
      | none => exact (transaction_of_error hb (rewrite_of_absent hg he)).trans (congrArg _ (hbody _))
      | some e =>
        cases hr : toTask (taskKey id) e >>= change with
        | error f =>
          simp only [hr]
          exact (transaction_of_error hb (rewrite_of_refused hg he hr)).trans (congrArg _ (hbody _))
        | ok t =>
          simp only [hr]
          cases hp : c.faults .put with
          | some f => exact (transaction_of_error hb (rewrite_of_put hg he hr hp)).trans (congrArg _ (hbody _))
          | none =>
            have hok := rewrite_ok (c := noted c [began]) hg he hr hp
            cases hc : c.faults .commit with
            | some f =>
              rw [transaction_of_commit hb hok hc]
              simp [rollBack, noted, undone]
            | none =>
              rw [transaction_ok hb hok hc]
              simp [noted]

end Update

section Tasks

variable {c : Client} {id : Int} {f : Failure}

@[simp] lemma toTask_ofTask (id : ℤ) (t : Task) : toTask (taskKey id) (ofTask t) = .ok { t with id := some id } := rfl

lemma taskKey_injective : Function.Injective taskKey := by
  intro i j h
  simpa [taskKey] using h

def entitiesOf (tasks : List (ℤ × Task)) : List (Key × Entity) := tasks.map (Prod.map taskKey ofTask)

lemma lookup_entitiesOf (id : ℤ) (tasks : List (ℤ × Task)) :
    (entitiesOf tasks).lookup (taskKey id) = (tasks.lookup id).map ofTask :=
      lookup_image taskKey_injective ofTask id tasks

lemma assign_entitiesOf (id : ℤ) (t : Task) (tasks : List (ℤ × Task)) :
    Entries.assign (taskKey id) (ofTask t) (entitiesOf tasks) = entitiesOf (Entries.assign id t tasks) :=
  assign_image taskKey_injective ofTask id t tasks

lemma erase_entitiesOf (id : ℤ) (tasks : List (ℤ × Task)) :
    Entries.erase (taskKey id) (entitiesOf tasks) = entitiesOf (Entries.erase id tasks) :=
  erase_image taskKey_injective ofTask id tasks

def mapped (operation : String) (f : Failure) : Failure := if f.isCall then .store operation f else f

lemma reported_of_ok {α : Type} {operation : String} {act : Action α} {a : α} {after : Client}
    (h : act c = .ok a after) : reported operation act c = .ok a after := by
  simp only [reported, h]

lemma reported_of_error {α : Type} {operation : String} {act : Action α} {after : Client}
    (h : act c = .error f after) : reported operation act c = .error (mapped operation f) after := by
  simp only [reported, h, mapped]

def created : Call := ⟨.put, .null, false⟩
def deleted (id : ℤ) : Call := ⟨.delete, .int id, false⟩
def listed : Call := ⟨.fetch, .list [.text taskKind, .list [.text "created"]], false⟩

lemma add_of_fault (h : c.faults .put = some f) (t : Task) :
    add t c = .error (mapped "create task" f) (noted c [created]) := by
  have hput : putNew taskKind (ofTask t) c = .error f (noted c [created]) := by
    simp [putNew, bind, EStateM.bind, note_of_fault h, created]
  simp [add, bind, EStateM.bind, reported_of_error hput]

lemma add_of_none (h : c.faults .put = none) (t : Task) : add t c = .ok { t with id := some c.nextId }
    { noted c [created] with
      entities := Entries.assign (taskKey c.nextId) (ofTask t) c.entities, nextId := c.nextId + 1 } := by
  have hput : putNew taskKind (ofTask t) c = .ok (taskKey c.nextId) { noted c [created] with
      entities := Entries.assign (taskKey c.nextId) (ofTask t) c.entities, nextId := c.nextId + 1 } := by
    simp [putNew, bind, EStateM.bind, note_of_none h, takeId, Datastore.assign, created, taskKey, pure, EStateM.pure]
  simp [add, bind, EStateM.bind, reported_of_ok hput, lift]

lemma getTask_of_fault (h : c.faults .get = some f) (id : ℤ) :
    getTask id c = .error (mapped "read task" f) (noted c [got id false]) := by
  simp [getTask, bind, EStateM.bind, reported_of_error (get_of_fault h id false)]

lemma getTask_of_none (h : c.faults .get = none) (id : ℤ) : getTask id c =
    match c.entities.lookup (taskKey id) with
    | none => .ok none (noted c [got id false])
    | some e => match toTask (taskKey id) e with
      | .ok t => .ok (some t) (noted c [got id false])
      | .error f => .error f (noted c [got id false]) := by
  have hget : reported "read task" (Datastore.get (taskKey id) false) c = _ := reported_of_ok (get_of_none h id false)
  cases he : c.entities.lookup (taskKey id) with
  | none =>
    rw [he] at hget
    simp [getTask, bind, EStateM.bind, hget, pure, EStateM.pure]
  | some e =>
    rw [he] at hget
    cases ht : toTask (taskKey id) e <;> simp [getTask, bind, EStateM.bind, hget, pure, EStateM.pure, lift, ht]

lemma remove_of_fault (h : c.faults .delete = some f) (id : ℤ) :
    remove id c = .error (mapped "delete task" f) (noted c [deleted id]) := by
  apply reported_of_error
  simp [delete, bind, EStateM.bind, note_of_fault h, deleted, taskKey, KeyId.value]

lemma remove_of_none (h : c.faults .delete = none) (id : ℤ) :
    remove id c = .ok () { noted c [deleted id] with entities := Entries.erase (taskKey id) c.entities } := by
  apply reported_of_ok
  simp [delete, bind, EStateM.bind, note_of_none h, deleted, taskKey, KeyId.value]

lemma fetch_of_fault (h : c.faults .fetch = some f) : reported "read from datastore" (fetch taskKind "created") c =
    .error (mapped "read from datastore" f) (noted c [listed]) := by
  apply reported_of_error
  simp [fetch, bind, EStateM.bind, note_of_fault h, listed]

lemma fetch_of_none (h : c.faults .fetch = none) : reported "read from datastore" (fetch taskKind "created") c =
    .ok (c.entities.filter fun e => e.1.kind == taskKind) (noted c [listed]) := by
  apply reported_of_ok
  simp [fetch, bind, EStateM.bind, note_of_none h, listed]

end Tasks

section Modify

variable {c after : Client} {id : ℤ} {change : Change} {r : Task}

lemma modify_of_error {f : Failure} (h : update id change c = .error f after) :
    Datastore.modify id change c = .error (mapped "update task" f) after := by
  simp [Datastore.modify, bind, EStateM.bind, reported_of_error h]

lemma modify_of_ok {t : Task} (h : update id change c = .ok t after) :
    Datastore.modify id change c = .ok { t with id := some id } after := by
  simp [Datastore.modify, bind, EStateM.bind, reported_of_ok h, pure, EStateM.pure]

lemma modify_cases (id : ℤ) (change : Change) (c : Client) :
    (∃ f calls, Datastore.modify id change c = .error f (noted c calls)) ∨
      ∃ e t calls, c.entities.lookup (taskKey id) = some e ∧ toTask (taskKey id) e >>= change = .ok t ∧
        Datastore.modify id change c = .ok { t with id := some id }
          { noted c calls with entities := Entries.assign (taskKey id) (ofTask t) c.entities } := by
  have h := update_eq id change c
  split at h
  · exact Or.inl ⟨_, _, modify_of_error h⟩
  split at h
  · exact Or.inl ⟨_, _, modify_of_error h⟩
  split at h
  · exact Or.inl ⟨_, _, modify_of_error h⟩
  rename_i e he
  split at h
  · exact Or.inl ⟨_, _, modify_of_error h⟩
  rename_i t ht
  split at h
  · exact Or.inl ⟨_, _, modify_of_error h⟩
  split at h
  · exact Or.inl ⟨_, _, modify_of_error h⟩
  exact Or.inr ⟨e, t, _, he, ht, modify_of_ok h⟩

lemma modify_of_none (h : ∀ kind, c.faults kind = none) (id : ℤ) (change : Change) : Datastore.modify id change c =
    match c.entities.lookup (taskKey id) with
    | none => .error (.taskNotFound id) (noted c [began, got id true, undone])
    | some e => match toTask (taskKey id) e >>= change with
      | .error f => .error (mapped "update task" f) (noted c [began, got id true, undone])
      | .ok t => .ok { t with id := some id } { noted c [began, got id true, written id, committed] with
          entities := Entries.assign (taskKey id) (ofTask t) c.entities } := by
  have hu := update_eq id change c
  simp only [h] at hu
  cases he : c.entities.lookup (taskKey id) with
  | none =>
    rw [he] at hu
    exact modify_of_error hu
  | some e =>
    cases ht : toTask (taskKey id) e >>= change with
    | error f =>
      simp only [he, ht] at hu ⊢
      exact modify_of_error hu
    | ok t =>
      simp only [he, ht] at hu ⊢
      exact modify_of_ok hu

end Modify

end TaskBoard.Proofs.Stores.Remote
