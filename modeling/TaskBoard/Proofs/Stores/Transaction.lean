import TaskBoard.Proofs.Stores.Remote

namespace TaskBoard.Proofs.Stores.Transaction

open TaskBoard.Datastore TaskBoard.Entries Proofs.Entries Remote

inductive Stage where
  | begin
  | get
  | put
  | commit
deriving DecidableEq

variable (id : ℤ) (change : Change) (c : Client)

def Stage.calls : Stage → List Call
  | begin => [began]
  | get => [began, got id true]
  | put => [began, got id true, written id]
  | commit => [began, got id true, written id, committed]

def Stage.undoneCalls : Stage → List Call
  | begin => [began]
  | stage => stage.calls id ++ [undone]

def Stage.Reached : Stage → Prop
  | begin => True
  | get => c.faults .begin = none
  | put => c.faults .begin = none ∧ c.faults .get = none
  | commit => c.faults .begin = none ∧ c.faults .get = none ∧ c.faults .put = none

def Changes (changed : Task) : Prop :=
  ∃ e t, c.entities.lookup (taskKey id) = some e ∧ toTask (taskKey id) e = .ok t ∧ change t = .ok changed

inductive Stopped : Stage → Failure → Prop
  | begin {f : Failure} (h : c.faults .begin = some f) : Stopped .begin f
  | get {f : Failure} (hr : Stage.get.Reached c) (h : c.faults .get = some f) : Stopped .get f
  | missing (hr : Stage.put.Reached c) (h : c.entities.lookup (taskKey id) = none) :
    Stopped .get (.taskNotFound id)
  | notDated {e : Entity} (hr : Stage.put.Reached c) (he : c.entities.lookup (taskKey id) = some e)
    (h : e.properties.lookup "created" = none) : Stopped .get notDated
  | refused {e : Entity} {t : Task} {f : Failure} (hr : Stage.put.Reached c)
    (he : c.entities.lookup (taskKey id) = some e) (ht : toTask (taskKey id) e = .ok t) (h : change t = .error f) :
    Stopped .get f
  | put {changed : Task} {f : Failure} (hr : Stage.put.Reached c) (ht : Changes id change c changed)
    (h : c.faults .put = some f) : Stopped .put f
  | commit {changed : Task} {f : Failure} (hr : Stage.commit.Reached c) (ht : Changes id change c changed)
    (h : c.faults .commit = some f) : Stopped .commit f

def Passes (changed : Task) : Prop :=
  Stage.commit.Reached c ∧ c.faults .commit = none ∧ Changes id change c changed

variable {id change c}

lemma toTask_of_none {key : Key} {e : Entity} (h : e.properties.lookup "created" = none) :
    toTask key e = .error notDated := by
  simp only [toTask, h]

lemma toTask_of_some (key : Key) {e : Entity} {created : Value} (h : e.properties.lookup "created" = some created) :
    ∃ t, toTask key e = .ok t ∧ t.created = created := by
  simp only [toTask, h]
  exact ⟨_, rfl, rfl⟩

lemma stopped_or_passes (id : ℤ) (change : Change) (c : Client) :
    (∃ stage f, Stopped id change c stage f) ∨ ∃ changed, Passes id change c changed := by
  cases hb : c.faults .begin with
  | some f => exact Or.inl ⟨_, f, .begin hb⟩
  | none =>
    cases hg : c.faults .get with
    | some f => exact Or.inl ⟨_, f, .get hb hg⟩
    | none =>
      cases he : c.entities.lookup (taskKey id) with
      | none => exact Or.inl ⟨_, _, .missing ⟨hb, hg⟩ he⟩
      | some e =>
        cases hcr : e.properties.lookup "created" with
        | none => exact Or.inl ⟨_, _, .notDated ⟨hb, hg⟩ he hcr⟩
        | some created =>
          obtain ⟨t, ht, -⟩ := toTask_of_some (taskKey id) hcr
          cases hch : change t with
          | error f => exact Or.inl ⟨_, f, .refused ⟨hb, hg⟩ he ht hch⟩
          | ok changed =>
            have hchanges : Changes id change c changed := ⟨e, t, he, ht, hch⟩
            cases hp : c.faults .put with
            | some f => exact Or.inl ⟨_, f, .put ⟨hb, hg⟩ hchanges hp⟩
            | none =>
              cases hc : c.faults .commit with
              | some f => exact Or.inl ⟨_, f, .commit ⟨hb, hg, hp⟩ hchanges hc⟩
              | none => exact Or.inr ⟨changed, ⟨hb, hg, hp⟩, hc, hchanges⟩

lemma Changes.bind_eq {changed : Task} (h : Changes id change c changed) :
    ∃ e, c.entities.lookup (taskKey id) = some e ∧ toTask (taskKey id) e >>= change = .ok changed := by
  obtain ⟨e, t, he, ht, hch⟩ := h
  exact ⟨e, he, by rw [ht]; exact hch⟩

lemma update_of_stopped {stage : Stage} {f : Failure} (h : Stopped id change c stage f) :
    update id change c = .error f (noted c (stage.undoneCalls id)) := by
  rw [update_eq]
  cases h with
  | begin h =>
    rw [h]
    rfl
  | get hb h =>
    rw [show c.faults .begin = none from hb, h]
    rfl
  | missing hr h =>
    rw [hr.1, hr.2, h]
    rfl
  | @notDated e hr he h =>
    have hbind : toTask (taskKey id) e >>= change = .error notDated := by
      rw [toTask_of_none h]
      rfl
    simp only [hr.1, hr.2, he, hbind]
    rfl
  | @refused e t f hr he ht h =>
    have hbind : toTask (taskKey id) e >>= change = .error f := by
      rw [ht]
      exact h
    simp only [hr.1, hr.2, he, hbind]
    rfl
  | put hr ht h =>
    obtain ⟨e, he, hbind⟩ := ht.bind_eq
    simp only [hr.1, hr.2, he, hbind, h]
    rfl
  | commit hr ht h =>
    obtain ⟨e, he, hbind⟩ := ht.bind_eq
    simp only [hr.1, hr.2.1, hr.2.2, he, hbind, h]
    rfl

lemma update_of_passes {changed : Task} (h : Passes id change c changed) : update id change c = .ok changed
    { noted c (Stage.commit.calls id) with entities := assign (taskKey id) (ofTask changed) c.entities } := by
  obtain ⟨⟨hb, hg, hp⟩, hc, ht⟩ := h
  obtain ⟨e, he, hbind⟩ := ht.bind_eq
  rw [update_eq]
  simp only [hb, hg, hp, hc, he, hbind]
  rfl

def Fails (id : ℤ) (c : Client) (stage : Stage) (f : Failure) (result : EStateM.Result Failure Client Task) : Prop :=
  ∃ g after, result = .error g after ∧ after.calls = c.calls ++ stage.undoneCalls id ∧ after.entities = c.entities ∧
    (f.isCall = true → g = .store "update task" f) ∧ (f.isCall = false → g = f)

def Succeeds (id : ℤ) (c : Client) (changed : Task) (result : EStateM.Result Failure Client Task) : Prop :=
  ∃ after, result = .ok { changed with id := some id } after ∧ after.calls = c.calls ++ Stage.commit.calls id ∧
    after.entities.lookup (taskKey id) = some (ofTask changed) ∧
    erase (taskKey id) after.entities = erase (taskKey id) c.entities

/-- The change of a task ends as the first thing that goes wrong says, whatever is stored and whatever can fail. -/
theorem modify_transacts (id : ℤ) (change : Change) (c : Client) :
    ((∃ stage f, Stopped id change c stage f) ∨ ∃ changed, Passes id change c changed) ∧
      (∀ stage f, Stopped id change c stage f → Fails id c stage f (modify id change c)) ∧
        ∀ changed, Passes id change c changed → Succeeds id c changed (modify id change c) := by
  refine ⟨stopped_or_passes id change c, fun stage f hstop => ?_, fun changed hpass => ?_⟩
  · rw [modify_of_error (update_of_stopped hstop)]
    refine ⟨_, _, rfl, rfl, rfl, fun hf => ?_, fun hf => ?_⟩
    · rw [mapped, if_pos hf]
    · rw [mapped, hf]
      rfl
  · rw [modify_of_ok (update_of_passes hpass)]
    exact ⟨_, rfl, rfl, lookup_assign_self _ _ _, erase_assign_self _ _ _⟩

def numbered : Client where
  entities := [(taskKey 7, ⟨[("created", .int 5)], []⟩)]
  nextId := 8

example : ∃ after, modify 7 (fun t => .ok t.complete) numbered = .ok ⟨.text "", .int 5, true, some 7⟩ after ∧
    after.calls = Stage.commit.calls 7 :=
  ⟨_, rfl, rfl⟩

end TaskBoard.Proofs.Stores.Transaction
