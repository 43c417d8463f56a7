import TaskBoard.Proofs.Stores.Counter
import TaskBoard.Proofs.Stores.Reporting

namespace TaskBoard.Proofs.Stores.Refusals

open TaskBoard.Entries Proofs.Entries Outcome

section Table

variable {id : ℤ} {change : Change} {d : Database}

def Finds (id : ℤ) (d : Database) (r : Row) : Prop :=
  ∃ rows, d.rows = some rows ∧ TaskId.inRange id = true ∧ rows.lookup id = some r

def Reads (id : ℤ) (d : Database) (t : Task) : Prop := ∃ r, Finds id d r ∧ Database.toTask id r = .ok t

inductive Refused (id : ℤ) (change : Change) (d : Database) : Failure → Prop
  | noTable (h : d.rows = none) : Refused id change d Database.noTable
  | tooLarge {rows : List (ℤ × Row)} (h : d.rows = some rows) (hid : TaskId.inRange id = false) :
    Refused id change d Database.tooLarge
  | missing {rows : List (ℤ × Row)} (h : d.rows = some rows) (hid : TaskId.inRange id = true) (hl : id ∉ keys rows) :
    Refused id change d (.taskNotFound id)
  | unreadable {r : Row} {f : Failure} (hr : Finds id d r) (h : Database.decodeTime r.created = .error f) :
    Refused id change d f
  | raised {t : Task} {f : Failure} (ht : Reads id d t) (h : change t = .error f) : Refused id change d f
  | undated {t changed : Task} {f : Failure} (ht : Reads id d t) (hch : change t = .ok changed)
    (h : Database.encodeCreated changed.created = .error f) : Refused id change d f
  | unwritable {t changed : Task} {text : String} {f : Failure} (ht : Reads id d t) (hch : change t = .ok changed)
    (hc : Database.encodeCreated changed.created = .ok text)
    (h : Database.encodeDescription changed.description = .error f) : Refused id change d f

def Told (operation : String) (f g : Failure) : Prop :=
  f.isDatabase = true ∧ g = .store operation f ∨ f.isDatabase = false ∧ g = f

lemma reported_eq_error {α : Type} {operation : String} {outcome : Except Failure α} {g : Failure} :
    Database.reported operation outcome = .error g ↔ ∃ f, outcome = .error f ∧ Told operation f g := by
  cases outcome with
  | ok a => simp [Database.reported]
  | error f =>
    simp only [Database.reported, Except.error.injEq, exists_eq_left', Told]
    cases f.isDatabase <;> simp [eq_comm]

lemma toTask_eq_error {r : Row} {f : Failure} :
    Database.toTask id r = .error f ↔ Database.decodeTime r.created = .error f := by
  rw [Database.toTask, bind_eq_error]
  simp [pure, Except.pure]

lemma update_of_missing {rows : List (ℤ × Row)} (h : d.rows = some rows) (hid : TaskId.inRange id = true)
    (hl : id ∉ keys rows) : d.update id change = .error (.taskNotFound id) := by
  rw [Database.update, InTable.searchable_eq h, if_pos hid]
  simp only [bind, Except.bind, lookup_eq_none_iff.mpr hl]

lemma update_of_finds {r : Row} {f : Failure} (h : Finds id d r) : d.update id change = .error f ↔
    Database.decodeTime r.created = .error f ∨ ∃ t, Database.toTask id r = .ok t ∧ (change t = .error f ∨
      ∃ changed, change t = .ok changed ∧ (Database.encodeCreated changed.created = .error f ∨
        ∃ text, Database.encodeCreated changed.created = .ok text ∧
          Database.encodeDescription changed.description = .error f)) := by
  obtain ⟨rows, hrows, hid, hl⟩ := h
  rw [Database.update, InTable.searchable_eq hrows, if_pos hid, bind_eq_error]
  simp only [Except.ok.injEq, exists_eq_left', hl, bind_eq_error, pure, Except.pure, reduceCtorEq, and_false,
    exists_false, or_false, false_or, toTask_eq_error]

lemma Refused.update_eq {f : Failure} (h : Refused id change d f) : d.update id change = .error f := by
  cases h with
  | noTable h =>
    simp only [Database.update, Database.searchable, Database.table, h]
    rfl
  | tooLarge h hid =>
    rw [Database.update, InTable.searchable_eq h, hid]
    rfl
  | missing h hid hl => exact update_of_missing h hid hl
  | unreadable hr h => exact (update_of_finds hr).mpr (Or.inl h)
  | raised ht h =>
    obtain ⟨r, hr, ht⟩ := ht
    exact (update_of_finds hr).mpr (Or.inr ⟨_, ht, Or.inl h⟩)
  | undated ht hch h =>
    obtain ⟨r, hr, ht⟩ := ht
    exact (update_of_finds hr).mpr (Or.inr ⟨_, ht, Or.inr ⟨_, hch, Or.inl h⟩⟩)
  | unwritable ht hch hc h =>
    obtain ⟨r, hr, ht⟩ := ht
    exact (update_of_finds hr).mpr (Or.inr ⟨_, ht, Or.inr ⟨_, hch, Or.inr ⟨_, hc, h⟩⟩⟩)

lemma refused_or_finds (id : ℤ) (change : Change) (d : Database) :
    (∃ f, Refused id change d f) ∨ ∃ r, Finds id d r := by
  cases hrows : d.rows with
  | none => exact Or.inl ⟨_, .noTable hrows⟩
  | some rows =>
    cases hid : TaskId.inRange id with
    | false => exact Or.inl ⟨_, .tooLarge hrows hid⟩
    | true =>
      cases hl : rows.lookup id with
      | none => exact Or.inl ⟨_, .missing hrows hid (lookup_eq_none_iff.mp hl)⟩
      | some r => exact Or.inr ⟨r, rows, hrows, hid, hl⟩

lemma update_eq_error {f : Failure} : d.update id change = .error f ↔ Refused id change d f := by
  refine ⟨fun h => ?_, Refused.update_eq⟩
  rcases refused_or_finds id change d with ⟨g, hg⟩ | ⟨r, hr⟩
  · cases hg.update_eq.symm.trans h
    exact hg
  · rcases (update_of_finds hr).mp h with h | ⟨t, ht, h | ⟨changed, hch, h | ⟨text, hc, h⟩⟩⟩
    · exact .unreadable hr h
    · exact .raised ⟨r, hr, ht⟩ h
    · exact .undated ⟨r, hr, ht⟩ hch h
    · exact .unwritable ⟨r, hr, ht⟩ hch hc h

lemma modify_eq_error {g : Failure} :
    d.modify id change = .error g ↔ ∃ f, Refused id change d f ∧ Told "update task" f g := by
  rw [Database.modify, reported_eq_error]
  simp only [update_eq_error]

end Table

def Local : Backend → Prop
  | .datastore _ => False
  | .memory _ | .sql _ => True

def Atomic {α : Type} (act : Store.Action α) (s : Store) : Prop := ∀ f s', act s = .error f s' → s' = s

section Atomicity

variable {s : Store} (hs : Local s.backend)

lemma Atomic.of_failureOf {α : Type} {act : Store.Action α} {f : Failure} (h : Atomic act s)
    (hf : failureOf (act s) = some f) : finalStore (act s) = s := by
  cases ha : act s with
  | ok a s' =>
    rw [ha] at hf
    cases hf
  | error g s' => exact h g s' ha

lemma atomic_settle {α : Type} {act : Store.Action α} {outcome : Except Failure (α × Backend)}
    (h : act s = s.settle outcome) : Atomic act s := by
  intro f s' hf
  rw [h] at hf
  exact (settle_error.mp hf).2

lemma atomic_ok {α : Type} {act : Store.Action α} {a : α} {s₁ : Store} (h : act s = .ok a s₁) : Atomic act s := by
  intro f s' hf
  cases h.symm.trans hf

lemma atomic_lift {α : Type} {act : Store.Action α} {outcome : Except Failure α} (h : act s = Store.lift outcome s) :
    Atomic act s := by
  intro f s' hf
  rw [h] at hf
  cases outcome with
  | ok a => cases hf
  | error g =>
    cases hf
    rfl

include hs

lemma atomic_of_kinds {α : Type} {act : Store.Action α} (hmemory : ∀ m journal, Atomic act ⟨.memory m, journal⟩)
    (hsql : ∀ d journal, Atomic act ⟨.sql d, journal⟩) : Atomic act s := by
  obtain ⟨b, journal⟩ := s
  cases b with
  | memory m => exact hmemory m journal
  | sql d => exact hsql d journal
  | datastore c => exact hs.elim

lemma atomic_add (t : Task) : Atomic (Store.add t) s :=
  atomic_of_kinds hs (fun _ _ => atomic_ok rfl) fun _ _ => atomic_settle rfl

lemma atomic_get (id : ℤ) : Atomic (Store.get id) s :=
  atomic_of_kinds hs (fun _ _ => atomic_ok rfl) fun _ _ => atomic_settle rfl

lemma atomic_modify (id : ℤ) (change : Change) : Atomic (Store.modify id change) s :=
  atomic_of_kinds hs (fun _ _ => atomic_settle rfl) fun _ _ => atomic_settle rfl

lemma atomic_remove (id : ℤ) : Atomic (Store.remove id) s :=
  atomic_of_kinds hs (fun _ _ => atomic_ok rfl) fun _ _ => atomic_settle rfl

lemma atomic_list : Atomic Store.list s :=
  atomic_of_kinds hs (fun _ _ => atomic_lift rfl) fun _ _ => atomic_lift rfl

lemma perform_of_failure {op : Operation} {f : Failure} (h : op.failure? s = some f) : op.perform s = s := by
  cases op with
  | add t => exact (atomic_add hs t).of_failureOf h
  | get id => exact (atomic_get hs id).of_failureOf h
  | modify id change => exact (atomic_modify hs id change).of_failureOf h
  | remove id => exact (atomic_remove hs id).of_failureOf h
  | list => exact (atomic_list hs).of_failureOf h
  | setFaults faults => cases h

end Atomicity

section Runs

variable {s : Store}

lemma finalStore_settle_sql {α β : Type} (outcome : Except Failure β) (d : Database) (journal : List Log.Record)
    (a : β → α) (next : β → Database) :
    ∃ d', finalStore (Store.settle ⟨.sql d, journal⟩ (outcome.map fun r => (a r, .sql (next r)))) =
      ⟨.sql d', journal⟩ := by
  cases outcome with
  | ok r => exact ⟨next r, rfl⟩
  | error f => exact ⟨d, rfl⟩

lemma perform_sql (op : Operation) (d : Database) (journal : List Log.Record) :
    ∃ d', op.perform ⟨.sql d, journal⟩ = ⟨.sql d', journal⟩ := by
  cases op with
  | add t => exact finalStore_settle_sql (d.add t) d journal Prod.fst Prod.snd
  | get id => exact finalStore_settle_sql (d.get id) d journal (fun t => t) fun _ => d
  | modify id change => exact finalStore_settle_sql (d.modify id change) d journal Prod.fst Prod.snd
  | remove id => exact finalStore_settle_sql (d.remove id) d journal (fun _ => ()) fun d' => d'
  | list => exact ⟨d, finalStore_lift d.list _⟩
  | setFaults faults => exact ⟨d, rfl⟩

lemma local_perform (hs : Local s.backend) (op : Operation) : Local (op.perform s).backend := by
  obtain ⟨b, journal⟩ := s
  cases b with
  | memory m =>
    obtain ⟨m', h, -⟩ := perform_memory op m journal
    rw [h]
    trivial
  | sql d =>
    obtain ⟨d', h⟩ := perform_sql op d journal
    rw [h]
    trivial
  | datastore c => exact hs.elim

lemma local_run (hs : Local s.backend) (operations : List Operation) : Local (run operations s).backend := by
  induction operations generalizing s with
  | nil => exact hs
  | cons op operations ih => exact ih (local_perform hs op)

lemma run_of_failure (hs : Local s.backend) {earlier : List Operation} {op : Operation} {f : Failure}
    (h : op.failure? (run earlier s) = some f) (later : List Operation) :
    run (earlier ++ op :: later) s = run (earlier ++ later) s := by
  have hsame := perform_of_failure (local_run hs earlier) h
  calc run (earlier ++ op :: later) s = run later (op.perform (run earlier s)) := run_append _ _ _
    _ = run later (run earlier s) := by rw [hsame]
    _ = run (earlier ++ later) s := (run_append _ _ _).symm

end Runs

section Failures

variable {journal : List Log.Record} {id : ℤ} {change : Change} {f g : Failure}

lemma failure?_settle {α : Type} {s : Store} {outcome : Except Failure (α × Backend)} :
    failureOf (s.settle outcome) = some f ↔ outcome = .error f := by
  cases outcome <;> simp [Store.settle, failureOf]

lemma failure?_memory (m : Memory) : (Operation.modify id change).failure? ⟨.memory m, journal⟩ = some f ↔
    id ∉ keys m.tasks ∧ f = .taskNotFound id ∨ ∃ t, m.tasks.lookup id = some t ∧ change t = .error f := by
  simp only [Operation.failure?, Store.modify, failure?_settle, map_eq_error]
  cases hl : m.tasks.lookup id with
  | none =>
    have hid := lookup_eq_none_iff.mp hl
    rw [InMemory.modify_of_absent hid]
    simp [hid, eq_comm]
  | some t =>
    have hid : id ∈ keys m.tasks := mem_keys_of_mem (mem_of_lookup hl)
    rw [InMemory.modify_of_present hl, map_eq_error]
    simp [hid]

lemma failure?_sql (d : Database) : (Operation.modify id change).failure? ⟨.sql d, journal⟩ = some g ↔
    ∃ f, Refused id change d f ∧ Told "update task" f g := by
  simp only [Operation.failure?, Store.modify, failure?_settle, map_eq_error]
  exact modify_eq_error

/--
An operation that fails leaves a store in memory or a table as it was: its tasks, its listing and the id that is next.
Changes fail where the task is missing, or with what is first raised on the way.
-/
theorem refusals_leave_no_trace {s : Store} (hs : Local s.backend) :
    (∀ earlier op f, op.failure? (run earlier s) = some f → op.perform (run earlier s) = run earlier s ∧
      ∀ later, run (earlier ++ op :: later) s = run (earlier ++ later) s) ∧
    (∀ m, s.backend = .memory m → ∀ id change f, (Operation.modify id change).failure? s = some f ↔
      id ∉ keys m.tasks ∧ f = .taskNotFound id ∨ ∃ t, m.tasks.lookup id = some t ∧ change t = .error f) ∧
    ∀ d, s.backend = .sql d → ∀ id change g, (Operation.modify id change).failure? s = some g ↔
      ∃ f, Refused id change d f ∧ Told "update task" f g := by
  refine ⟨fun earlier op f h => ?_, fun m hm id change f => ?_, fun d hd id change g => ?_⟩
  · exact ⟨perform_of_failure (local_run hs earlier) h, run_of_failure hs h⟩
  · obtain ⟨b, journal⟩ := s
    cases hm
    exact failure?_memory m
  · obtain ⟨b, journal⟩ := s
    cases hd
    exact failure?_sql d

def lastSecond : Time.Timestamp where
  wall := Time.span - Time.microsOfSecond
  offset := some (-3600000000)
  wall_lt := by decide
  offset_lt := by simp [Time.microsOfDay]

def watering : Task := { description := .text "water the plants", created := .time .epoch }

def postpone : Change := fun t => .ok { t with created := .time lastSecond }

theorem refusals_leave_no_trace_postponed : Local (.sql {}) ∧
    (Operation.modify 1 postpone).failure? (run [.add watering] ⟨.sql {}, []⟩) = some Clock.outOfRange ∧
      run [.add watering, .modify 1 postpone, .add watering] ⟨.sql {}, []⟩ =
        run [.add watering, .add watering] ⟨.sql {}, []⟩ := by
  have hs : Local (.sql {}) := trivial
  have hfails : (Operation.modify 1 postpone).failure? (run [.add watering] ⟨.sql {}, []⟩) =
      some Clock.outOfRange := rfl
  have htrace := (refusals_leave_no_trace (s := ⟨.sql {}, []⟩) hs).1 [.add watering] _ _ hfails
  exact ⟨hs, hfails, htrace.2 [.add watering]⟩

theorem not_always_told_missing : ¬ ∀ (s : Store) (d : Database) (rows : List (ℤ × Row)), s.backend = .sql d →
    d.rows = some rows → ∀ id change, id ∉ keys rows →
      (Operation.modify id change).failure? s = some (.taskNotFound id) := by
  intro h
  have hmissing := h ⟨.sql {}, []⟩ {} [] rfl rfl (2 ^ 63) .ok (by simp)
  have hlarge : (Operation.modify (2 ^ 63) .ok).failure? ⟨.sql {}, []⟩ = some Database.tooLarge := rfl
  cases hlarge.symm.trans hmissing

end Failures

end TaskBoard.Proofs.Stores.Refusals
