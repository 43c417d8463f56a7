import TaskBoard.Proofs.Stores.Effects

namespace TaskBoard.Proofs.Stores

open TaskBoard.Entries Proofs.Entries Outcome

inductive Operation where
  | add (t : Task)
  | get (id : ℤ)
  | modify (id : ℤ) (change : Change)
  | remove (id : ℤ)
  | list
  | setFaults (faults : Datastore.CallKind → Option Failure)

def setFaults (faults : Datastore.CallKind → Option Failure) (s : Store) : Store :=
  match s.backend with
  | .datastore c => { s with backend := .datastore { c with faults } }
  | _ => s

namespace Operation

def perform : Operation → Store → Store
  | add t, s => finalStore (Store.add t s)
  | get id, s => finalStore (Store.get id s)
  | modify id change, s => finalStore (Store.modify id change s)
  | remove id, s => finalStore (Store.remove id s)
  | list, s => finalStore (Store.list s)
  | setFaults faults, s => Stores.setFaults faults s

/-- What is written can be kept by every backend. Of a change only the task that it makes here counts. -/
def Keeps (s : Store) : Operation → Prop
  | add t => Keepable t
  | modify id change => ∀ r s', Store.modify id change s = .ok r s' → Keepable r
  | get _ | remove _ | list | setFaults _ => True

end Operation

def run (operations : List Operation) (s : Store) : Store := operations.foldl (fun s op => op.perform s) s

def AllKeep : List Operation → Store → Prop
  | [], _ => True
  | op :: operations, s => op.Keeps s ∧ AllKeep operations (op.perform s)

lemma setFaults_holds {s : Store} {tasks : List (ℤ × Task)} (h : Holds s.backend tasks)
    (faults : Datastore.CallKind → Option Failure) : Holds (setFaults faults s).backend tasks := by
  obtain ⟨b, journal⟩ := s
  cases b with
  | memory m => exact h
  | sql d => exact h
  | datastore c => exact ⟨h.nodup, h.named, h.stored⟩

lemma Saves.keepable {b : Backend} {t kept : Task} (h : Saves b t kept) (ht : Keepable t) : Keepable kept := by
  cases b with
  | memory m => rwa [show kept = t from h]
  | datastore c => rwa [show kept = t from h]
  | sql d =>
    obtain ⟨s, c, u, _, hc, hu, rfl⟩ := h
    have htime := ht.2
    rw [hc, Proofs.Order.timed_time] at htime
    obtain ⟨_, v, hv, hy⟩ := htime
    have huv : v = u := Option.some.inj (hv.symm.trans (Stamp.toUtc_spec hu))
    have hzero := (Stamp.toUtc?_spec hv).1
    refine ⟨⟨s, rfl⟩, u, rfl, ?_, u, Stamp.toUtc_spec (Stamp.toUtc_of_utc (huv ▸ hzero)), huv ▸ hy⟩
    rw [Time.Timestamp.isAware, ← huv, hzero]
    rfl

lemma keepable_assign {tasks : List (ℤ × Task)} (h : ∀ e ∈ tasks, Keepable e.2) {t : Task} (ht : Keepable t) (id : ℤ) :
    ∀ e ∈ assign id t tasks, Keepable e.2 := by
  intro e he
  rcases mem_assign he with rfl | he
  · exact ht
  · exact h e he

lemma keepable_erase {tasks : List (ℤ × Task)} (h : ∀ e ∈ tasks, Keepable e.2) (id : ℤ) :
    ∀ e ∈ erase id tasks, Keepable e.2 := fun e he => h e (List.mem_filter.mp he).1

lemma perform_spec {s : Store} {tasks : List (ℤ × Task)} (h : Holds s.backend tasks) (op : Operation) :
    ∃ tasks', Holds (op.perform s).backend tasks' ∧
      ((∀ e ∈ tasks, Keepable e.2) → op.Keeps s → ∀ e ∈ tasks', Keepable e.2) := by
  cases op with
  | add t =>
    rw [Operation.perform]
    cases hr : Store.add t s with
    | error f s' => exact ⟨tasks, (add_error hr).holds h, fun hk _ => hk⟩
    | ok r s' =>
      obtain ⟨id, kept, rfl, _, hsave, hs', _⟩ := add_ok h hr
      refine ⟨_, hs', fun hk hop => keepable_assign hk (hsave.keepable ?_) id⟩
      exact hop
  | get id =>
    rw [Operation.perform]
    cases hr : Store.get id s with
    | error f s' => exact ⟨tasks, (get_error hr).holds h, fun hk _ => hk⟩
    | ok r s' => exact ⟨tasks, (get_ok h hr).2.holds h, fun hk _ => hk⟩
  | modify id change =>
    rw [Operation.perform]
    cases hr : Store.modify id change s with
    | error f s' => exact ⟨tasks, (modify_error hr).holds h, fun hk _ => hk⟩
    | ok r s' =>
      obtain ⟨_, _, kept, _, _, _, hsave, hs', _⟩ := modify_ok h hr
      exact ⟨_, hs', fun hk hop => keepable_assign hk (hsave.keepable (hop r s' hr)) id⟩
  | remove id =>
    rw [Operation.perform]
    cases hr : Store.remove id s with
    | error f s' => exact ⟨tasks, (remove_error hr).holds h, fun hk _ => hk⟩
    | ok r s' => exact ⟨_, (remove_ok h hr).1, fun hk _ => keepable_erase hk id⟩
  | list => exact ⟨tasks, (list_untouched s).holds h, fun hk _ => hk⟩
  | setFaults faults => exact ⟨tasks, setFaults_holds h faults, fun hk _ => hk⟩

lemma run_holds {s : Store} {tasks : List (ℤ × Task)} (h : Holds s.backend tasks) (operations : List Operation) :
    ∃ tasks', Holds (run operations s).backend tasks' := by
  induction operations generalizing s tasks with
  | nil => exact ⟨tasks, h⟩
  | cons op operations ih =>
    obtain ⟨_, h', _⟩ := perform_spec h op
    exact ih h'

lemma run_keepable {s : Store} {tasks : List (ℤ × Task)} (h : Holds s.backend tasks) (hk : ∀ e ∈ tasks, Keepable e.2)
    {operations : List Operation} (hops : AllKeep operations s) :
    ∃ tasks', Holds (run operations s).backend tasks' ∧ ∀ e ∈ tasks', Keepable e.2 := by
  induction operations generalizing s tasks with
  | nil => exact ⟨tasks, h, hk⟩
  | cons op operations ih =>
    obtain ⟨hop, hops⟩ := hops
    obtain ⟨_, h', hkeep⟩ := perform_spec h op
    exact ih h' (hkeep hk hop) hops

lemma Fresh.calm {b : Backend} (h : Fresh b) : Calm b := by
  cases h with
  | memory => trivial
  | sql => trivial
  | datastore nextId => exact fun _ => rfl

end TaskBoard.Proofs.Stores
