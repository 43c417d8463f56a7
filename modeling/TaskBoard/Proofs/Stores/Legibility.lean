import TaskBoard.Proofs.Stores.Laws
import TaskBoard.Proofs.Stores.Listing
import TaskBoard.Proofs.Stores.SortKeys

/-! When all that a table accepted can be read: as long as no task in it was created before the year 1000. -/

namespace TaskBoard.Proofs.Stores.Legibility

open TaskBoard.Entries Proofs.Entries Proofs.Order Outcome

def enter (r : Task) (accepted : List (ℤ × Task)) : List (ℤ × Task) :=
  match r.id with
  | some id => assign id r accepted
  | none => accepted

/-- What is accepted after an operation: the tasks that were handed back by id, less those that were removed. -/
def record : Operation → Store → List (ℤ × Task) → List (ℤ × Task)
  | .add t, s, accepted =>
    match Store.add t s with
    | .ok r _ => enter r accepted
    | .error _ _ => accepted
  | .modify id change, s, accepted =>
    match Store.modify id change s with
    | .ok r _ => enter r accepted
    | .error _ _ => accepted
  | .remove id, s, accepted =>
    match Store.remove id s with
    | .ok _ _ => erase id accepted
    | .error _ _ => accepted
  | .get _, _, accepted | .list, _, accepted | .setFaults _, _, accepted => accepted

def acceptedFrom (accepted : List (ℤ × Task)) : List Operation → Store → List (ℤ × Task)
  | [], _ => accepted
  | op :: operations, s => acceptedFrom (record op s accepted) operations (op.perform s)

def accepted (operations : List Operation) (s : Store) : List (ℤ × Task) := acceptedFrom [] operations s

structure Legible (s : Store) (accepted : List (ℤ × Task)) : Prop where
  found : ∀ e ∈ accepted, ∃ r, Found s e.1 (some r) ∧ InTable.Saves e.2 r
  listed : ∃ tasks s', Store.list s = .ok tasks s' ∧ (∀ r, r ∈ tasks ↔ ∃ e ∈ accepted, Found s e.1 (some r)) ∧
    tasks.Pairwise fun t u => rank t < rank u

def Recent (t : Time.Timestamp) : Prop := ∃ u, t.toUtc? = some u ∧ 1000 ≤ u.date.year

def Matches (e k : ℤ × Task) : Prop := e.1 = k.1 ∧ InTable.Saves e.2 k.2

section Matching

variable {l tasks : List (ℤ × Task)} {id : ℤ} {r kept : Task}

lemma matches_assign (h : List.Forall₂ Matches l tasks) (hr : InTable.Saves r kept) :
    List.Forall₂ Matches (assign id r l) (assign id kept tasks) := by
  induction h with
  | nil => exact .cons ⟨rfl, hr⟩ .nil
  | @cons e k l tasks hek hrest ih =>
    rw [assign, assign, ← hek.1]
    split
    · exact .cons ⟨rfl, hr⟩ hrest
    · exact .cons hek ih

lemma matches_erase (h : List.Forall₂ Matches l tasks) (id : ℤ) :
    List.Forall₂ Matches (erase id l) (erase id tasks) := by
  induction h with
  | nil => exact .nil
  | @cons e k l tasks hek hrest ih =>
    rw [erase_cons, erase_cons, ← hek.1]
    split
    · exact ih
    · exact .cons hek ih

lemma keys_of_matches (h : List.Forall₂ Matches l tasks) : keys l = keys tasks := by
  induction h with
  | nil => rfl
  | cons hek _ ih => rw [keys_cons, keys_cons, hek.1, ih]

lemma exists_related {α β : Type} {R : α → β → Prop} {xs : List α} {ys : List β} (h : List.Forall₂ R xs ys) {x : α}
    (hx : x ∈ xs) : ∃ y ∈ ys, R x y := by
  induction h with
  | nil => cases hx
  | @cons x' y xs ys hxy _ ih =>
    rcases List.mem_cons.mp hx with rfl | hx
    · exact ⟨y, List.mem_cons_self, hxy⟩
    · obtain ⟨y', hy', hr⟩ := ih hx
      exact ⟨y', List.mem_cons_of_mem y hy', hr⟩

lemma exists_accepted (h : List.Forall₂ Matches l tasks) {k : ℤ × Task} (hk : k ∈ tasks) : ∃ e ∈ l, Matches e k :=
  exists_related (R := flip Matches) h.flip hk

end Matching

structure Ledger (s : Store) (l tasks : List (ℤ × Task)) (n : ℕ) : Prop where
  table : ∃ d, s.backend = .sql d
  holds : Holds s.backend tasks
  saves : List.Forall₂ Matches l tasks
  bounded : ∀ id ∈ keys tasks, 1 ≤ id ∧ id ≤ n

lemma table_of_kin {a b : Backend} (h : Kin a b) (ha : ∃ d, a = .sql d) : ∃ d, b = .sql d := by
  obtain ⟨d, rfl⟩ := ha
  cases b with
  | sql d' => exact ⟨d', rfl⟩
  | memory m => exact h.elim
  | datastore c => exact h.elim

section Steps

variable {s s' : Store} {l tasks : List (ℤ × Task)} {n : ℕ} {id : ℤ} {t r : Task}

lemma Ledger.untouched (h : Ledger s l tasks n) (hu : Untouched s.backend s'.backend) : Ledger s' l tasks (n + 1) := by
  refine ⟨table_of_kin hu.kin h.table, hu.holds h.holds, h.saves, fun id hid => ?_⟩
  have := h.bounded id hid
  omega

lemma Ledger.assign (h : Ledger s l tasks n) {kept : Task} (hst : Holds s'.backend (assign id kept tasks))
    (hkin : Kin s.backend s'.backend) (hsave : Saves s.backend r kept) (hid : 1 ≤ id ∧ id ≤ (n + 1 : ℕ)) :
    Ledger s' (TaskBoard.Entries.assign id r l) (TaskBoard.Entries.assign id kept tasks) (n + 1) := by
  obtain ⟨d, hd⟩ := h.table
  rw [hd] at hsave
  refine ⟨table_of_kin hkin h.table, hst, matches_assign h.saves hsave, fun i hi => ?_⟩
  obtain ⟨value, hmem⟩ := exists_of_mem_keys hi
  rcases mem_assign hmem with heq | hmem
  · rwa [(Prod.mk.inj heq).1]
  · have := h.bounded i (mem_keys_of_mem hmem)
    omega

lemma Ledger.erase (h : Ledger s l tasks n) (hst : Holds s'.backend (erase id tasks))
    (hkin : Kin s.backend s'.backend) :
    Ledger s' (TaskBoard.Entries.erase id l) (TaskBoard.Entries.erase id tasks) (n + 1) := by
  refine ⟨table_of_kin hkin h.table, hst, matches_erase h.saves id, fun i hi => ?_⟩
  rw [keys_erase] at hi
  have := h.bounded i (List.mem_filter.mp hi).1
  omega

lemma add_id (h : Ledger s l tasks n) (hr : Store.add t s = .ok r s') :
    ∃ id, r.id = some id ∧ 1 ≤ id ∧ id ≤ (n + 1 : ℕ) := by
  obtain ⟨⟨d, hd⟩, hs, -, hb⟩ := h
  obtain ⟨b, journal⟩ := s
  cases hd
  have hrows := hs.stored.1
  obtain ⟨_, hadd, rfl, rfl⟩ := settle_ok.mp hr
  obtain ⟨kept, -, rfl⟩ := (InTable.add_eq_ok hrows).mp hadd
  refine ⟨_, rfl, ?_⟩
  rcases InTable.newId_cases (InTable.rowsOf tasks) with ⟨-, hone⟩ | ⟨i, hi, hnext⟩
  · omega
  · rw [InTable.keys_rowsOf] at hi
    have := hb i hi
    omega

lemma Ledger.step (h : Ledger s l tasks n) (op : Operation) :
    ∃ tasks', Ledger (op.perform s) (record op s l) tasks' (n + 1) := by
  cases op with
  | add t =>
    rw [Operation.perform, record]
    cases hr : Store.add t s with
    | error f s' => exact ⟨tasks, h.untouched (add_error hr)⟩
    | ok r s' =>
      obtain ⟨id, hid, hbound⟩ := add_id h hr
      obtain ⟨_, kept, rfl, -, hsave, hst, hkin⟩ := add_ok h.holds hr
      cases hid
      exact ⟨_, h.assign hst hkin hsave hbound⟩
  | modify id change =>
    rw [Operation.perform, record]
    cases hr : Store.modify id change s with
    | error f s' => exact ⟨tasks, h.untouched (modify_error hr)⟩
    | ok r s' =>
      obtain ⟨_, _, kept, hmem, -, rfl, hsave, hst, hkin⟩ := modify_ok h.holds hr
      have hbound := h.bounded id (mem_keys_of_mem hmem)
      exact ⟨_, h.assign hst hkin hsave ⟨hbound.1, by omega⟩⟩
  | remove id =>
    rw [Operation.perform, record]
    cases hr : Store.remove id s with
    | error f s' => exact ⟨tasks, h.untouched (remove_error hr)⟩
    | ok r s' =>
      obtain ⟨hst, hkin⟩ := remove_ok h.holds hr
      exact ⟨_, h.erase hst hkin⟩
  | get id =>
    rw [Operation.perform, record]
    cases hr : Store.get id s with
    | error f s' => exact ⟨tasks, h.untouched (get_error hr)⟩
    | ok r s' => exact ⟨tasks, h.untouched (get_ok h.holds hr).2⟩
  | list => exact ⟨tasks, h.untouched (list_untouched s)⟩
  | setFaults faults =>
    obtain ⟨d, hd⟩ := h.table
    have hsame : setFaults faults s = s := by rw [setFaults, hd]
    rw [Operation.perform, hsame]
    exact ⟨tasks, h.untouched (Untouched.refl _)⟩

lemma Ledger.run (h : Ledger s l tasks n) (operations : List Operation) :
    ∃ tasks', Ledger (Stores.run operations s) (acceptedFrom l operations s) tasks' (n + operations.length) := by
  induction operations generalizing s l tasks n with
  | nil => exact ⟨tasks, h⟩
  | cons op operations ih =>
    obtain ⟨tasks₁, h₁⟩ := h.step op
    obtain ⟨tasks₂, h₂⟩ := ih h₁
    refine ⟨tasks₂, ?_⟩
    rw [List.length_cons, ← Nat.add_assoc, Nat.add_right_comm]
    exact h₂

end Steps

section Reading

variable {s : Store} {l tasks : List (ℤ × Task)} {n : ℕ} {id : ℤ} {t r : Task}

lemma recent_iff (h : InTable.Saves t r) :
    Timed Recent t.created ↔ Timed (fun u => 1000 ≤ u.date.year) r.created := by
  obtain ⟨_, c, u, -, hc, hu, rfl⟩ := h
  have hutc := Stamp.toUtc_spec hu
  rw [hc, timed_time, timed_time]
  constructor
  · rintro ⟨v, hv, hy⟩
    rwa [Option.some.inj (hutc.symm.trans hv)]
  · intro hy
    exact ⟨u, hutc, hy⟩

lemma Ledger.of_found (h : Ledger s l tasks n) (hf : Found s id (some r)) :
    TaskId.inRange id = true ∧ Timed (fun u => 1000 ≤ u.date.year) r.created := by
  obtain ⟨⟨d, hd⟩, hs, -, -⟩ := h
  obtain ⟨b, journal⟩ := s
  cases hd
  have hlookup := hf.eq_lookup hs
  obtain ⟨s', hget, -⟩ := hf
  obtain ⟨hrows, hplain⟩ := hs.stored
  obtain ⟨found, hget, rfl, -⟩ := settle_ok.mp hget
  have hid : TaskId.inRange id = true := by
    obtain ⟨_, hsearch, -⟩ := bind_eq_ok.mp hget
    exact ((InTable.searchable_eq_ok hrows).mp (InTable.reported_eq_ok.mp hsearch)).1
  refine ⟨hid, ?_⟩
  rw [InTable.get_eq hrows hid, InTable.lookup_rowsOf, ← hlookup] at hget
  obtain ⟨r', hread, heq⟩ := map_eq_ok.mp hget
  cases heq
  obtain ⟨u, hread, hu⟩ := SortKeys.created_of_toTask hread
  rw [InTable.row, hu] at hread
  refine ⟨u, hu, ?_⟩
  by_contra! hy
  obtain ⟨text, herror⟩ := Stamp.decodeTime_of_lt hy
  exact absurd (hread.symm.trans herror) (by simp)

lemma Ledger.dated (h : Ledger s l tasks n) (hall : ∀ e ∈ l, TaskId.inRange e.1 = true ∧ Timed Recent e.2.created) :
    ∀ k ∈ tasks, Timed Dated k.2.created := by
  intro k hk
  obtain ⟨e, he, -, hsave⟩ := exists_accepted h.saves hk
  obtain ⟨u, hu, hy⟩ := (recent_iff hsave).mp (hall e he).2
  have hzero := hsave.plain.2
  rw [hu, timed_time] at hzero
  exact ⟨u, hu, hzero, hy⟩

lemma Ledger.steady (h : Ledger s l tasks n) (hall : ∀ e ∈ l, TaskId.inRange e.1 = true ∧ Timed Recent e.2.created) :
    Steady s tasks := by
  refine ⟨h.holds, ?_, fun k hk => ?_⟩
  · obtain ⟨d, hd⟩ := h.table
    rw [hd]
    trivial
  · obtain ⟨e, -, -, hsave⟩ := exists_accepted h.saves hk
    exact ⟨hsave.plain.1, (h.dated hall k hk).imp fun _ h => h.storable⟩

lemma Ledger.legible_iff (h : Ledger s l tasks n) :
    Legible s l ↔ ∀ e ∈ l, TaskId.inRange e.1 = true ∧ Timed Recent e.2.created := by
  constructor
  · intro hleg e he
    obtain ⟨r, hf, hsave⟩ := hleg.found e he
    obtain ⟨hid, hy⟩ := h.of_found hf
    exact ⟨hid, (recent_iff hsave).mpr hy⟩
  · intro hall
    have hsteady := h.steady hall
    have hfound {e k : ℤ × Task} (he : e ∈ l) (hk : k ∈ tasks) (hid : e.1 = k.1) : Found s e.1 (some k.2) :=
      hsteady.found_of_mem (hall e he).1 (hid ▸ hk)
    refine ⟨fun e he => ?_, ?_⟩
    · obtain ⟨k, hk, hid, hsave⟩ := exists_related h.saves he
      exact ⟨k.2, hfound he hk hid, hsave⟩
    · obtain ⟨s', hl⟩ := list_ok h.holds hsteady.calm (h.dated hall)
      refine ⟨_, s', hl, fun r => ?_, pairwise_values h.holds.nodup h.holds.named fun k hk => ?_⟩
      · rw [List.mem_mergeSort]
        constructor
        · intro hr
          obtain ⟨k, hk, rfl⟩ := List.mem_map.mp hr
          obtain ⟨e, he, hid, -⟩ := exists_accepted h.saves hk
          exact ⟨e, he, hfound he hk hid⟩
        · rintro ⟨e, he, hf⟩
          exact List.mem_map.mpr ⟨_, mem_of_lookup (hf.eq_lookup h.holds).symm, rfl⟩
      · exact (h.dated hall k hk).imp fun _ h => h.isAware

end Reading

lemma ledger_of_run (operations : List Operation) (journal : List Log.Record) : ∃ tasks,
    Ledger (run operations ⟨.sql {}, journal⟩) (accepted operations ⟨.sql {}, journal⟩) tasks operations.length := by
  have hempty : Ledger ⟨.sql {}, journal⟩ [] [] 0 := ⟨⟨{}, rfl⟩, Fresh.sql.holds, .nil, by simp⟩
  obtain ⟨tasks, h⟩ := hempty.run operations
  rw [Nat.zero_add] at h
  exact ⟨tasks, h⟩

/--
What an empty table has accepted after any operations can be read and is listed in order just if each task left in it
has a time of creation in the year 1000 or later, and an id that can be searched for. Ids are counted from 1, so one
out of range takes as many operations.
-/
theorem legible_run_iff (operations : List Operation) (journal : List Log.Record) :
    (∀ id ∈ keys (accepted operations ⟨.sql {}, journal⟩), 1 ≤ id ∧ id ≤ operations.length) ∧
      (Legible (run operations ⟨.sql {}, journal⟩) (accepted operations ⟨.sql {}, journal⟩) ↔
        ∀ e ∈ accepted operations ⟨.sql {}, journal⟩, TaskId.inRange e.1 = true ∧ Timed Recent e.2.created) := by
  obtain ⟨tasks, h⟩ := ledger_of_run operations journal
  refine ⟨fun id hid => h.bounded id ?_, h.legible_iff⟩
  rwa [← keys_of_matches h.saves]

def oldYear : Time.Timestamp := { Time.Timestamp.epoch with wall := 31525372799000000, wall_lt := by decide }

def oldDeed : Task := { description := .text "seal the deed", created := .time oldYear }

theorem not_always_legible : oldYear.toUtc? = some oldYear ∧
    accepted [.add oldDeed] ⟨.sql {}, []⟩ = [(1, { oldDeed with id := some 1 })] ∧
    ¬ Legible (run [.add oldDeed] ⟨.sql {}, []⟩) (accepted [.add oldDeed] ⟨.sql {}, []⟩) := by
  have haccepted : accepted [.add oldDeed] ⟨.sql {}, []⟩ = [(1, { oldDeed with id := some 1 })] := rfl
  refine ⟨rfl, haccepted, fun hleg => ?_⟩
  obtain ⟨tasks, h⟩ := ledger_of_run [.add oldDeed] []
  obtain ⟨-, hrecent⟩ := h.legible_iff.mp hleg _ (by rw [haccepted]; exact List.mem_cons_self)
  obtain ⟨u, hu, hy⟩ := timed_time.mp hrecent
  obtain rfl : oldYear = u := Option.some.inj hu
  exact absurd hy (by decide)

end TaskBoard.Proofs.Stores.Legibility
