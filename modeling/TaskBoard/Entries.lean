namespace TaskBoard.Entries

variable {κ α : Type} [BEq κ]

def assign (key : κ) (value : α) : List (κ × α) → List (κ × α)
  | [] => [(key, value)]
  | e :: rest => if e.1 == key then (key, value) :: rest else e :: assign key value rest

def erase (key : κ) (entries : List (κ × α)) : List (κ × α) := entries.filter fun e => !(e.1 == key)

def hasKey (key : κ) (entries : List (κ × α)) : Bool := entries.any fun e => e.1 == key

def values (entries : List (κ × α)) : List α := entries.map Prod.snd

/-- All entries in turn: a repeated key keeps its first place and its last value. -/
def assignAll (entries : List (κ × α)) : List (κ × α) := entries.foldl (fun found e => assign e.1 e.2 found) []

variable [LawfulBEq κ]

theorem lookup_assign_self (key : κ) (value : α) (entries : List (κ × α)) :
    (assign key value entries).lookup key = some value := by
  induction entries with
  | nil => simp [assign]
  | cons e rest ih =>
    obtain ⟨k, v⟩ := e
    by_cases h : k = key
    · simp [assign, h]
    · simp [assign, h, List.lookup_cons, beq_eq_false_iff_ne.2 (Ne.symm h), ih]

theorem lookup_assign_of_ne {key other : κ} (h : other ≠ key) (value : α) (entries : List (κ × α)) :
    (assign key value entries).lookup other = entries.lookup other := by
  induction entries with
  | nil => simpa [assign] using h
  | cons e rest ih =>
    obtain ⟨k, v⟩ := e
    by_cases hk : k = key
    · simp [assign, hk, List.lookup_cons, beq_eq_false_iff_ne.2 h]
    · simp [assign, hk, List.lookup_cons, ih]

theorem erase_cons (key : κ) (e : κ × α) (rest : List (κ × α)) :
    erase key (e :: rest) = if e.1 == key then erase key rest else e :: erase key rest := by
  by_cases h : e.1 = key <;> simp [erase, h]

theorem lookup_erase_self (key : κ) (entries : List (κ × α)) : (erase key entries).lookup key = none := by
  induction entries with
  | nil => rfl
  | cons e rest ih =>
    obtain ⟨k, v⟩ := e
    by_cases h : k = key
    · simp [erase_cons, h, ih]
    · simp [erase_cons, h, List.lookup_cons, beq_eq_false_iff_ne.2 (Ne.symm h), ih]

theorem lookup_erase_of_ne {key other : κ} (h : other ≠ key) (entries : List (κ × α)) :
    (erase key entries).lookup other = entries.lookup other := by
  induction entries with
  | nil => rfl
  | cons e rest ih =>
    obtain ⟨k, v⟩ := e
    by_cases hk : k = key
    · simp [erase_cons, hk, List.lookup_cons, ih, beq_eq_false_iff_ne.2 h]
    · simp [erase_cons, hk, List.lookup_cons, ih]

end TaskBoard.Entries
