import TaskBoard.Proofs.Json.Reading

namespace TaskBoard.Proofs.Json

open TaskBoard.Json TaskBoard.Number Decimals Outcome

def Crowded (s : List Char) : Prop :=
  ∃ before ds after, s = before ++ ds ++ after ∧ digitLimit < ds.length ∧ ∀ c ∈ ds, isDigit c = true

/-- Reading stops at a whole number of too many digits. -/
def Overlong (s : List Char) : Prop := ∃ count left, readChars s = .error ⟨.tooManyDigits count, left⟩

def Accounts {α : Type} (s : List Char) (outcome : Except Flaw (α × List Char)) : Prop :=
  (∀ a rest, outcome = .ok (a, rest) → rest <:+ s) ∧
    ∀ count left, outcome = .error ⟨.tooManyDigits count, left⟩ → Crowded s

section Accounting

variable {α β : Type} {s t rest : List Char}

lemma Crowded.of_suffix (h : Crowded t) (hs : t <:+ s) : Crowded s := by
  obtain ⟨front, rfl⟩ := hs
  obtain ⟨before, ds, after, rfl, hds⟩ := h
  exact ⟨front ++ before, ds, after, by simp, hds⟩

lemma Accounts.of_suffix {outcome : Except Flaw (α × List Char)} (h : Accounts t outcome) (hs : t <:+ s) :
    Accounts s outcome :=
  ⟨fun a rest hok => (h.1 a rest hok).trans hs, fun count left herr => (h.2 count left herr).of_suffix hs⟩

lemma accounts_ok {a : α} (h : rest <:+ s) : Accounts s (.ok (a, rest)) := by
  constructor
  · rintro _ _ ⟨⟩
    exact h
  · rintro _ _ ⟨⟩

lemma accounts_flaw {fault : Fault} (h : ∀ count, fault ≠ .tooManyDigits count) (rest : List Char) :
    Accounts s (flawAt fault rest : Except Flaw (α × List Char)) := by
  constructor
  · rintro _ _ ⟨⟩
  · rintro count _ herr
    cases herr
    exact absurd rfl (h count)

lemma Accounts.bind {outcome : Except Flaw (α × List Char)} {next : α × List Char → Except Flaw (β × List Char)}
    (h : Accounts s outcome) (hnext : ∀ a rest, Accounts rest (next (a, rest))) : Accounts s (outcome >>= next) := by
  constructor
  · intro b left hok
    obtain ⟨⟨a, rest⟩, ha, hb⟩ := bind_eq_ok.mp hok
    exact ((hnext a rest).1 b left hb).trans (h.1 a rest ha)
  · intro count left herr
    rcases bind_eq_error.mp herr with herr | ⟨⟨a, rest⟩, ha, hb⟩
    · exact h.2 count left herr
    · exact ((hnext a rest).2 count left hb).of_suffix (h.1 a rest ha)

lemma skipSpace_suffix (s : List Char) : skipSpace s <:+ s := List.dropWhile_suffix isSpace

end Accounting

section Texts

lemma accounts_scanText (start : List Char) (state : TextState) (s : List Char) :
    Accounts s (scanText start state s) := by
  induction s generalizing state with
  | nil => cases state <;> exact accounts_flaw (by simp) _
  | cons c rest ih =>
    have hrest (state : TextState) : Accounts (c :: rest) (scanText start state rest) :=
      (ih state).of_suffix (List.suffix_cons c rest)
    have hnext (piece : Piece) : Accounts (c :: rest) (scanText start .plain rest >>= fun p =>
        pure (piece :: p.1, p.2)) := (hrest .plain).bind fun _ _ => accounts_ok List.suffix_rfl
    cases state with
    | plain =>
      rw [scanText]
      split_ifs
      · exact accounts_ok (List.suffix_cons c rest)
      · exact hrest _
      · exact accounts_flaw (by simp) _
      · exact hnext _
    | escape mark =>
      rw [scanText]
      split_ifs
      · exact hrest _
      · split
        · exact hnext _
        · exact accounts_flaw (by simp) _
    | digits mark count unit =>
      rw [scanText]
      split
      · exact accounts_flaw (by simp) _
      · split_ifs
        · exact hrest _
        · exact accounts_flaw (by simp) _
        · exact hnext _

lemma accounts_readText (rest : List Char) : Accounts rest (readText rest) :=
  (accounts_scanText _ _ rest).bind fun _ _ => accounts_ok List.suffix_rfl

end Texts

section Numbers

lemma wholeDigits_prefix (s : List Char) : wholeDigits s <+: s := by
  unfold wholeDigits
  split
  · exact List.prefix_append ['0'] _
  · exact List.takeWhile_prefix isDigit

lemma isDigit_of_mem_wholeDigits {s : List Char} {c : Char} (h : c ∈ wholeDigits s) : isDigit c = true := by
  unfold wholeDigits at h
  split at h
  · rw [List.mem_singleton.mp h]
    decide
  · exact List.mem_takeWhile_imp h

lemma exponent?_suffix {s ds rest : List Char} {down : Bool} (h : exponent? s = some (down, ds, rest)) :
    rest <:+ s := by
  cases s with
  | nil => cases h
  | cons e s =>
    simp only [exponent?] at h
    split_ifs at h with he hs hd hd
    · cases h
      exact (List.dropWhile_suffix isDigit).trans ((List.tail_suffix s).trans (List.suffix_cons e s))
    · cases h
      exact (List.dropWhile_suffix isDigit).trans (List.suffix_cons e s)

lemma crowded_of_wholeDigits {s t : List Char} (hs : t <:+ s) (h : digitLimit < (wholeDigits t).length) :
    Crowded s := by
  obtain ⟨after, ht⟩ := wholeDigits_prefix t
  have hcrowded : Crowded t := ⟨[], wholeDigits t, after, ht.symm, h, fun c => isDigit_of_mem_wholeDigits⟩
  exact hcrowded.of_suffix hs

lemma accounts_readNumber (s : List Char) : Accounts s (readNumber s) := by
  simp only [readNumber]
  -- The parts of the number are the ends of the input behind its sign, its whole part and its fraction.
  have ht : (if (s.head? == some '-') = true then s.tail else s) <:+ s := by
    split_ifs
    · exact List.tail_suffix s
    · exact List.suffix_rfl
  generalize (if (s.head? == some '-') = true then s.tail else s) = t at ht ⊢
  have hw : t.drop (wholeDigits t).length <:+ s := (List.drop_suffix _ t).trans ht
  generalize t.drop (wholeDigits t).length = w at hw ⊢
  have hu : (if (fractionDigits w).isEmpty = true then w else w.drop ((fractionDigits w).length + 1)) <:+ s := by
    split_ifs
    · exact hw
    · exact (List.drop_suffix _ w).trans hw
  generalize (if (fractionDigits w).isEmpty = true then w else w.drop ((fractionDigits w).length + 1)) = u at hu ⊢
  by_cases hwhole : (wholeDigits t).isEmpty = true
  · rw [if_pos hwhole]
    exact accounts_flaw (by simp) s
  · rw [if_neg hwhole]
    split
    · rename_i down ds rest hexp
      exact accounts_ok ((exponent?_suffix hexp).trans hu)
    · split_ifs with hfraction hlong hminus
      · exact accounts_ok hu
      · refine ⟨by simp, fun count left _ => crowded_of_wholeDigits ht hlong⟩
      · exact accounts_ok hw
      · exact accounts_ok hw

end Numbers

section Values

lemma accounts_readWordOrNumber (s : List Char) : Accounts s (readWordOrNumber s) := by
  rw [readWordOrNumber]
  split
  · exact accounts_ok (List.drop_suffix _ s)
  · exact accounts_readNumber s

lemma suffix_of_skipSpace {s left : List Char} {c : Char} (h : skipSpace s = c :: left) : left <:+ s :=
  ((List.suffix_cons c left).trans (h ▸ List.suffix_rfl)).trans (skipSpace_suffix s)

section Steps

variable {fuel : ℕ} (hitems : ∀ s, Accounts s (readItems fuel s)) (hmembers : ∀ s, Accounts s (readMembers fuel s))

include hitems hmembers in
lemma accounts_readValue_succ (s : List Char) : Accounts s (readValue (fuel + 1) s) := by
  unfold readValue
  split
  · rename_i rest
    apply Accounts.of_suffix (t := rest) ?_ (List.suffix_cons _ rest)
    exact (accounts_readText rest).bind fun _ _ => accounts_ok List.suffix_rfl
  · rename_i rest
    apply Accounts.of_suffix (t := rest) ?_ (List.suffix_cons _ rest)
    split
    · rename_i left hskip
      exact accounts_ok (suffix_of_skipSpace hskip)
    · apply Accounts.of_suffix ?_ (skipSpace_suffix rest)
      exact (hitems _).bind fun _ _ => accounts_ok List.suffix_rfl
  · rename_i rest
    apply Accounts.of_suffix (t := rest) ?_ (List.suffix_cons _ rest)
    split
    · rename_i left hskip
      exact accounts_ok (suffix_of_skipSpace hskip)
    · apply Accounts.of_suffix ?_ (skipSpace_suffix rest)
      exact (hmembers _).bind fun _ _ => accounts_ok List.suffix_rfl
  · exact accounts_readWordOrNumber s

variable (hvalue : ∀ s, Accounts s (readValue fuel s))

include hitems hvalue in
lemma accounts_readItems_succ (s : List Char) : Accounts s (readItems (fuel + 1) s) := by
  rw [readItems]
  refine (hvalue s).bind fun item rest => ?_
  dsimp only
  split
  · rename_i left hskip
    exact accounts_ok (suffix_of_skipSpace hskip)
  · rename_i later hskip
    apply Accounts.of_suffix ?_ ((skipSpace_suffix later).trans (suffix_of_skipSpace hskip))
    exact (hitems _).bind fun _ _ => accounts_ok List.suffix_rfl
  · exact accounts_flaw (by simp) _

include hmembers hvalue in
lemma accounts_readMembers_succ (s : List Char) : Accounts s (readMembers (fuel + 1) s) := by
  unfold readMembers
  split
  · rename_i inner
    apply Accounts.of_suffix (t := inner) ?_ (List.suffix_cons _ inner)
    refine (accounts_readText inner).bind fun key rest => ?_
    dsimp only
    split
    · rename_i after hkey
      apply Accounts.of_suffix ?_ ((skipSpace_suffix after).trans (suffix_of_skipSpace hkey))
      refine (hvalue _).bind fun item rest => ?_
      dsimp only
      split
      · rename_i left hskip
        exact accounts_ok (suffix_of_skipSpace hskip)
      · rename_i later hskip
        apply Accounts.of_suffix ?_ ((skipSpace_suffix later).trans (suffix_of_skipSpace hskip))
        exact (hmembers _).bind fun _ _ => accounts_ok List.suffix_rfl
      · exact accounts_flaw (by simp) _
    · exact accounts_flaw (by simp) _
  · exact accounts_flaw (by simp) _

end Steps

lemma accounts_read (fuel : ℕ) : (∀ s, Accounts s (readValue fuel s)) ∧ (∀ s, Accounts s (readItems fuel s)) ∧
    ∀ s, Accounts s (readMembers fuel s) := by
  -- The three readers call each other, each time with less fuel.
  induction fuel with
  | zero =>
    refine ⟨fun s => ?_, fun s => ?_, fun s => ?_⟩
    · rw [readValue]
      exact accounts_flaw (by simp) s
    · rw [readItems]
      exact accounts_flaw (by simp) s
    · rw [readMembers]
      exact accounts_flaw (by simp) s
  | succ fuel ih =>
    obtain ⟨hvalue, hitems, hmembers⟩ := ih
    exact ⟨accounts_readValue_succ hitems hmembers, accounts_readItems_succ hitems hvalue,
      accounts_readMembers_succ hmembers hvalue⟩

theorem crowded_of_overlong {s : List Char} (h : Overlong s) : Crowded s := by
  obtain ⟨count, left, h⟩ := h
  rw [readChars] at h
  split at h
  · cases h
  · rcases bind_eq_error.mp h with h | ⟨⟨v, rest⟩, -, h⟩
    · exact (((accounts_read _).1 _).2 count left h).of_suffix (skipSpace_suffix s)
    · dsimp only at h
      split at h <;> cases h

lemma overlong_replicate {n : ℕ} (h : digitLimit < n) : Overlong (List.replicate n '1') := by
  obtain ⟨k, rfl⟩ := Nat.exists_eq_add_one.mpr (Nat.zero_lt_of_lt h)
  have hs : List.replicate (k + 1) '1' = '1' :: List.replicate k '1' := List.replicate_succ
  have hbegins : Begins (List.replicate (k + 1) '1') := ⟨'1', _, hs, Or.inl (by decide)⟩
  have hwhole : wholeDigits (List.replicate (k + 1) '1') = List.replicate (k + 1) '1' := by
    rw [hs, wholeDigits_of_ne (by decide), ← hs, List.takeWhile_replicate, if_pos (by decide)]
  have hnumber : readNumber (List.replicate (k + 1) '1') =
      .error ⟨.tooManyDigits (k + 1), (List.replicate (k + 1) '1').length⟩ := by
    have hhead : ((List.replicate (k + 1) '1').head? == some '-') = false := by rw [hs]; rfl
    simp [readNumber, hhead, hwhole, fractionDigits_closed closed_nil, exponent?_closed closed_nil, h]
  have hvalue := readValue_begins hbegins (2 * (List.replicate (k + 1) '1').length + 1) []
  rw [List.append_nil, readWordOrNumber, hs, (no_word_of_digit (by decide) _).1, ← hs, hnumber] at hvalue
  refine ⟨k + 1, (List.replicate (k + 1) '1').length, ?_⟩
  rw [readChars, hs, if_neg (by simp), ← hs, readDocument, skipSpace_self hbegins.opens]
  exact bind_eq_error.mpr (Or.inl hvalue)

end Values

end TaskBoard.Proofs.Json
