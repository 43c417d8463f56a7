import TaskBoard.Proofs.Decimals
import TaskBoard.Proofs.Trimming
import TaskBoard.Task

/-!
Which texts name a task: numerals with an optional sign, of a number of 64 bits. Each text is read as the number that
it names, or refused for what it says or for how long it is.
-/

namespace TaskBoard.Proofs.Numerals

open TaskBoard.TaskId Number Decimals Trimming

inductive Numeral : List Char → ℤ → Prop
  | plain {ds : List Char} (hne : ds ≠ []) (hd : ∀ c ∈ ds, isDigit c = true) : Numeral ds (ofDigits ds)
  | plus {ds : List Char} (hne : ds ≠ []) (hd : ∀ c ∈ ds, isDigit c = true) : Numeral ('+' :: ds) (ofDigits ds)
  | minus {ds : List Char} (hne : ds ≠ []) (hd : ∀ c ∈ ds, isDigit c = true) : Numeral ('-' :: ds) (-ofDigits ds)

def digitsOf (s : List Char) : List Char := s.filter isDigit

lemma inRange_iff {n : ℤ} : inRange n = true ↔ least ≤ n ∧ n ≤ greatest := by
  rw [inRange, Bool.and_eq_true, decide_eq_true_eq, decide_eq_true_eq]

lemma length_digits_of_inRange {n : ℤ} (h : inRange n = true) : (digits n.natAbs).length ≤ digitLimit := by
  obtain ⟨hlo, hhi⟩ := inRange_iff.mp h
  rw [least] at hlo
  rw [greatest] at hhi
  exact (length_digits_le (by decide : 0 < 19) (by omega)).trans (by decide)

section Reading

variable {s : List Char} {n : ℤ}

lemma all_isDigit {ds : List Char} (hne : ds ≠ []) (hd : ∀ c ∈ ds, isDigit c = true) :
    (!ds.isEmpty && ds.all isDigit) = true := by
  rw [Bool.and_eq_true, List.all_eq_true]
  exact ⟨by simpa using hne, hd⟩

lemma numeral?_of_ne {c : Char} (hp : c ≠ '+') (hm : c ≠ '-') (ds : List Char) : TaskId.numeral? (c :: ds) =
    if !(c :: ds).isEmpty && (c :: ds).all isDigit then some ⟨false, c :: ds⟩ else none := by
  simp [TaskId.numeral?, hp, beq_eq_false_iff_ne.mpr hm]

lemma Numeral.numeral? (h : Numeral s n) : ∃ found, TaskId.numeral? s = some found ∧ found.value = n := by
  cases h with
  | plain hne hd =>
    obtain ⟨c, ds, rfl⟩ := List.exists_cons_of_ne_nil hne
    have hc := hd c List.mem_cons_self
    rw [numeral?_of_ne (ne_of_isDigit hc (by decide)) (ne_of_isDigit hc (by decide)), if_pos (all_isDigit hne hd)]
    exact ⟨_, rfl, rfl⟩
  | plus hne hd => exact ⟨_, if_pos (all_isDigit hne hd), rfl⟩
  | minus hne hd => exact ⟨_, if_pos (all_isDigit hne hd), rfl⟩

lemma digitsOf_digits {ds : List Char} (hd : ∀ c ∈ ds, isDigit c = true) : digitsOf ds = ds :=
  List.filter_eq_self.mpr hd

lemma digitsOf_sign {c : Char} {ds : List Char} (hc : isDigit c = false) (hd : ∀ c ∈ ds, isDigit c = true) :
    digitsOf (c :: ds) = ds := by
  rw [digitsOf, List.filter_cons_of_neg (by simp [hc])]
  exact digitsOf_digits hd

lemma numeral_of_numeral? {found : TaskId.Numeral} (h : TaskId.numeral? s = some found) :
    Numeral s found.value ∧ found.digits = digitsOf s := by
  have hall {ds : List Char} {negative : Bool}
      (h : (if !ds.isEmpty && ds.all isDigit then some (TaskId.Numeral.mk negative ds) else none) = some found) :
      found = ⟨negative, ds⟩ ∧ ds ≠ [] ∧ ∀ c ∈ ds, isDigit c = true := by
    split at h
    · rename_i hd
      rw [Bool.and_eq_true, List.all_eq_true] at hd
      exact ⟨(Option.some.inj h).symm, by simpa using hd.1, hd.2⟩
    · cases h
  rcases s with _ | ⟨c, ds⟩
  · cases h
  by_cases hp : c = '+'
  · subst hp
    obtain ⟨rfl, hne, hd⟩ := hall h
    exact ⟨.plus hne hd, (digitsOf_sign (by decide) hd).symm⟩
  by_cases hm : c = '-'
  · subst hm
    obtain ⟨rfl, hne, hd⟩ := hall h
    exact ⟨.minus hne hd, (digitsOf_sign (by decide) hd).symm⟩
  · rw [numeral?_of_ne hp hm] at h
    obtain ⟨rfl, hne, hd⟩ := hall h
    exact ⟨.plain hne hd, (digitsOf_digits hd).symm⟩

lemma Numeral.unique {m : ℤ} (h : Numeral s n) (h' : Numeral s m) : n = m := by
  obtain ⟨found, hf, rfl⟩ := h.numeral?
  obtain ⟨found', hf', rfl⟩ := h'.numeral?
  rw [hf] at hf'
  cases hf'
  rfl

end Reading

section Parsing

variable {raw : String} {n m : ℤ}

lemma parse_of_numeral (h : Numeral (Text.trim raw.toList) n) : parse raw =
    if digitLimit < (digitsOf (Text.trim raw.toList)).length then
      .error (tooLong (digitsOf (Text.trim raw.toList)).length)
    else if inRange n then .ok n
    else .error (.invalidTask "id" (String.ofList (Text.trim raw.toList) ++ " is out of int64 range")) := by
  obtain ⟨found, hf, rfl⟩ := h.numeral?
  simp only [parse, hf, (numeral_of_numeral? hf).2]

lemma parse_of_not_numeral (h : ∀ n, ¬ Numeral (Text.trim raw.toList) n) : parse raw =
    .error (.invalidTask "id" (String.ofList (Text.quotedChars (Text.trim raw.toList)) ++ " is not an integer")) := by
  cases hf : TaskId.numeral? (Text.trim raw.toList) with
  | none => simp only [parse, hf]
  | some found => exact absurd (numeral_of_numeral? hf).1 (h _)

/-- A text names a task if, between white space, it is a numeral of a number in range. -/
def Names (raw : String) (n : ℤ) : Prop := Numeral (Text.trim raw.toList) n ∧ inRange n = true

lemma Names.unique (h : Names raw n) (h' : Names raw m) : n = m := h.1.unique h'.1

section Short

variable (hl : (Text.trim raw.toList).length ≤ digitLimit)

include hl

lemma short_digitsOf : ¬ digitLimit < (digitsOf (Text.trim raw.toList)).length :=
  Nat.not_lt.mpr ((List.length_filter_le ..).trans hl)

theorem parse_of_names (h : Names raw n) : parse raw = .ok n := by
  rw [parse_of_numeral h.1, if_neg (short_digitsOf hl), if_pos h.2]

theorem parse_of_not_names (h : ∀ n, ¬ Names raw n) : ∃ text, parse raw = .error (.invalidTask "id" text) := by
  by_cases hn : ∃ n, Numeral (Text.trim raw.toList) n
  · obtain ⟨n, hn⟩ := hn
    have hrange : ¬ inRange n = true := fun hr => h n ⟨hn, hr⟩
    rw [parse_of_numeral hn, if_neg (short_digitsOf hl), if_neg hrange]
    exact ⟨_, rfl⟩
  · exact ⟨_, parse_of_not_numeral fun n h => hn ⟨n, h⟩⟩

end Short

end Parsing

section Literals

variable {s : List Char} {n : ℤ}

def Literal (s : List Char) (n : ℤ) : Prop :=
  Numeral s n ∧ (digitsOf s).length ≤ 4300 ∧ -2 ^ 63 ≤ n ∧ n ≤ 2 ^ 63 - 1

def Overlong (s : List Char) : Prop := (∃ n, Numeral s n) ∧ 4300 < (digitsOf s).length

lemma numeral_toString (n : ℤ) : Numeral (toString n).toList n := by
  rw [← integerText_eq_toString, integerText, String.toList_ofList]
  cases n with
  | ofNat k =>
    have h := Numeral.plain Nat.toDigits_ne_nil fun _ => isDigit_of_mem_digits (n := k)
    rwa [show ofDigits (Nat.toDigits 10 k) = k from ofDigits_digits k] at h
  | negSucc k =>
    have h := Numeral.minus Nat.toDigits_ne_nil fun _ => isDigit_of_mem_digits (n := k + 1)
    rwa [show ofDigits (Nat.toDigits 10 (k + 1)) = k + 1 from ofDigits_digits (k + 1)] at h

lemma isBlank_of_isDigit {c : Char} (h : isDigit c = true) : Text.isBlank c = false := by
  simp only [isDigit, Bool.and_eq_true, decide_eq_true_eq, Char.le_def, UInt32.le_iff_toNat_le] at h
  have hlo : 0x30 ≤ c.toNat := h.1
  have hhi : c.toNat ≤ 0x39 := h.2
  simp [Text.isBlank]
  omega

lemma Numeral.not_isBlank (h : Numeral s n) {c : Char} (hc : c ∈ s) : Text.isBlank c = false := by
  cases h with
  | plain _ hd => exact isBlank_of_isDigit (hd c hc)
  | plus _ hd =>
    rcases List.mem_cons.mp hc with rfl | hc
    · decide
    · exact isBlank_of_isDigit (hd c hc)
  | minus _ hd =>
    rcases List.mem_cons.mp hc with rfl | hc
    · decide
    · exact isBlank_of_isDigit (hd c hc)

lemma Numeral.solid (h : Numeral s n) : Solid s :=
  ⟨fun _ hc => h.not_isBlank (List.mem_of_mem_head? hc), fun _ hc => h.not_isBlank (List.mem_of_mem_getLast? hc)⟩

lemma Numeral.trim_eq (h : Numeral s n) : Text.trim s = s :=
  (leaves_iff.mp ⟨[], [], by simp, by simp [Blank], by simp [Blank], h.solid⟩).symm

lemma digitsOf_toString (n : ℤ) : digitsOf (toString n).toList = digits n.natAbs := by
  rw [← integerText_eq_toString, integerText, String.toList_ofList]
  cases n with
  | ofNat k => exact digitsOf_digits fun _ => isDigit_of_mem_digits
  | negSucc k => exact digitsOf_sign (by decide) fun _ => isDigit_of_mem_digits

lemma literal_toString (hn : -2 ^ 63 ≤ n ∧ n ≤ 2 ^ 63 - 1) : Literal (toString n).toList n := by
  refine ⟨numeral_toString n, ?_, hn⟩
  rw [digitsOf_toString]
  exact length_digits_of_inRange (inRange_iff.mpr hn)

variable {raw : String}

lemma parse_of_literal (h : Literal (Text.trim raw.toList) n) : parse raw = .ok n := by
  obtain ⟨hn, hd, hr⟩ := h
  have hd : ¬ digitLimit < (digitsOf (Text.trim raw.toList)).length := Nat.not_lt.mpr hd
  rw [parse_of_numeral hn, if_neg hd, if_pos (inRange_iff.mpr hr)]

lemma parse_eq_tooLong (h : Overlong (Text.trim raw.toList)) :
    parse raw = .error (tooLong (digitsOf (Text.trim raw.toList)).length) := by
  obtain ⟨⟨n, hn⟩, hd⟩ := h
  have hd : digitLimit < (digitsOf (Text.trim raw.toList)).length := hd
  rw [parse_of_numeral hn, if_pos hd]

lemma parse_of_overlong (h : Overlong (Text.trim raw.toList)) : ∃ text, parse raw = .error (.value text) :=
  ⟨_, parse_eq_tooLong h⟩

lemma overlong_of_digits (hd : ∀ c ∈ s, isDigit c = true) (hl : digitLimit < s.length) : Overlong s := by
  have hne : s ≠ [] := by
    rintro rfl
    exact absurd hl (by decide)
  refine ⟨⟨_, .plain hne hd⟩, ?_⟩
  rwa [digitsOf_digits hd]

lemma Literal.not_overlong (h : Literal s n) : ¬ Overlong s := fun ho => absurd ho.2 (Nat.not_lt.mpr h.2.1)

lemma parse_of_neither (hl : ∀ n, ¬ Literal (Text.trim raw.toList) n) (ho : ¬ Overlong (Text.trim raw.toList)) :
    ∃ text, parse raw = .error (.invalidTask "id" text) := by
  by_cases hn : ∃ n, Numeral (Text.trim raw.toList) n
  · obtain ⟨n, hn⟩ := hn
    have hd : ¬ digitLimit < (digitsOf (Text.trim raw.toList)).length := fun hd => ho ⟨⟨n, hn⟩, hd⟩
    have hr : ¬ inRange n = true := fun hr => hl n ⟨hn, Nat.not_lt.mp hd, inRange_iff.mp hr⟩
    rw [parse_of_numeral hn, if_neg hd, if_neg hr]
    exact ⟨_, rfl⟩
  · exact ⟨_, parse_of_not_numeral fun n h => hn ⟨n, h⟩⟩

inductive Reading (raw : String) : Prop
  | literal {n : ℤ} (hn : Literal (Text.trim raw.toList) n) (hp : parse raw = .ok n)
  | overlong (ho : Overlong (Text.trim raw.toList))
      (hp : parse raw = .error (tooLong (digitsOf (Text.trim raw.toList)).length))
  | refused {text : String} (ho : ¬ Overlong (Text.trim raw.toList)) (hp : parse raw = .error (.invalidTask "id" text))

lemma reading (raw : String) : Reading raw := by
  by_cases ho : Overlong (Text.trim raw.toList)
  · exact .overlong ho (parse_eq_tooLong ho)
  by_cases hl : ∃ n, Literal (Text.trim raw.toList) n
  · obtain ⟨n, hn⟩ := hl
    exact .literal hn (parse_of_literal hn)
  · obtain ⟨text, hp⟩ := parse_of_neither (fun n hn => hl ⟨n, hn⟩) ho
    exact .refused ho hp

lemma parse_eq_ok_iff : parse raw = .ok n ↔ Literal (Text.trim raw.toList) n := by
  refine ⟨fun h => ?_, parse_of_literal⟩
  by_contra hn
  by_cases hl : ∃ m, Literal (Text.trim raw.toList) m
  · obtain ⟨m, hm⟩ := hl
    cases h.symm.trans (parse_of_literal hm)
    exact hn hm
  · by_cases ho : Overlong (Text.trim raw.toList)
    · obtain ⟨text, ht⟩ := parse_of_overlong ho
      cases h.symm.trans ht
    · obtain ⟨text, ht⟩ := parse_of_neither (fun m hm => hl ⟨m, hm⟩) ho
      cases h.symm.trans ht

/--
A text is read as a number just if a literal of that number is left between white space. Anything else is refused: a
numeral that is too long as a bad value, and all other texts as no id. So the decimal form of a number in range reads
as that number, also with white space around it.
-/
theorem parse_decided :
    (∀ raw : String, ∃! s, Leaves raw.toList s) ∧
      (∀ (raw : String) (s : List Char), Leaves raw.toList s →
        (∀ n, parse raw = .ok n ↔ Literal s n) ∧ (Overlong s → ∃ text, parse raw = .error (.value text)) ∧
          ((∀ n, ¬ Literal s n) → ¬ Overlong s → ∃ text, parse raw = .error (.invalidTask "id" text))) ∧
      (∀ (n : ℤ) (before after : String), -2 ^ 63 ≤ n → n ≤ 2 ^ 63 - 1 → Blank before.toList → Blank after.toList →
        parse (before ++ toString n ++ after) = .ok n) ∧
      ∀ (raw : String) (n : ℤ), parse raw = .ok n → parse (toString n) = .ok n := by
  refine ⟨fun raw => ⟨_, leaves_iff.mpr rfl, fun s hs => leaves_iff.mp hs⟩, ?_, ?_, ?_⟩
  · intro raw s hs
    rw [leaves_iff.mp hs]
    exact ⟨fun n => parse_eq_ok_iff, parse_of_overlong, parse_of_neither⟩
  · intro n before after hlo hhi hb ha
    apply parse_of_literal
    rw [String.toList_append, String.toList_append, trim_of_solid hb ha (numeral_toString n).solid]
    exact literal_toString ⟨hlo, hhi⟩
  · intro raw n h
    have hliteral := literal_toString (parse_eq_ok_iff.mp h).2.2
    have hkeep : Text.trim (toString n).toList = (toString n).toList :=
      (leaves_iff.mp ⟨[], [], by simp, by simp [Blank], by simp [Blank], (numeral_toString n).solid⟩).symm
    exact parse_of_literal (by rwa [hkeep])

theorem parse_decided_padded :
    Leaves "\u2003-007\u001f".toList "-007".toList ∧ parse "\u2003-007\u001f" = .ok (-7) := by
  have hs : Leaves "\u2003-007\u001f".toList "-007".toList :=
    ⟨['\u2003'], ['\u001f'], rfl, by decide, by decide, by rintro c ⟨⟩; rfl, by rintro c ⟨⟩; rfl⟩
  have hn : Numeral "-007".toList (-7) := @Numeral.minus ['0', '0', '7'] (by decide) (List.all_eq_true.mp rfl)
  exact ⟨hs, ((parse_decided.2.1 _ _ hs).1 (-7)).mpr ⟨hn, by decide, by decide, by decide⟩⟩

end Literals

end TaskBoard.Proofs.Numerals
