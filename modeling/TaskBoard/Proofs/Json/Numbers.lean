import TaskBoard.Json.Reader
import TaskBoard.Json.Writer
import TaskBoard.Proofs.Decimals

namespace TaskBoard.Proofs.Json

open TaskBoard.Json TaskBoard.Number Decimals

def Closed (rest : List Char) : Prop := ∀ c ∈ rest.head?, isDigit c = false ∧ c ≠ '.' ∧ c ≠ 'e' ∧ c ≠ 'E'

lemma closed_nil : Closed [] := fun _ h => nomatch h

lemma closed_cons {c : Char} (h : c ∈ [',', ']', '\x7d']) (rest : List Char) : Closed (c :: rest) := by
  intro c' hc'
  obtain rfl : c = c' := by simpa using hc'
  fin_cases h <;> decide

section Digits

lemma digits_ne_nil (n : ℕ) : digits n ≠ [] := Nat.toDigits_ne_nil

lemma exists_digits (n : ℕ) : ∃ d ds, digits n = d :: ds ∧ isDigit d = true := by
  obtain ⟨d, ds, h⟩ := List.exists_cons_of_ne_nil (digits_ne_nil n)
  exact ⟨d, ds, h, isDigit_of_mem_digits (h ▸ List.mem_cons_self)⟩

lemma head?_digits {n : ℕ} (h : 0 < n) : (digits n).head? ≠ some '0' := by
  induction n using Nat.strong_induction_on with
  | _ n ih =>
    rcases Nat.lt_or_ge n 10 with hn | hn
    · rw [digits, Nat.toDigits_of_lt_base hn]
      interval_cases n <;> decide
    · rw [digits, Nat.toDigits_of_base_le (by decide) hn, List.head?_append_of_ne_nil _ Nat.toDigits_ne_nil]
      exact ih (n / 10) (by omega) (by omega)

lemma wholeDigits_of_ne {d : Char} (hd : d ≠ '0') (s : List Char) :
    wholeDigits (d :: s) = (d :: s).takeWhile isDigit := by
  rw [wholeDigits]
  exact fun _ h => hd (List.cons.inj h).1

lemma wholeDigits_digits {rest : List Char} (n : ℕ) (hr : Closed rest) : wholeDigits (digits n ++ rest) = digits n := by
  rcases Nat.eq_zero_or_pos n with rfl | hn
  · rfl
  · have hall := takeWhile_isDigit (fun _ => isDigit_of_mem_digits (n := n)) fun c h => (hr c h).1
    obtain ⟨d, ds, h, -⟩ := exists_digits n
    have hd : d ≠ '0' := by
      rintro rfl
      exact head?_digits hn (by rw [h]; rfl)
    rw [h, List.cons_append] at hall ⊢
    rw [wholeDigits_of_ne hd, hall]

end Digits

section Reading

variable {rest : List Char}

lemma fractionDigits_closed (hr : Closed rest) : fractionDigits rest = [] := by
  cases rest with
  | nil => rfl
  | cons c rest =>
    rw [fractionDigits]
    exact fun _ h => (hr c rfl).2.1 (List.cons.inj h).1

lemma exponent?_closed (hr : Closed rest) : exponent? rest = none := by
  cases rest with
  | nil => rfl
  | cons c rest =>
    have hc := (hr c rfl).2.2
    simp [exponent?, hc.1, hc.2]

lemma readNumber_digits (negative : Bool) {s : List Char} {n : ℕ} (hs : (s.head? == some '-') = negative)
    (hu : (if negative then s.tail else s) = digits n ++ rest) (hn : (digits n).length ≤ digitLimit)
    (hr : Closed rest) : readNumber s = .ok (.int (if negative then -(n : ℤ) else n), rest) := by
  have hne : (digits n).isEmpty = false := List.isEmpty_eq_false_iff.mpr (digits_ne_nil n)
  simp only [readNumber, hs, hu, wholeDigits_digits n hr, hne, List.drop_left, fractionDigits_closed hr,
    List.isEmpty_nil, exponent?_closed hr, Nat.not_lt.mpr hn, ofDigits_digits, Bool.not_true, Bool.false_eq_true,
    if_true, if_false]

lemma isDigit_of_head?_digits {n : ℕ} {c : Char} (h : (digits n ++ rest).head? = some c) : isDigit c = true := by
  obtain ⟨d, ds, hds, hd⟩ := exists_digits n
  rw [hds] at h
  cases h
  exact hd

lemma readNumber_signed {n : ℤ} (hn : (digits n.natAbs).length ≤ digitLimit) (hr : Closed rest) :
    readNumber (signed n ++ rest) = .ok (.int n, rest) := by
  cases n with
  | ofNat n =>
    have hs : ((digits n ++ rest).head? == some '-') = false :=
      beq_eq_false_iff_ne.mpr fun h => absurd (isDigit_of_head?_digits h) (by decide)
    exact readNumber_digits false hs rfl hn hr
  | negSucc n => exact readNumber_digits true rfl rfl hn hr

lemma no_word_of_digit {d : Char} (hd : isDigit d = true) (s : List Char) :
    (words.find? fun w => w.1.isPrefixOf (d :: s)) = none ∧
      (words.find? fun w => w.1.isPrefixOf ('-' :: d :: s)) = none := by
  have hne {c : Char} (hc : isDigit c = false) : c ≠ d := (ne_of_isDigit hd hc).symm
  constructor <;>
    simp [words, List.isPrefixOf, hne (by decide : isDigit 'n' = false), hne (by decide : isDigit 't' = false),
      hne (by decide : isDigit 'f' = false), hne (by decide : isDigit 'N' = false),
      hne (by decide : isDigit 'I' = false), hne (by decide : isDigit '-' = false)]

theorem readWordOrNumber_signed {n : ℤ} (hn : (digits n.natAbs).length ≤ digitLimit) (hr : Closed rest) :
    readWordOrNumber (signed n ++ rest) = .ok (.int n, rest) := by
  have hword : (words.find? fun w => w.1.isPrefixOf (signed n ++ rest)) = none := by
    cases n with
    | ofNat n =>
      obtain ⟨d, ds, h, hd⟩ := exists_digits n
      rw [signed, h]
      exact (no_word_of_digit hd (ds ++ rest)).1
    | negSucc n =>
      obtain ⟨d, ds, h, hd⟩ := exists_digits (n + 1)
      rw [signed, h]
      exact (no_word_of_digit hd (ds ++ rest)).2
  rw [readWordOrNumber, hword]
  exact readNumber_signed hn hr

end Reading

end TaskBoard.Proofs.Json
