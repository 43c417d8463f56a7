import Mathlib.Tactic
import TaskBoard.Number.Digits

namespace TaskBoard.Proofs.Decimals

open TaskBoard.Number

lemma isDigit_iff (c : Char) : isDigit c = true ↔ c.isDigit = true := by
  simp [isDigit, Char.isDigit, Char.le_def, UInt32.le_iff_toNat_le]

lemma ne_of_isDigit {c d : Char} (hc : isDigit c = true) (hd : isDigit d = false) : c ≠ d := by
  rintro rfl
  rw [hc] at hd
  cases hd

lemma isDigit_of_mem_digits {n : ℕ} {c : Char} (h : c ∈ digits n) : isDigit c = true :=
  (isDigit_iff c).mpr (Nat.isDigit_of_mem_toDigits (by decide) (by decide) h)

lemma isDigit_of_mem_padded {w n : ℕ} {c : Char} (h : c ∈ padded w n) : isDigit c = true := by
  rw [padded, List.leftpad, List.mem_append] at h
  rcases h with h | h
  · rw [List.eq_of_mem_replicate h]
    decide
  · exact isDigit_of_mem_digits h

lemma takeWhile_isDigit {ds rest : List Char} (hd : ∀ c ∈ ds, isDigit c = true)
    (hr : ∀ c ∈ rest.head?, isDigit c = false) : (ds ++ rest).takeWhile isDigit = ds := by
  rw [List.takeWhile_append_of_pos hd]
  cases rest with
  | nil => simp
  | cons c rest => simp [hr c rfl]

lemma digits_injective : Function.Injective digits := Function.LeftInverse.injective ofDigits_digits

lemma signed_injective : Function.Injective signed := by
  have hminus (m n : ℕ) : digits m ≠ '-' :: digits n := by
    intro h
    exact absurd (isDigit_of_mem_digits (h ▸ List.mem_cons_self : '-' ∈ digits m)) (by decide)
  rintro (m | m) (n | n) h
  · rw [digits_injective h]
  · exact absurd h (hminus m (n + 1))
  · exact absurd h.symm (hminus n (m + 1))
  · rw [Nat.succ_injective (digits_injective (List.cons.inj h).2)]

lemma integerText_injective : Function.Injective integerText :=
  fun _ _ h => signed_injective (String.ofList_injective h)

lemma integerText_eq_toString (n : ℤ) : integerText n = toString n := by
  cases n with
  | ofNat n => rfl
  | negSucc n => exact String.toList_inj.mp (by simp [integerText, signed, digits, toString, Int.repr, Nat.repr])

lemma length_digits_le {w n : ℕ} (hw : 0 < w) (h : n < 10 ^ w) : (digits n).length ≤ w :=
  (Nat.length_toDigits_le_iff (by decide) hw).mpr h

lemma length_padded_of_lt {w n : ℕ} (hw : 0 < w) (h : n < 10 ^ w) : (padded w n).length = w := by
  rw [length_padded]
  exact max_eq_left (length_digits_le hw h)

lemma ofDigits_padded (w n : ℕ) : ofDigits (padded w n) = n := by
  rw [ofDigits, padded, List.leftpad, Nat.ofDigitChars_append, Nat.ofDigitChars_replicate_zero, Nat.mul_zero]
  exact ofDigits_digits n

section Base

variable {b n : ℕ}

lemma leftpad_of_lt_base (h : n < b) (w : ℕ) :
    (Nat.toDigits b n).leftpad (w + 1) '0' = List.replicate w '0' ++ [n.digitChar] := by
  rw [Nat.toDigits_of_lt_base h]
  rfl

lemma leftpad_succ (hb : 1 < b) (w n : ℕ) : (Nat.toDigits b n).leftpad (w + 2) '0' =
    (Nat.toDigits b (n / b)).leftpad (w + 1) '0' ++ [(n % b).digitChar] := by
  rcases Nat.lt_or_ge n b with h | h
  · rw [leftpad_of_lt_base h, Nat.div_eq_of_lt h, leftpad_of_lt_base (by omega : 0 < b), Nat.mod_eq_of_lt h,
      List.replicate_succ']
    rfl
  · rw [Nat.toDigits_of_base_le hb h, List.leftpad, List.leftpad]
    have hk (k : ℕ) : w + 2 - (k + 1) = w + 1 - k := by omega
    simp only [List.length_append, List.length_singleton, hk, List.append_assoc]

end Base

lemma padded_of_lt_ten {w n : ℕ} (h : n < 10) : padded (w + 1) n = List.replicate w '0' ++ [n.digitChar] :=
  leftpad_of_lt_base h w

lemma padded_succ (w n : ℕ) : padded (w + 2) n = padded (w + 1) (n / 10) ++ [(n % 10).digitChar] :=
  leftpad_succ (by decide) w n

lemma hex_four {n : ℕ} (h : n < 0x10000) : hex 4 n =
    [(n / 0x1000).digitChar, (n / 0x100 % 16).digitChar, (n / 0x10 % 16).digitChar, (n % 16).digitChar] := by
  have hk : n / 16 / 16 = n / 0x100 := Nat.div_div_eq_div_mul n 16 16
  have hm : n / 16 / 16 / 16 = n / 0x1000 := by rw [hk, Nat.div_div_eq_div_mul]
  rw [hex, leftpad_succ (by decide), leftpad_succ (by decide), leftpad_succ (by decide),
    leftpad_of_lt_base (by omega), hm, hk]
  rfl

lemma append_lt {a b : List Char} (h : a < b) (hl : a.length = b.length) (x y : List Char) : a ++ x < b ++ y := by
  induction a generalizing b with
  | nil => cases b <;> simp_all
  | cons c a ih =>
    cases b with
    | nil => simp at hl
    | cons d b =>
      rw [List.cons_append, List.cons_append, List.cons_lt_cons_iff]
      rcases List.cons_lt_cons_iff.mp h with hcd | ⟨rfl, hab⟩
      · exact Or.inl hcd
      · exact Or.inr ⟨rfl, ih hab (by simpa using hl)⟩

lemma digitChar_lt : ∀ {m n : ℕ}, m < n → n < 10 → m.digitChar < n.digitChar := by
  intro m n hm hn
  interval_cases n <;> interval_cases m <;> decide

lemma padded_lt {w m n : ℕ} (h : m < n) (hn : n < 10 ^ (w + 1)) : padded (w + 1) m < padded (w + 1) n := by
  induction w generalizing m n with
  | zero =>
    rw [padded_of_lt_ten (by omega), padded_of_lt_ten (by omega)]
    exact List.cons_lt_cons_iff.mpr (Or.inl (digitChar_lt h (by omega)))
  | succ w ih =>
    have hn' : n / 10 < 10 ^ (w + 1) := Nat.div_lt_of_lt_mul (by rwa [← pow_succ'])
    rw [padded_succ, padded_succ]
    rcases Nat.lt_or_eq_of_le (Nat.div_le_div_right (c := 10) h.le) with hlt | heq
    · refine append_lt (ih hlt hn') ?_ _ _
      rw [length_padded_of_lt (by omega) (hlt.trans hn'), length_padded_of_lt (by omega) hn']
    · rw [heq]
      exact List.append_left_lt (List.cons_lt_cons_iff.mpr (Or.inl (digitChar_lt (by omega) (by omega))))

end TaskBoard.Proofs.Decimals
