import Mathlib.Data.List.DropRight
import TaskBoard.Proofs.Json.Numbers

namespace TaskBoard.Proofs.Json

open TaskBoard.Json TaskBoard.Number Binary64 Decimals

section Grammar

def Row (ds : List Char) : Prop := ds ≠ [] ∧ ∀ c ∈ ds, isDigit c = true

def Significant (ds : List Char) : Prop := Row ds ∧ ds.head? ≠ some '0'

def Whole (ds : List Char) : Prop := ds = ['0'] ∨ Significant ds

/-- A text that stands for `n * 10 ^ k` and tells by a point or an exponent that it is no whole number. -/
inductive Decimal : List Char → ℕ → ℤ → Prop
  | fraction {whole ds : List Char} (hw : Whole whole) (hd : Row ds) :
      Decimal (whole ++ '.' :: ds) (ofDigits (whole ++ ds)) (-ds.length)
  | exponent {whole : List Char} (hw : Whole whole) (e : ℤ) :
      Decimal (whole ++ 'e' :: exponentChars e) (ofDigits whole) e
  | both {whole ds : List Char} (hw : Whole whole) (hd : Row ds) (e : ℤ) :
      Decimal (whole ++ '.' :: (ds ++ 'e' :: exponentChars e)) (ofDigits (whole ++ ds)) (e - ds.length)

end Grammar

section Reading

variable {whole ds rest : List Char}

lemma row_zero : Row ['0'] := by
  refine ⟨List.cons_ne_nil _ _, fun c hc => ?_⟩
  rw [List.mem_singleton.mp hc]
  decide

lemma Whole.row (h : Whole whole) : Row whole := by
  rcases h with rfl | h
  · exact row_zero
  · exact h.1

lemma wholeDigits_whole (h : Whole whole) (hr : ∀ c ∈ rest.head?, isDigit c = false) :
    wholeDigits (whole ++ rest) = whole := by
  rcases h with rfl | ⟨⟨hne, hd⟩, h0⟩
  · rfl
  · obtain ⟨d, ds, rfl⟩ := List.exists_cons_of_ne_nil hne
    have hd0 : d ≠ '0' := fun h => h0 (by rw [h]; rfl)
    have hall := takeWhile_isDigit hd hr
    rw [List.cons_append] at hall ⊢
    rw [wholeDigits_of_ne hd0, hall]

lemma exponent?_chars (e : ℤ) (hr : ∀ c ∈ rest.head?, isDigit c = false) :
    exponent? ('e' :: (exponentChars e ++ rest)) = some (decide (e < 0), padded 2 e.natAbs, rest) := by
  have htake := takeWhile_isDigit (fun _ => isDigit_of_mem_padded (w := 2) (n := e.natAbs)) hr
  have hne : padded 2 e.natAbs ≠ [] := by
    rw [← List.length_pos_iff, length_padded]
    omega
  have hdrop : (padded 2 e.natAbs ++ rest).dropWhile isDigit = rest := by
    have h := List.takeWhile_append_dropWhile (p := isDigit) (l := padded 2 e.natAbs ++ rest)
    rw [htake] at h
    exact List.append_cancel_left h
  by_cases he : e < 0 <;> simp [exponent?, exponentChars, he, htake, hdrop, hne]

lemma signed_exponent (e : ℤ) :
    (if e < 0 then -(ofDigits (padded 2 e.natAbs) : ℤ) else ofDigits (padded 2 e.natAbs)) = e := by
  rw [ofDigits_padded]
  split_ifs <;> omega

lemma fractionDigits_row (hd : Row ds) (hr : ∀ c ∈ rest.head?, isDigit c = false) :
    fractionDigits ('.' :: (ds ++ rest)) = ds := takeWhile_isDigit hd.2 hr

lemma head?_cons_not_digit {c : Char} (hc : isDigit c = false) (s : List Char) :
    ∀ d ∈ (c :: s).head?, isDigit d = false := by
  rintro d ⟨⟩
  exact hc

lemma readNumber_decimal {text s : List Char} {n : ℕ} {k : ℤ} {negative : Bool} (h : Decimal text n k)
    (hs : (s.head? == some '-') = negative) (hu : (if negative then s.tail else s) = text ++ rest)
    (hr : Closed rest) : readNumber s = .ok (.float (.ofDecimal negative n k), rest) := by
  have hr' : ∀ c ∈ rest.head?, isDigit c = false := fun c hc => (hr c hc).1
  cases h with
  | @fraction whole ds hw hd =>
    simp only [List.append_assoc, List.cons_append] at hu
    have hwhole := wholeDigits_whole hw (head?_cons_not_digit (by decide : isDigit '.' = false) (ds ++ rest))
    simp [readNumber, hs, hu, hwhole, hw.row.1, fractionDigits_row hd hr', hd.1, exponent?_closed hr]
  | @exponent whole hw =>
    simp only [List.append_assoc, List.cons_append] at hu
    have hwhole := wholeDigits_whole hw
      (head?_cons_not_digit (by decide : isDigit 'e' = false) (exponentChars k ++ rest))
    have hdot : fractionDigits ('e' :: (exponentChars k ++ rest)) = [] := rfl
    simp [readNumber, hs, hu, hwhole, hw.row.1, hdot, exponent?_chars k hr', signed_exponent k]
  | @both whole ds hw hd e =>
    simp only [List.append_assoc, List.cons_append] at hu
    have hwhole := wholeDigits_whole hw
      (head?_cons_not_digit (by decide : isDigit '.' = false) (ds ++ 'e' :: (exponentChars e ++ rest)))
    have he := head?_cons_not_digit (by decide : isDigit 'e' = false) (exponentChars e ++ rest)
    simp [readNumber, hs, hu, hwhole, hw.row.1, fractionDigits_row hd he, hd.1, exponent?_chars e hr',
      signed_exponent e]

end Reading

section Writing

lemma significant_of_pos {n : ℕ} (hn : 0 < n) (place : ℤ) : Significant (significant n place).1 := by
  have hpre : (significant n place).1 <+: digits n := List.rdropWhile_prefix _ _
  have hne : (significant n place).1 ≠ [] := by
    intro h
    obtain ⟨d, ds, hds, -⟩ := exists_digits n
    have hd := List.rdropWhile_eq_nil_iff.mp h d (by rw [hds]; exact List.mem_cons_self)
    exact head?_digits hn (by rw [hds, List.head?_cons, beq_iff_eq.mp hd])
  refine ⟨⟨hne, fun c hc => isDigit_of_mem_digits (hpre.subset hc)⟩, ?_⟩
  obtain ⟨zeros, h⟩ := hpre
  rw [← List.head?_append_of_ne_nil _ hne, h]
  exact head?_digits hn

variable {ds : List Char}

lemma row_zeros (hd : Row ds) (k : ℕ) : Row (List.replicate k '0' ++ ds) := by
  refine ⟨List.append_ne_nil_of_right_ne_nil _ hd.1, fun c hc => ?_⟩
  rcases List.mem_append.mp hc with h | h
  · rw [List.eq_of_mem_replicate h]
    decide
  · exact hd.2 c h

lemma Significant.zeros (hd : Significant ds) (k : ℕ) : Significant (ds ++ List.replicate k '0') := by
  refine ⟨⟨List.append_ne_nil_of_left_ne_nil hd.1.1 _, fun c hc => ?_⟩, ?_⟩
  · rcases List.mem_append.mp hc with h | h
    · exact hd.1.2 c h
    · rw [List.eq_of_mem_replicate h]
      decide
  · rw [List.head?_append_of_ne_nil _ hd.1.1]
    exact hd.2

lemma Significant.take (hd : Significant ds) {k : ℕ} (hk : 0 < k) : Significant (ds.take k) := by
  obtain ⟨k, rfl⟩ := Nat.exists_eq_add_one.mpr hk
  obtain ⟨⟨hne, hall⟩, h0⟩ := hd
  obtain ⟨d, ds, rfl⟩ := List.exists_cons_of_ne_nil hne
  exact ⟨⟨List.cons_ne_nil _ _, fun c hc => hall c (List.mem_of_mem_take hc)⟩, h0⟩

lemma exists_decimal_digits (hd : Significant ds) (point : ℤ) : ∃ n k, Decimal (positionalOrScaled ds point) n k := by
  unfold positionalOrScaled
  split_ifs with _ hpoint hlen
  · exact ⟨_, _, .fraction (.inl rfl) (row_zeros hd.1 _)⟩
  · have h := Decimal.fraction (.inr (hd.zeros (point.toNat - ds.length))) row_zero
    exact ⟨_, _, h⟩
  · refine ⟨_, _, .fraction (.inr (hd.take (by omega))) ⟨?_, fun c hc => hd.1.2 c (List.mem_of_mem_drop hc)⟩⟩
    rw [← List.length_pos_iff, List.length_drop]
    omega
  · obtain ⟨⟨hne, hall⟩, h0⟩ := hd
    obtain ⟨d, ds, rfl⟩ := List.exists_cons_of_ne_nil hne
    have hw : Whole [d] := .inr ⟨⟨List.cons_ne_nil _ _, fun c hc => hall c (by simp_all)⟩, h0⟩
    cases ds with
    | nil => exact ⟨_, _, .exponent hw _⟩
    | cons d' ds => exact ⟨_, _, .both hw ⟨List.cons_ne_nil _ _, fun c hc => hall c (List.mem_cons_of_mem d hc)⟩ _⟩

lemma le_roundHalfEven (num den : ℕ) : num / den ≤ roundHalfEven num den := by
  simp only [roundHalfEven]
  split_ifs <;> omega

lemma decimalOfLength?_pos {m n count : ℕ} {e place : ℤ} (hm : 0 < m)
    (h : decimalOfLength? m e count = some (n, place)) : 0 < n := by
  unfold decimalOfLength? at h
  split at h
  rename_i num den hq
  obtain ⟨rfl, -⟩ := Prod.mk.inj hq
  extract_lets p scaleUp step value gap lowGap closed readsBack below low high nearest at h
  have hfar : lowGap < value := by
    have hle : lowGap ≤ gap := by
      simp only [lowGap]
      split_ifs <;> omega
    have h2 : 0 < twoTo e.toNat := Nat.pow_pos (by decide)
    have h10 : 0 < scaleUp := Nat.pow_pos (by decide)
    exact hle.trans_lt (Nat.mul_lt_mul_of_pos_right (by nlinarith) h10)
  -- Zero is too far away: the gap is at most half of a value that is no zero.
  have hzero : ¬ readsBack 0 := by
    simp only [readsBack, Nat.zero_mul, Nat.zero_le, if_true, Nat.sub_zero]
    split_ifs <;> omega
  have hlow : low → 0 < below := fun h => Nat.pos_of_ne_zero fun h0 => hzero (h0 ▸ h)
  rcases ite_eq_iff.mp h with ⟨hboth, h⟩ | ⟨-, h⟩
  · rw [Bool.and_eq_true, decide_eq_true_eq] at hboth
    rw [← (Prod.mk.inj (Option.some.inj h)).1]
    exact (hlow hboth.1).trans_le (le_roundHalfEven value step)
  rcases ite_eq_iff.mp h with ⟨hl, h⟩ | ⟨-, h⟩
  · rw [← (Prod.mk.inj (Option.some.inj h)).1]
    exact hlow hl
  rcases ite_eq_iff.mp h with ⟨-, h⟩ | ⟨-, h⟩
  · rw [← (Prod.mk.inj (Option.some.inj h)).1]
    exact Nat.succ_pos _
  · cases h

lemma shortest_pos_or {m : ℕ} (hm : 0 < m) (e : ℤ) : 0 < (shortest m e).1 ∨ shortest m e = (0, 0) := by
  rw [shortest]
  cases h : (List.range' 1 17).findSome? (decimalOfLength? m e) with
  | none => exact Or.inr rfl
  | some found =>
    obtain ⟨count, -, hc⟩ := List.exists_of_findSome?_eq_some h
    exact Or.inl (decimalOfLength?_pos hm hc)

lemma exists_decimal_chars (negative : Bool) (m : ℕ) (e : ℤ) : ∃ text n k, Decimal text n k ∧
    (Binary64.finite negative m e).chars = if negative then '-' :: text else text := by
  have hzero : Decimal ['0', '.', '0'] _ _ := .fraction (.inl rfl) row_zero
  rcases Nat.eq_zero_or_pos m with rfl | hm
  · exact ⟨_, _, _, hzero, rfl⟩
  · have hchars : (Binary64.finite negative m e).chars =
        (let ds := significant (shortest m e).1 (shortest m e).2
        if negative then '-' :: positionalOrScaled ds.1 ds.2 else positionalOrScaled ds.1 ds.2) := by
      simp [Binary64.chars, hm.ne']
    rw [hchars]
    rcases shortest_pos_or hm e with h | h
    · obtain ⟨n, k, hd⟩ := exists_decimal_digits (significant_of_pos h (shortest m e).2) (significant _ _).2
      exact ⟨_, n, k, hd, rfl⟩
    · rw [h]
      exact ⟨_, _, _, hzero, rfl⟩

end Writing

section Floats

variable {text : List Char} {n : ℕ} {k : ℤ}

lemma Decimal.head (h : Decimal text n k) : ∃ d ds, text = d :: ds ∧ isDigit d = true := by
  have hcons {whole : List Char} (hw : Whole whole) (rest : List Char) :
      ∃ d ds, whole ++ rest = d :: ds ∧ isDigit d = true := by
    obtain ⟨hne, hall⟩ := hw.row
    obtain ⟨d, ds, rfl⟩ := List.exists_cons_of_ne_nil hne
    exact ⟨d, ds ++ rest, rfl, hall d List.mem_cons_self⟩
  cases h with
  | fraction hw hd => exact hcons hw _
  | exponent hw e => exact hcons hw _
  | both hw hd e => exact hcons hw _

lemma readWordOrNumber_decimal (h : Decimal text n k) (negative : Bool) {rest : List Char} (hr : Closed rest) :
    readWordOrNumber ((if negative then '-' :: text else text) ++ rest) =
      .ok (.float (.ofDecimal negative n k), rest) := by
  obtain ⟨d, ds, hds, hd⟩ := h.head
  have hword := no_word_of_digit hd (ds ++ rest)
  cases negative
  · have hs : ((text ++ rest).head? == some '-') = false := by
      rw [hds]
      exact beq_eq_false_iff_ne.mpr fun h => ne_of_isDigit hd (by decide : isDigit '-' = false) (Option.some.inj h)
    have hnone : (words.find? fun w => w.1.isPrefixOf (text ++ rest)) = none := by rw [hds]; exact hword.1
    simp only [Bool.false_eq_true, if_false, readWordOrNumber, hnone]
    exact readNumber_decimal h hs rfl hr
  · have hnone : (words.find? fun w => w.1.isPrefixOf ('-' :: text ++ rest)) = none := by rw [hds]; exact hword.2
    simp only [if_true, readWordOrNumber, hnone]
    exact readNumber_decimal h rfl rfl hr

theorem exists_readFloat (x : Binary64) : ∃ y, ∀ rest, Closed rest →
    readWordOrNumber (floatChars x ++ rest) = .ok (.float y, rest) := by
  cases x with
  | nan => exact ⟨.nan, fun rest _ => by simp [readWordOrNumber, words, floatChars]⟩
  | infinite negative =>
    refine ⟨.infinite negative, fun rest _ => ?_⟩
    cases negative <;> simp [readWordOrNumber, words, floatChars]
  | finite negative m e =>
    obtain ⟨text, n, k, hd, hchars⟩ := exists_decimal_chars negative m e
    refine ⟨.ofDecimal negative n k, fun rest hr => ?_⟩
    change readWordOrNumber ((Binary64.finite negative m e).chars ++ rest) = _
    rw [hchars]
    exact readWordOrNumber_decimal hd negative hr

end Floats

end TaskBoard.Proofs.Json
