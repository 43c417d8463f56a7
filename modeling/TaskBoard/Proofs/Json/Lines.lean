import TaskBoard.Proofs.Json.Reading

namespace TaskBoard.Proofs.Json

open TaskBoard.Json TaskBoard.Number Proofs.Entries Decimals

def Visible (s : List Char) : Prop := ∀ c ∈ s, 0x20 ≤ c.toNat

section Characters

variable {s t : List Char}

lemma visible_append : Visible (s ++ t) ↔ Visible s ∧ Visible t := List.forall_mem_append

lemma visible_cons {c : Char} : Visible (c :: s) ↔ 0x20 ≤ c.toNat ∧ Visible s := List.forall_mem_cons

lemma visible_blank : Visible [' '] := by simp [Visible]

lemma visible_of_digits (h : ∀ c ∈ s, isDigit c = true) : Visible s := by
  intro c hc
  have hd := h c hc
  simp only [isDigit, Bool.and_eq_true, decide_eq_true_eq, Char.le_def, UInt32.le_iff_toNat_le] at hd
  exact le_trans (by decide) hd.1

lemma visible_signed (n : ℤ) : Visible (signed n) := by
  cases n with
  | ofNat n => exact visible_of_digits fun _ => isDigit_of_mem_digits
  | negSucc n => exact visible_cons.mpr ⟨by decide, visible_of_digits fun _ => isDigit_of_mem_digits⟩

lemma digitChar_visible : ∀ d < 16, 0x20 ≤ d.digitChar.toNat := by decide

lemma visible_unitEscape {n : ℕ} (h : n < 0x10000) : Visible (unitEscape n) := by
  have hd (k : ℕ) (hk : k < 16) : 0x20 ≤ k.digitChar.toNat := digitChar_visible k hk
  rw [unitEscape, hex_four h]
  simp only [visible_cons]
  exact ⟨by decide, by decide, hd _ (by omega), hd _ (by omega), hd _ (by omega), hd _ (by omega), by simp [Visible]⟩

lemma visible_unicodeEscape (c : Char) : Visible (unicodeEscape c) := by
  have hc := toNat_lt_units c
  rw [unicodeEscape]
  split
  · exact visible_unitEscape ‹_›
  · rw [visible_append]
    exact ⟨visible_unitEscape (by omega), visible_unitEscape (by omega)⟩

lemma visible_escapeChar (asciiOnly : Bool) (c : Char) : Visible (escapeChar asciiOnly c) := by
  unfold escapeChar
  -- Seven characters have an escape of their own. The rest below the blank are spelled in digits.
  split_ifs with _ _ _ _ _ _ _ hu
  · simp [Visible]
  · simp [Visible]
  · simp [Visible]
  · simp [Visible]
  · simp [Visible]
  · simp [Visible]
  · simp [Visible]
  · exact visible_unicodeEscape c
  · simp only [Bool.or_eq_true, decide_eq_true_eq, not_or] at hu
    exact visible_cons.mpr ⟨Nat.le_of_not_lt hu.1, by simp [Visible]⟩

lemma visible_textChars (layout : Layout) (s : List Char) : Visible (textChars layout s) := by
  rw [textChars, visible_append, visible_cons]
  refine ⟨⟨by decide, fun c hc => ?_⟩, by simp [Visible]⟩
  obtain ⟨d, -, hd⟩ := List.mem_flatMap.mp hc
  exact visible_escapeChar layout.asciiOnly d c hd

end Characters

section Values

variable {layout : Layout} (hcomma : Visible layout.afterComma) (hcolon : Visible layout.afterColon)

include hcomma in
lemma visible_itemChars {items : List Value} (h : ∀ v ∈ items, Visible (chars layout v)) :
    Visible (itemChars layout items) := by
  induction items with
  | nil =>
    rw [itemChars]
    simp [Visible]
  | cons v items ih =>
    rw [itemChars, visible_append, visible_append, visible_cons]
    rw [List.forall_mem_cons] at h
    exact ⟨⟨⟨by decide, hcomma⟩, h.1⟩, ih h.2⟩

include hcomma hcolon in
lemma visible_memberChars {members : List (String × Value)} (h : ∀ e ∈ members, Visible (chars layout e.2)) :
    Visible (memberChars layout members) := by
  induction members with
  | nil =>
    rw [memberChars]
    simp [Visible]
  | cons e members ih =>
    obtain ⟨key, v⟩ := e
    rw [memberChars]
    rw [List.forall_mem_cons] at h
    simp only [visible_append, visible_cons]
    have htext : Visible (textChars layout key.toList) := visible_textChars layout key.toList
    exact ⟨⟨⟨⟨⟨by decide, hcomma⟩, htext⟩, by decide, hcolon⟩, h.1⟩, ih h.2⟩

include hcomma hcolon in
theorem visible_chars {v : Value} (h : Faithful v) : Visible (chars layout v) := by
  induction h with
  | null => simp [Visible, chars]
  | bool b => cases b <;> simp [Visible, chars]
  | @int n h =>
    rw [chars]
    exact visible_signed n
  | text s =>
    rw [chars]
    exact visible_textChars layout s.toList
  | @list items h ih =>
    cases items with
    | nil => simp [Visible, chars]
    | cons v items =>
      rw [List.forall_mem_cons] at ih
      rw [chars, visible_append, visible_cons]
      exact ⟨⟨by decide, ih.1⟩, visible_itemChars hcomma ih.2⟩
  | @map members hn h ih =>
    rcases members with _ | ⟨⟨key, v⟩, members⟩
    · simp [Visible, chars]
    · rw [List.forall_mem_cons] at ih
      rw [chars]
      simp only [visible_append, visible_cons]
      have htext : Visible (textChars layout key.toList) := visible_textChars layout key.toList
      exact ⟨⟨⟨⟨by decide, htext⟩, by decide, hcolon⟩, ih.1⟩, visible_memberChars hcomma hcolon ih.2⟩

end Values

end TaskBoard.Proofs.Json
