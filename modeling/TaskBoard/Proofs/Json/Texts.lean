import TaskBoard.Json.Reader
import TaskBoard.Json.Writer
import TaskBoard.Proofs.Decimals

namespace TaskBoard.Proofs.Json

open TaskBoard.Json TaskBoard.Number Decimals

lemma Script.ofString_injective : Function.Injective Script.ofString := by
  intro s t h
  exact String.toList_injective (List.map_injective_iff.mpr (fun _ _ => Piece.char.inj) h)

/-- The input up to a closing quotation mark stands for a text. -/
def Spells (start input text left : List Char) : Prop :=
  ∃ ps, scanText start .plain input = .ok (ps, left) ∧ joinPieces ps = .ofChars text

section Scanning

variable {start rest text left : List Char} {ps : List Piece}

lemma scan_char {c : Char} (hq : c ≠ '"') (hb : c ≠ '\\') (hc : ¬ c.toNat < 0x20)
    (h : scanText start .plain rest = .ok (ps, left)) :
    scanText start .plain (c :: rest) = .ok (.char c :: ps, left) := by
  rw [scanText]
  simp [hq, hb, hc, h, bind, Except.bind, pure, Except.pure]

lemma scan_simple {c e : Char} (hu : c ≠ 'u') (he : simpleEscape? c = some e)
    (h : scanText start .plain rest = .ok (ps, left)) :
    scanText start .plain ('\\' :: c :: rest) = .ok (.char e :: ps, left) := by
  rw [scanText]
  simp [scanText, hu, he, h, bind, Except.bind, pure, Except.pure]

lemma hexValue?_digitChar : ∀ d < 16, hexValue? d.digitChar = some d := by decide

lemma scan_unit {n : ℕ} (hn : n < 0x10000) (hr : rest ≠ []) (h : scanText start .plain rest = .ok (ps, left)) :
    scanText start .plain (unitEscape n ++ rest) = .ok (.unit n :: ps, left) := by
  have hsum : ((n / 0x1000 * 16 + n / 0x100 % 16) * 16 + n / 0x10 % 16) * 16 + n % 16 = n := by omega
  rw [unitEscape, hex_four hn]
  simp only [List.cons_append, List.nil_append]
  rw [scanText, scanText]
  simp [scanText, hexValue?_digitChar _ (by omega : n / 0x1000 < 16), hexValue?_digitChar _ (Nat.mod_lt _ _), hr, h,
    hsum, bind, Except.bind, pure, Except.pure]

lemma spells_char {c : Char} (hq : c ≠ '"') (hb : c ≠ '\\') (hc : ¬ c.toNat < 0x20) (h : Spells start rest text left) :
    Spells start (c :: rest) (c :: text) left := by
  obtain ⟨ps, hs, hj⟩ := h
  exact ⟨_, scan_char hq hb hc hs, by rw [joinPieces, hj]; rfl⟩

lemma spells_simple {c e : Char} (hu : c ≠ 'u') (he : simpleEscape? c = some e) (h : Spells start rest text left) :
    Spells start ('\\' :: c :: rest) (e :: text) left := by
  obtain ⟨ps, hs, hj⟩ := h
  exact ⟨_, scan_simple hu he hs, by rw [joinPieces, hj]; rfl⟩

end Scanning

section Units

lemma joinPieces_unit {n : ℕ} (hn : ¬ (0xD800 ≤ n ∧ n ≤ 0xDBFF)) (ps : List Piece) :
    joinPieces (.unit n :: ps) = unitPiece n :: joinPieces ps := by
  rcases ps with _ | ⟨_ | m, ps⟩
  · rfl
  · rfl
  · rw [joinPieces, if_neg]
    simpa using fun h h' => absurd ⟨h, h'⟩ hn

lemma joinPieces_pair {n m : ℕ} (hn : 0xD800 ≤ n ∧ n ≤ 0xDBFF) (hm : 0xDC00 ≤ m ∧ m ≤ 0xDFFF) (ps : List Piece) :
    joinPieces (.unit n :: .unit m :: ps) =
      .char (Char.ofNat (0x10000 + (n - 0xD800) * 0x400 + (m - 0xDC00))) :: joinPieces ps := by
  rw [joinPieces, if_pos (by simpa using ⟨⟨hn, hm.1⟩, hm.2⟩)]

example : joinPieces [.unit 0xD800, .unit 0xD800, .unit 0xDC00, .unit 0xDC01] =
    [.unit 0xD800, .char '𐀀', .unit 0xDC01] := by decide

lemma toNat_not_half (c : Char) : ¬ (0xD800 ≤ c.toNat ∧ c.toNat ≤ 0xDFFF) := by
  have h : c.toNat < 0xD800 ∨ 0xDFFF < c.toNat ∧ c.toNat < 0x110000 := c.valid
  omega

lemma toNat_lt_units (c : Char) : c.toNat < 0x110000 := by
  have h : c.toNat < 0xD800 ∨ 0xDFFF < c.toNat ∧ c.toNat < 0x110000 := c.valid
  omega

lemma unitPiece_toNat (c : Char) : unitPiece c.toNat = .char c := by
  rw [unitPiece, if_neg (by simpa using toNat_not_half c), Char.ofNat_toNat]

end Units

section Texts

variable {start rest text left : List Char}

lemma spells_unicodeEscape (c : Char) (hr : rest ≠ []) (h : Spells start rest text left) :
    Spells start (unicodeEscape c ++ rest) (c :: text) left := by
  have hc := toNat_lt_units c
  obtain ⟨ps, hs, hj⟩ := h
  rw [unicodeEscape]
  split
  · rename_i hn
    refine ⟨_, scan_unit hn hr hs, ?_⟩
    rw [joinPieces_unit (fun h => toNat_not_half c ⟨h.1, by omega⟩), unitPiece_toNat, hj]
    rfl
  -- A character that does not fit into one unit is written as two halves.
  · rename_i hn
    obtain ⟨k, hk⟩ : ∃ k, c.toNat - 0x10000 = k := ⟨_, rfl⟩
    rw [hk]
    have hlow := scan_unit (by omega : 0xDC00 + k % 0x400 < 0x10000) hr hs
    rw [List.append_assoc]
    refine ⟨_, scan_unit (by omega : 0xD800 + k / 0x400 < 0x10000) (by simp [unitEscape]) hlow, ?_⟩
    have hsum : 0x10000 + (0xD800 + k / 0x400 - 0xD800) * 0x400 + (0xDC00 + k % 0x400 - 0xDC00) = c.toNat := by omega
    rw [joinPieces_pair (by omega) (by omega), hsum, Char.ofNat_toNat, hj]
    rfl

lemma spells_escapeChar (asciiOnly : Bool) (c : Char) (hr : rest ≠ []) (h : Spells start rest text left) :
    Spells start (escapeChar asciiOnly c ++ rest) (c :: text) left := by
  unfold escapeChar
  split_ifs with hq hb hn hr' ht h8 h12 hu
  · rw [beq_iff_eq.mp hq]
    exact spells_simple (by decide) rfl h
  · rw [beq_iff_eq.mp hb]
    exact spells_simple (by decide) rfl h
  · rw [beq_iff_eq.mp hn]
    exact spells_simple (by decide) rfl h
  · rw [beq_iff_eq.mp hr']
    exact spells_simple (by decide) rfl h
  · rw [beq_iff_eq.mp ht]
    exact spells_simple (by decide) rfl h
  · rw [← Char.ofNat_toNat c, beq_iff_eq.mp h8]
    exact spells_simple (by decide) rfl h
  · rw [← Char.ofNat_toNat c, beq_iff_eq.mp h12]
    exact spells_simple (by decide) rfl h
  · exact spells_unicodeEscape c hr h
  · simp only [Bool.or_eq_true, not_or, decide_eq_true_eq] at hu
    exact spells_char (by simpa using hq) (by simpa using hb) hu.1 h

lemma spells_chars (asciiOnly : Bool) (start s rest : List Char) :
    Spells start (s.flatMap (escapeChar asciiOnly) ++ '"' :: rest) s rest := by
  induction s with
  | nil => exact ⟨[], by simp [scanText], rfl⟩
  | cons c s ih =>
    rw [List.flatMap_cons, List.append_assoc]
    exact spells_escapeChar asciiOnly c (by simp) ih

lemma textChars_append (layout : Layout) (s rest : List Char) :
    textChars layout s ++ rest = '"' :: (s.flatMap (escapeChar layout.asciiOnly) ++ '"' :: rest) := by
  simp [textChars]

theorem readText_textChars (layout : Layout) (s : String) (rest : List Char) :
    readText (s.toList.flatMap (escapeChar layout.asciiOnly) ++ '"' :: rest) = .ok (.ofString s, rest) := by
  obtain ⟨ps, hs, hj⟩ := spells_chars layout.asciiOnly
    ('"' :: (s.toList.flatMap (escapeChar layout.asciiOnly) ++ '"' :: rest)) s.toList rest
  simp [readText, hs, hj, Script.ofString, bind, Except.bind, pure, Except.pure]

end Texts

end TaskBoard.Proofs.Json
