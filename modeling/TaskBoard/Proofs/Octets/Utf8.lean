import Mathlib.Tactic
import TaskBoard.Text.Encoding

namespace TaskBoard.Proofs.Octets.Utf8

open TaskBoard.Text TaskBoard.Text.Utf8

section Steps

variable {b : UInt8} {rest : List UInt8} {u : Unfinished}

lemma run_single (h : b.toNat < 0x80) :
    run none (b :: rest) = (.char (Char.ofNat b.toNat) 1 :: (run none rest).1, (run none rest).2) := by
  simp [run, step, begin, h]

lemma run_begin (h : begin b = ([], some u)) : run none (b :: rest) = run (some u) rest := by
  simp [run, step, h]

lemma begin_two (hlo : 0xC2 ≤ b.toNat) (hhi : b.toNat < 0xE0) :
    begin b = ([], some ⟨[b], b.toNat - 0xC0, 1, 0x80, 0xBF⟩) := by
  simp only [begin]
  rw [if_neg (by omega), if_neg (by omega), if_pos hhi]

lemma begin_three (hlo : 0xE0 ≤ b.toNat) (hhi : b.toNat < 0xF0) : begin b = ([], some
    ⟨[b], b.toNat - 0xE0, 2, if b.toNat == 0xE0 then 0xA0 else 0x80, if b.toNat == 0xED then 0x9F else 0xBF⟩) := by
  simp only [begin]
  rw [if_neg (by omega), if_neg (by omega), if_neg (by omega), if_pos hhi]

lemma begin_four (hlo : 0xF0 ≤ b.toNat) (hhi : b.toNat < 0xF5) : begin b = ([], some
    ⟨[b], b.toNat - 0xF0, 3, if b.toNat == 0xF0 then 0x90 else 0x80, if b.toNat == 0xF4 then 0x8F else 0xBF⟩) := by
  simp only [begin]
  rw [if_neg (by omega), if_neg (by omega), if_neg (by omega), if_neg (by omega), if_pos hhi]

variable (hlo : u.low ≤ b.toNat) (hhi : b.toNat ≤ u.high)

include hlo hhi

lemma run_more (hm : 1 < u.missing) : run (some u) (b :: rest) =
    run (some ⟨u.octets ++ [b], u.bits * 64 + (b.toNat - 0x80), u.missing - 1, 0x80, 0xBF⟩) rest := by
  simp [run, step, hlo, hhi, Nat.not_le.mpr hm]

lemma run_last (hm : u.missing = 1) : run (some u) (b :: rest) =
    (.char (Char.ofNat (u.bits * 64 + (b.toNat - 0x80))) (u.octets.length + 1) :: (run none rest).1,
      (run none rest).2) := by
  simp [run, step, hlo, hhi, hm]

end Steps

section Forms

def Continues (b : UInt8) : Prop := 0x80 ≤ b.toNat ∧ b.toNat ≤ 0xBF

variable {a b c d : UInt8} {n : ℕ} {rest : List UInt8}

lemma low_le {m low k : ℕ} (h : n = m → low ≤ k) (hk : 0x80 ≤ k) : (if n == m then low else 0x80) ≤ k := by
  split_ifs with hm
  · exact h (beq_iff_eq.mp hm)
  · exact hk

lemma le_high {m high k : ℕ} (h : n = m → k ≤ high) (hk : k ≤ 0xBF) : k ≤ if n == m then high else 0xBF := by
  split_ifs with hm
  · exact h (beq_iff_eq.mp hm)
  · exact hk

lemma run_two (hlo : 0xC2 ≤ a.toNat) (hhi : a.toNat < 0xE0) (hb : Continues b)
    (hn : (a.toNat - 0xC0) * 64 + (b.toNat - 0x80) = n) :
    run none (a :: b :: rest) = (.char (Char.ofNat n) 2 :: (run none rest).1, (run none rest).2) := by
  subst hn
  rw [run_begin (begin_two hlo hhi), run_last hb.1 hb.2 rfl]
  rfl

lemma run_three (hlo : 0xE0 ≤ a.toNat) (hhi : a.toNat < 0xF0) (hb : Continues b) (hc : Continues c)
    (hlong : a.toNat = 0xE0 → 0xA0 ≤ b.toNat) (hhalf : a.toNat = 0xED → b.toNat ≤ 0x9F)
    (hn : ((a.toNat - 0xE0) * 64 + (b.toNat - 0x80)) * 64 + (c.toNat - 0x80) = n) :
    run none (a :: b :: c :: rest) = (.char (Char.ofNat n) 3 :: (run none rest).1, (run none rest).2) := by
  subst hn
  -- The second octet rules out what fits into two octets, and the surrogates.
  rw [run_begin (begin_three hlo hhi), run_more (low_le hlong hb.1) (le_high hhalf hb.2) (by decide : 1 < 2),
    run_last hc.1 hc.2 rfl]
  rfl

lemma run_four (hlo : 0xF0 ≤ a.toNat) (hhi : a.toNat < 0xF5) (hb : Continues b) (hc : Continues c) (hd : Continues d)
    (hlong : a.toNat = 0xF0 → 0x90 ≤ b.toNat) (hlast : a.toNat = 0xF4 → b.toNat ≤ 0x8F)
    (hn : (((a.toNat - 0xF0) * 64 + (b.toNat - 0x80)) * 64 + (c.toNat - 0x80)) * 64 + (d.toNat - 0x80) = n) :
    run none (a :: b :: c :: d :: rest) = (.char (Char.ofNat n) 4 :: (run none rest).1, (run none rest).2) := by
  subst hn
  -- The second octet rules out what fits into three octets, and what is no code point.
  rw [run_begin (begin_four hlo hhi), run_more (low_le hlong hb.1) (le_high hlast hb.2) (by decide : 1 < 3),
    run_more hc.1 hc.2 (by decide : 1 < 2), run_last hd.1 hd.2 rfl]
  rfl

end Forms

lemma toNat_ofNat {n : ℕ} (h : n < 0x100) : (UInt8.ofNat n).toNat = n := Nat.mod_eq_of_lt h

lemma toNat_continued {k : ℕ} (hk : k < 64) : (UInt8.ofNat (k + 128)).toNat = k + 0x80 := toNat_ofNat (by omega)

lemma continues_ofNat {k : ℕ} (hk : k < 64) : Continues (UInt8.ofNat (k + 128)) := by
  rw [Continues, toNat_continued hk]
  omega

lemma run_encodeChar (c : Char) (rest : List UInt8) : run none (String.utf8EncodeChar c ++ rest) =
    (.char c (String.utf8EncodeChar c).length :: (run none rest).1, (run none rest).2) := by
  obtain ⟨n, hn⟩ : ∃ n, c.val.toNat = n := ⟨_, rfl⟩
  have hvalid : n < 0xD800 ∨ 0xDFFF < n ∧ n < 0x110000 := hn ▸ c.valid
  have hc : Char.ofNat n = c := by rw [← hn]; exact Char.ofNat_toNat c
  simp only [String.utf8EncodeChar, hn]
  have h₁ := toNat_continued (by omega : n % 64 < 64)
  have h₂ := toNat_continued (by omega : n / 64 % 64 < 64)
  have h₃ := toNat_continued (by omega : n / 4096 % 64 < 64)
  have hc₁ := continues_ofNat (by omega : n % 64 < 64)
  have hc₂ := continues_ofNat (by omega : n / 64 % 64 < 64)
  have hc₃ := continues_ofNat (by omega : n / 4096 % 64 < 64)
  rw [← hc]
  split_ifs
  · have ha := toNat_ofNat (by omega : n < 0x100)
    rw [List.singleton_append, run_single (by omega), ha]
    rfl
  · have ha := toNat_ofNat (by omega : n / 64 % 32 + 192 < 0x100)
    exact run_two (by omega) (by omega) hc₁ (by omega)
  · have ha := toNat_ofNat (by omega : n / 4096 % 16 + 224 < 0x100)
    exact run_three (by omega) (by omega) hc₂ hc₁ (by omega) (by omega) (by omega)
  · have ha := toNat_ofNat (by omega : n / 262144 % 8 + 240 < 0x100)
    exact run_four (by omega) (by omega) hc₃ hc₂ hc₁ (by omega) (by omega) (by omega)

section Texts

def charPieces (s : List Char) : List Piece := s.map fun c => .char c (String.utf8EncodeChar c).length

lemma run_encodeChars (s : List Char) : run none (encodeChars s) = (charPieces s, none) := by
  induction s with
  | nil => rfl
  | cons c s ih =>
    change run none (String.utf8EncodeChar c ++ encodeChars s) = _
    rw [run_encodeChar, ih]
    rfl

lemma pieces_encodeChars (s : List Char) : pieces (encodeChars s) = charPieces s := by
  simp [pieces, run_encodeChars, finish]

lemma strictChars_charPieces (start : ℕ) (s : List Char) : strictChars start (charPieces s) = .ok s := by
  induction s generalizing start with
  | nil => rfl
  | cons c s ih =>
    change strictChars start (.char c _ :: charPieces s) = _
    rw [strictChars, ih]
    rfl

lemma detect_object {b : UInt8} (hb : b = 0x22 ∨ b = 0x7D) (rest : List UInt8) :
    Encoding.detect (0x7B :: b :: rest) = (.utf8, 0) := by
  rcases hb with rfl | rfl <;> rcases rest with _ | ⟨c, _ | ⟨d, rest⟩⟩ <;> rfl

theorem decodeDocument_encodeChars {b : Char} (hb : b = '"' ∨ b = '\x7d') (s : List Char) :
    decodeDocument (encodeChars ('\x7b' :: b :: s)) = .ok ('\x7b' :: b :: s) := by
  have hd : Encoding.detect (encodeChars ('\x7b' :: b :: s)) = (.utf8, 0) := by
    rcases hb with rfl | rfl
    · exact detect_object (.inl rfl) (encodeChars s)
    · exact detect_object (.inr rfl) (encodeChars s)
  rw [decodeDocument, hd]
  simp only [List.drop_zero]
  rw [pieces_encodeChars, strictChars_charPieces]

end Texts

end TaskBoard.Proofs.Octets.Utf8
