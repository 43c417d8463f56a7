import TaskBoard.Proofs.Octets.Utf8

/-!
Decoding loses nothing: each octet belongs to a character that is written with just these octets, or to a broken
sequence. A character that is cut off is one broken sequence.
-/

namespace TaskBoard.Proofs.Octets.Utf8

open TaskBoard.Text TaskBoard.Text.Utf8

section Forms

variable {a b c d : UInt8} {n : ℕ}

lemma toNat_val (h : n.isValidChar) : (Char.ofNat n).val.toNat = n := by
  rw [Char.ofNat, dif_pos h]
  rfl

lemma encodeChar_one (ha : a.toNat < 0x80) : String.utf8EncodeChar (Char.ofNat a.toNat) = [a] := by
  have hv : a.toNat.isValidChar := Or.inl (by omega)
  simp only [String.utf8EncodeChar, toNat_val hv]
  rw [if_pos (by omega), UInt8.ofNat_toNat]

lemma encodeChar_two (hlo : 0xC2 ≤ a.toNat) (hhi : a.toNat < 0xE0) (hb : Continues b)
    (hn : (a.toNat - 0xC0) * 64 + (b.toNat - 0x80) = n) : String.utf8EncodeChar (Char.ofNat n) = [a, b] := by
  obtain ⟨hb, hb'⟩ := hb
  have hv : n.isValidChar := Or.inl (by omega)
  have h₁ : n / 64 % 32 + 192 = a.toNat := by omega
  have h₂ : n % 64 + 128 = b.toNat := by omega
  simp only [String.utf8EncodeChar, toNat_val hv]
  rw [if_neg (by omega), if_pos (by omega), h₁, h₂]
  simp only [UInt8.ofNat_toNat]

lemma encodeChar_three (hlo : 0xE0 ≤ a.toNat) (hhi : a.toNat < 0xF0) (hb : Continues b) (hc : Continues c)
    (hlong : a.toNat = 0xE0 → 0xA0 ≤ b.toNat) (hhalf : a.toNat = 0xED → b.toNat ≤ 0x9F)
    (hn : ((a.toNat - 0xE0) * 64 + (b.toNat - 0x80)) * 64 + (c.toNat - 0x80) = n) :
    String.utf8EncodeChar (Char.ofNat n) = [a, b, c] := by
  obtain ⟨hb, hb'⟩ := hb
  obtain ⟨hc, hc'⟩ := hc
  have hsize : 0x800 ≤ n ∧ n < 0x10000 := by omega
  have hv : n.isValidChar := by
    rcases Nat.lt_or_ge a.toNat 0xEE with h | h
    · exact Or.inl (by omega)
    · exact Or.inr (by omega)
  have h₁ : n / 4096 % 16 + 224 = a.toNat := by omega
  have h₂ : n / 64 % 64 + 128 = b.toNat := by omega
  have h₃ : n % 64 + 128 = c.toNat := by omega
  simp only [String.utf8EncodeChar, toNat_val hv]
  rw [if_neg (by omega), if_neg (by omega), if_pos (by omega), h₁, h₂, h₃]
  simp only [UInt8.ofNat_toNat]

lemma encodeChar_four (hlo : 0xF0 ≤ a.toNat) (hhi : a.toNat < 0xF5) (hb : Continues b) (hc : Continues c)
    (hd : Continues d) (hlong : a.toNat = 0xF0 → 0x90 ≤ b.toNat) (hlast : a.toNat = 0xF4 → b.toNat ≤ 0x8F)
    (hn : (((a.toNat - 0xF0) * 64 + (b.toNat - 0x80)) * 64 + (c.toNat - 0x80)) * 64 + (d.toNat - 0x80) = n) :
    String.utf8EncodeChar (Char.ofNat n) = [a, b, c, d] := by
  obtain ⟨hb, hb'⟩ := hb
  obtain ⟨hc, hc'⟩ := hc
  obtain ⟨hd, hd'⟩ := hd
  have hsize : 0x10000 ≤ n ∧ n < 0x110000 := by omega
  have hv : n.isValidChar := Or.inr (by omega)
  have h₁ : n / 262144 % 8 + 240 = a.toNat := by omega
  have h₂ : n / 4096 % 64 + 128 = b.toNat := by omega
  have h₃ : n / 64 % 64 + 128 = c.toNat := by omega
  have h₄ : n % 64 + 128 = d.toNat := by omega
  simp only [String.utf8EncodeChar, toNat_val hv]
  rw [if_neg (by omega), if_neg (by omega), if_neg (by omega), h₁, h₂, h₃, h₄]
  simp only [UInt8.ofNat_toNat]

end Forms

section Beginnings

structure Completion (u : Unfinished) (ks : List UInt8) : Prop where
  length : ks.length = u.missing
  first : ∀ k ∈ ks.head?, u.low ≤ k.toNat ∧ k.toNat ≤ u.high
  later : ∀ k ∈ ks.tail, Continues k

def completed (u : Unfinished) (ks : List UInt8) : ℕ := ks.foldl (fun n k => n * 64 + (k.toNat - 0x80)) u.bits

/-- Whatever completes the character makes one that is written with all of these octets. -/
structure Begun (u : Unfinished) : Prop where
  octets_ne : u.octets ≠ []
  missing_pos : 0 < u.missing
  completes : ∀ ks, Completion u ks → String.utf8EncodeChar (Char.ofNat (completed u ks)) = u.octets ++ ks

variable {b k : UInt8} {n m low high : ℕ}

lemma of_low_le (h : (if n == m then low else 0x80) ≤ k.toNat) (hl : 0x80 ≤ low) :
    0x80 ≤ k.toNat ∧ (n = m → low ≤ k.toNat) := by
  split_ifs at h with hm
  · exact ⟨hl.trans h, fun _ => h⟩
  · exact ⟨h, fun hnm => absurd (beq_iff_eq.mpr hnm) hm⟩

lemma of_le_high (h : k.toNat ≤ if n == m then high else 0xBF) (hh : high ≤ 0xBF) :
    k.toNat ≤ 0xBF ∧ (n = m → k.toNat ≤ high) := by
  split_ifs at h with hm
  · exact ⟨h.trans hh, fun _ => h⟩
  · exact ⟨h, fun hnm => absurd (beq_iff_eq.mpr hnm) hm⟩

lemma begun_two (hlo : 0xC2 ≤ b.toNat) (hhi : b.toNat < 0xE0) : Begun ⟨[b], b.toNat - 0xC0, 1, 0x80, 0xBF⟩ := by
  refine ⟨by simp, Nat.one_pos, ?_⟩
  rintro ks ⟨hlength, hfirst, -⟩
  obtain ⟨k, rfl⟩ := List.length_eq_one_iff.mp hlength
  exact encodeChar_two hlo hhi (hfirst k rfl) rfl

lemma begun_three (hlo : 0xE0 ≤ b.toNat) (hhi : b.toNat < 0xF0) : Begun
    ⟨[b], b.toNat - 0xE0, 2, if b.toNat == 0xE0 then 0xA0 else 0x80, if b.toNat == 0xED then 0x9F else 0xBF⟩ := by
  refine ⟨by simp, Nat.two_pos, ?_⟩
  rintro ks ⟨hlength, hfirst, hlater⟩
  obtain ⟨k, l, rfl⟩ := List.length_eq_two.mp hlength
  obtain ⟨hk, hlong⟩ := of_low_le (hfirst k rfl).1 (by decide)
  obtain ⟨hk', hhalf⟩ := of_le_high (hfirst k rfl).2 (by decide)
  exact encodeChar_three hlo hhi ⟨hk, hk'⟩ (hlater l (by simp)) hlong hhalf rfl

lemma begun_four (hlo : 0xF0 ≤ b.toNat) (hhi : b.toNat < 0xF5) : Begun
    ⟨[b], b.toNat - 0xF0, 3, if b.toNat == 0xF0 then 0x90 else 0x80, if b.toNat == 0xF4 then 0x8F else 0xBF⟩ := by
  refine ⟨by simp, Nat.zero_lt_succ 2, ?_⟩
  rintro ks ⟨hlength, hfirst, hlater⟩
  obtain ⟨k, l, m, rfl⟩ := List.length_eq_three.mp hlength
  obtain ⟨hk, hlong⟩ := of_low_le (hfirst k rfl).1 (by decide)
  obtain ⟨hk', hlast⟩ := of_le_high (hfirst k rfl).2 (by decide)
  exact encodeChar_four hlo hhi ⟨hk, hk'⟩ (hlater l (by simp)) (hlater m (by simp)) hlong hlast rfl

lemma Begun.more {u : Unfinished} (h : Begun u) (hlo : u.low ≤ b.toNat) (hhi : b.toNat ≤ u.high) (hm : 1 < u.missing) :
    Begun ⟨u.octets ++ [b], u.bits * 64 + (b.toNat - 0x80), u.missing - 1, 0x80, 0xBF⟩ := by
  refine ⟨by simp, Nat.sub_pos_of_lt hm, ?_⟩
  rintro ks ⟨hlength, hfirst, hlater⟩
  have hks : Completion u (b :: ks) := by
    refine ⟨?_, ?_, ?_⟩
    · rw [List.length_cons, hlength]
      exact Nat.sub_add_cancel hm.le
    · rintro k ⟨⟩
      exact ⟨hlo, hhi⟩
    · intro k hk
      cases ks with
      | nil => cases hk
      | cons l ks =>
        rcases List.mem_cons.mp hk with rfl | hk
        · exact hfirst k rfl
        · exact hlater k hk
  have hwhole := h.completes (b :: ks) hks
  rw [completed, List.foldl_cons] at hwhole
  rw [completed, List.append_assoc, List.singleton_append, hwhole]

lemma Begun.last {u : Unfinished} (h : Begun u) (hlo : u.low ≤ b.toNat) (hhi : b.toNat ≤ u.high) (hm : u.missing ≤ 1) :
    String.utf8EncodeChar (Char.ofNat (u.bits * 64 + (b.toNat - 0x80))) = u.octets ++ [b] := by
  have hpos := h.missing_pos
  refine h.completes [b] ⟨?_, ?_, by simp⟩
  · rw [List.length_singleton]
    omega
  · rintro k ⟨⟩
    exact ⟨hlo, hhi⟩

end Beginnings

section Origins

def origin : Piece → List UInt8
  | .char c _ => String.utf8EncodeChar c
  | .broken octets _ => octets

def openOctets (u : Option Unfinished) : List UInt8 := u.elim [] Unfinished.octets

/-- The octets that were open before, and those behind them, are in the pieces or still open. -/
structure Accounts (u : Option Unfinished) (octets : List UInt8) (settled : List Piece × Option Unfinished) : Prop where
  origins : settled.1.flatMap origin ++ openOctets settled.2 = openOctets u ++ octets
  filled : ∀ p ∈ settled.1, origin p ≠ []
  begun : ∀ v ∈ settled.2, Begun v

lemma accounts_begin (b : UInt8) : Accounts none [b] (begin b) := by
  have hstart {u : Unfinished} (h : begin b = ([], some u)) (ho : u.octets = [b]) (hu : Begun u) :
      Accounts none [b] (begin b) := by
    rw [h]
    refine ⟨ho, by simp, ?_⟩
    rintro v ⟨⟩
    exact hu
  have hbroken (h : begin b = ([.broken [b] .start], none)) : Accounts none [b] (begin b) := by
    rw [h]
    exact ⟨rfl, by simp [origin], by simp⟩
  rcases Nat.lt_or_ge b.toNat 0x80 with h₁ | h₁
  · have h : begin b = ([.char (Char.ofNat b.toNat) 1], none) := by simp [begin, h₁]
    rw [h]
    refine ⟨?_, by simp [origin], by simp⟩
    simp [origin, openOctets, encodeChar_one h₁]
  rcases Nat.lt_or_ge b.toNat 0xC2 with h₂ | h₂
  · exact hbroken (by simp [begin, Nat.not_lt.mpr h₁, h₂])
  rcases Nat.lt_or_ge b.toNat 0xE0 with h₃ | h₃
  · exact hstart (begin_two h₂ h₃) rfl (begun_two h₂ h₃)
  rcases Nat.lt_or_ge b.toNat 0xF0 with h₄ | h₄
  · exact hstart (begin_three h₃ h₄) rfl (begun_three h₃ h₄)
  rcases Nat.lt_or_ge b.toNat 0xF5 with h₅ | h₅
  · exact hstart (begin_four h₄ h₅) rfl (begun_four h₄ h₅)
  · apply hbroken
    simp only [begin]
    rw [if_neg (by omega), if_neg (by omega), if_neg (by omega), if_neg (by omega), if_neg (by omega)]

lemma accounts_step {u : Option Unfinished} (h : ∀ v ∈ u, Begun v) (b : UInt8) : Accounts u [b] (step u b) := by
  cases u with
  | none => exact accounts_begin b
  | some u =>
    have hu := h u rfl
    simp only [step]
    split_ifs with hrange hm
    · refine ⟨?_, by simp [origin], by simp⟩
      simp [origin, openOctets, hu.last hrange.1 hrange.2 hm]
    · refine ⟨by simp [openOctets], by simp, ?_⟩
      rintro v ⟨⟩
      exact hu.more hrange.1 hrange.2 (Nat.not_le.mp hm)
    · -- What was begun is broken off, and the octet begins anew.
      obtain ⟨horigins, hfilled, hbegun⟩ := accounts_begin b
      refine ⟨?_, ?_, hbegun⟩
      · rw [List.flatMap_cons, List.append_assoc, horigins]
        rfl
      · exact List.forall_mem_cons.mpr ⟨hu.octets_ne, hfilled⟩

lemma accounts_run {u : Option Unfinished} (h : ∀ v ∈ u, Begun v) (octets : List UInt8) :
    Accounts u octets (run u octets) := by
  induction octets generalizing u with
  | nil => exact ⟨by simp [run], by simp [run], h⟩
  | cons b octets ih =>
    obtain ⟨horigins, hfilled, hbegun⟩ := accounts_step h b
    obtain ⟨horigins', hfilled', hbegun'⟩ := ih hbegun
    refine ⟨?_, List.forall_mem_append.mpr ⟨hfilled, hfilled'⟩, hbegun'⟩
    change ((step u b).1 ++ (run (step u b).2 octets).1).flatMap origin ++ openOctets (run (step u b).2 octets).2 =
      openOctets u ++ b :: octets
    rw [List.flatMap_append, List.append_assoc, horigins', ← List.append_assoc, horigins, List.append_assoc,
      List.singleton_append]

theorem pieces_origins (octets : List UInt8) :
    (pieces octets).flatMap origin = octets ∧ ∀ p ∈ pieces octets, origin p ≠ [] := by
  obtain ⟨horigins, hfilled, hbegun⟩ := accounts_run (u := none) (by simp) octets
  have hfinish : (finish (run none octets).2).flatMap origin = openOctets (run none octets).2 := by
    cases (run none octets).2 <;> simp [finish, origin, openOctets]
  refine ⟨?_, List.forall_mem_append.mpr ⟨hfilled, ?_⟩⟩
  · change ((run none octets).1 ++ finish (run none octets).2).flatMap origin = octets
    rw [List.flatMap_append, hfinish, horigins]
    rfl
  · cases hu : (run none octets).2 with
    | none => simp [finish]
    | some u => simpa [finish, origin] using (hbegun u hu).octets_ne

end Origins

section Cuts

variable {c : Char} {k : ℕ}

lemma run_cut (hk : 0 < k) (hlt : k < (String.utf8EncodeChar c).length) :
    ∃ u, run none ((String.utf8EncodeChar c).take k) = ([], some u) := by
  obtain ⟨horigins, -, -⟩ := accounts_run (u := none) (by simp) ((String.utf8EncodeChar c).take k)
  have hwhole : run none (String.utf8EncodeChar c) = ([.char c (String.utf8EncodeChar c).length], none) := by
    simpa [run] using run_encodeChar c []
  rw [← List.take_append_drop k (String.utf8EncodeChar c), run_append, Prod.mk.injEq] at hwhole
  obtain ⟨hpieces, -⟩ := hwhole
  -- A piece that is settled already would be the character itself, which has more octets.
  have hnone : (run none ((String.utf8EncodeChar c).take k)).1 = [] := by
    cases hsettled : (run none ((String.utf8EncodeChar c).take k)).1 with
    | nil => rfl
    | cons p ps =>
      rw [hsettled, List.cons_append, List.cons.injEq] at hpieces
      rw [hsettled, hpieces.1, List.flatMap_cons] at horigins
      have hlength := congrArg List.length horigins
      simp only [origin, openOctets, List.length_append, List.length_take, Option.elim_none, List.length_nil] at hlength
      omega
  rw [hnone] at horigins
  cases hopen : (run none ((String.utf8EncodeChar c).take k)).2 with
  | none =>
    rw [hopen] at horigins
    have hlength := congrArg List.length horigins
    simp only [List.flatMap_nil, openOctets, List.length_append, List.length_take, Option.elim_none,
      List.length_nil] at hlength
    omega
  | some u => exact ⟨u, Prod.ext hnone hopen⟩

lemma decodeLossy_cut (hk : 0 < k) (hlt : k < (String.utf8EncodeChar c).length) :
    decodeLossy ((String.utf8EncodeChar c).take k) = [replacement] := by
  obtain ⟨u, hu⟩ := run_cut hk hlt
  simp [decodeLossy, pieces, hu, finish, Piece.lossy]

lemma decodeLossy_append (s : List Char) (rest : List UInt8) :
    decodeLossy (encodeChars s ++ rest) = s ++ decodeLossy rest := by
  have hchars : (charPieces s).map Piece.lossy = s := by
    rw [charPieces, List.map_map]
    exact List.map_id' s
  simp [decodeLossy, pieces, run_append, run_encodeChars, hchars]

lemma decodeLossy_encodeChars (s : List Char) : decodeLossy (encodeChars s) = s := by
  simpa [decodeLossy, pieces, run, finish] using decodeLossy_append s []

end Cuts

end TaskBoard.Proofs.Octets.Utf8
