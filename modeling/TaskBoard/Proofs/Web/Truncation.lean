import TaskBoard.Proofs.Octets.Decoding
import TaskBoard.Proofs.Web.Body
import TaskBoard.Proofs.Web.Events

/-!
Cutting a body off respects characters: what is read are the characters that fit, and one replacement character if a
part of the next one is left over.
-/

namespace TaskBoard.Proofs.Web

open TaskBoard.Text TaskBoard.Text.Utf8 TaskBoard.Web Octets.Utf8

lemma encodeChars_append (p q : List Char) : encodeChars (p ++ q) = encodeChars p ++ encodeChars q :=
  List.flatMap_append

lemma encodeChars_cons (c : Char) (s : List Char) : encodeChars (c :: s) = String.utf8EncodeChar c ++ encodeChars s :=
  List.flatMap_cons

section Prefixes

variable {limit : ℕ} {p s : List Char}

structure LongestFitting (limit : ℕ) (s p : List Char) : Prop where
  start : p <+: s
  fits : (encodeChars p).length ≤ limit
  longest : ∀ p', p' <+: s → (encodeChars p').length ≤ limit → p' <+: p

lemma exists_overflowing (h : limit < (encodeChars s).length) : ∃ p c q, s = p ++ c :: q ∧
    (encodeChars p).length ≤ limit ∧ limit < (encodeChars p).length + (String.utf8EncodeChar c).length := by
  induction s generalizing limit with
  | nil => cases h
  | cons c s ih =>
    rcases Nat.lt_or_ge limit (String.utf8EncodeChar c).length with hfirst | hfirst
    · exact ⟨[], c, s, rfl, Nat.zero_le _, by simpa [encodeChars] using hfirst⟩
    · rw [encodeChars_cons, List.length_append] at h
      obtain ⟨p, d, q, rfl, hfits, hnext⟩ := ih (Nat.sub_lt_left_of_lt_add hfirst h)
      refine ⟨c :: p, d, q, rfl, ?_, ?_⟩ <;> rw [encodeChars_cons, List.length_append] <;> omega

lemma longestFitting_of_overflowing {c : Char} {q : List Char} (hfits : (encodeChars p).length ≤ limit)
    (hnext : limit < (encodeChars p).length + (String.utf8EncodeChar c).length) :
    LongestFitting limit (p ++ c :: q) p := by
  refine ⟨List.prefix_append _ _, hfits, fun p' hp' hfits' => ?_⟩
  rcases Nat.lt_or_ge p.length p'.length with hlonger | hshorter
  · -- A longer one also holds the character that does not fit.
    have hmore : p ++ [c] <+: p ++ c :: q := ⟨q, by simp⟩
    obtain ⟨r, rfl⟩ := List.prefix_of_prefix_length_le hmore hp' (by simpa using hlonger)
    simp only [encodeChars_append, encodeChars_cons, List.length_append] at hfits'
    omega
  · exact List.prefix_of_prefix_length_le hp' (List.prefix_append _ _) hshorter

lemma decodeLossy_take (h : limit < (encodeChars s).length) : ∃ p, LongestFitting limit s p ∧
    decodeLossy ((encodeChars s).take limit) = p ++ if (encodeChars p).length < limit then [replacement] else [] := by
  obtain ⟨p, c, q, rfl, hfits, hnext⟩ := exists_overflowing h
  refine ⟨p, longestFitting_of_overflowing hfits hnext, ?_⟩
  rw [encodeChars_append, encodeChars_cons, List.take_append, List.take_of_length_le hfits,
    List.take_append_of_le_length (by omega), decodeLossy_append]
  congr 1
  split_ifs with hpart
  · exact decodeLossy_cut (by omega) (by omega)
  · rw [Nat.sub_eq_zero_of_le (Nat.not_lt.mp hpart)]
    rfl

end Prefixes

section Truncating

variable {limit : ℕ} {chunks : List (List UInt8)} {disconnects : Bool}

lemma exists_decoded (hl : 1 ≤ limit) (h : disconnects = true → limit ≤ chunks.flatten.length) :
    ∃ m, Body.message ⟨chunks, disconnects⟩ limit = .ok m ∧ m.text = decoded (chunks.flatten.take limit) := by
  have htext := text_eq hl chunks disconnects
  have hcomplete : ¬ (disconnects = true ∧ (chunks.flatten.take limit).length < limit) := by
    rintro ⟨hd, hshort⟩
    rw [List.length_take, Nat.min_eq_left (h hd)] at hshort
    exact Nat.lt_irrefl _ hshort
  rw [if_neg hcomplete] at htext
  cases hm : Body.message ⟨chunks, disconnects⟩ limit with
  | error e =>
    rw [hm] at htext
    cases htext
  | ok m =>
    rw [hm] at htext
    exact ⟨m, rfl, Except.ok.inj htext⟩

def ReadFrom (c : Char) (octets : List UInt8) : Prop :=
  octets ≠ [] ∧ (octets = String.utf8EncodeChar c ∨ c = replacement)

lemma exists_parts (octets : List UInt8) :
    ∃ parts, parts.flatten = octets ∧ List.Forall₂ ReadFrom (decodeLossy octets) parts := by
  obtain ⟨hall, hne⟩ := pieces_origins octets
  refine ⟨(pieces octets).map origin, hall, ?_⟩
  rw [decodeLossy, List.forall₂_map_left_iff, List.forall₂_map_right_iff, List.forall₂_same]
  intro p hp
  refine ⟨hne p hp, ?_⟩
  cases p with
  | char c size => exact Or.inl rfl
  | broken octets flaw => exact Or.inr rfl

/--
What is read of a body has at most as many characters as octets are read, none of them a surrogate; each is written
with its own octets of the body or stands for a broken sequence. Of a text in UTF-8 these are all characters, or the
longest start that fits and a replacement character for what is left of the limit.
-/
theorem message_truncated (hl : 1 ≤ limit) (chunks : List (List UInt8)) (disconnects : Bool)
    (h : disconnects = true → limit ≤ chunks.flatten.length) :
    ∃ m, Body.message ⟨chunks, disconnects⟩ limit = .ok m ∧ m.text.length ≤ limit ∧
      (∀ c ∈ m.text.toList, ¬ (0xD800 ≤ c.toNat ∧ c.toNat ≤ 0xDFFF)) ∧
      (∃ parts, parts.flatten = chunks.flatten.take limit ∧ List.Forall₂ ReadFrom m.text.toList parts) ∧
      ∀ s, chunks.flatten = Utf8.encode s →
        ((Utf8.encode s).length ≤ limit → m.text = s) ∧
        (limit < (Utf8.encode s).length → ∃ p, LongestFitting limit s.toList p ∧
          m.text.toList = p ++ if (encodeChars p).length < limit then [replacement] else []) := by
  obtain ⟨m, hm, htext⟩ := exists_decoded hl h
  have hchars : m.text.toList = decodeLossy (chunks.flatten.take limit) := by
    rw [htext, decoded, String.toList_ofList]
  refine ⟨m, hm, ?_, ?_, ?_, fun s hs => ⟨fun hfits => ?_, fun hmore => ?_⟩⟩
  · rw [← String.length_toList, hchars]
    exact (length_decodeLossy_le _).trans (List.length_take_le _ _)
  · rintro c - ⟨hlow, hhigh⟩
    rcases c.valid with hc | hc
    · exact Nat.lt_irrefl _ (hc.trans_le hlow)
    · exact Nat.lt_irrefl _ (hc.1.trans_le hhigh)
  · rw [hchars]
    exact exists_parts _
  · rw [htext, hs, List.take_of_length_le hfits, decoded, Utf8.encode, decodeLossy_encodeChars, String.ofList_toList]
  · rw [hchars, hs]
    exact decodeLossy_take hmore

def priced : List (List UInt8) := [[0x35, 0x20, 0xE2, 0x82], [0xAC, 0x21]]

theorem message_truncated_priced : 1 ≤ 4 ∧ 4 ≤ priced.flatten.length ∧ priced.flatten = Utf8.encode "5 €!" ∧
    ∃ m, Body.message ⟨priced, true⟩ 4 = .ok m ∧ m.text.length ≤ 4 ∧ ∃ p, LongestFitting 4 "5 €!".toList p ∧
      m.text.toList = p ++ if (encodeChars p).length < 4 then [replacement] else [] := by
  have hlength : 4 ≤ priced.flatten.length := by decide
  have hs : priced.flatten = Utf8.encode "5 €!" := by decide
  obtain ⟨m, hm, hshort, -, -, htext⟩ := message_truncated (by decide : 1 ≤ 4) priced true fun _ => hlength
  exact ⟨by decide, hlength, hs, m, hm, hshort, (htext _ hs).2 (by decide)⟩

end Truncating

end TaskBoard.Proofs.Web
