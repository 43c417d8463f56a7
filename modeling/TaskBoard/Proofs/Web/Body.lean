import TaskBoard.Number.Digits
import TaskBoard.Proofs.Outcome
import TaskBoard.Web

namespace TaskBoard.Proofs.Web

open TaskBoard.Web Outcome

def leadingText (body : Body) (limit : ℕ) : String :=
  String.ofList (Text.Utf8.decodeLossy (body.chunks.flatten.take limit))

lemma take_gather {limit taken events : ℕ} {disconnects : Bool} {buffer octets : List UInt8}
    {chunks : List (List UInt8)}
    (h : gather limit disconnects taken buffer chunks = .ok (octets, events)) :
    octets.take limit = (buffer ++ chunks.flatten).take limit := by
  induction chunks generalizing taken buffer with
  | nil =>
    cases disconnects with
    | true => cases h
    | false =>
      cases h
      rw [List.flatten_nil, List.append_nil]
  | cons chunk chunks ih =>
    rw [gather] at h
    rw [List.flatten_cons, ← List.append_assoc]
    split at h
    · rename_i hfull
      rw [Bool.and_eq_true, decide_eq_true_eq] at hfull
      cases h
      rw [List.take_append_of_le_length hfull.2]
    · exact ih h

lemma message_text {body : Body} {limit : ℕ} {m : Message} (h : body.message limit = .ok m) :
    m.text = leadingText body limit := by
  obtain ⟨⟨octets, events⟩, hg, hm⟩ := bind_eq_ok.mp h
  cases hm
  rw [leadingText, take_gather hg, List.nil_append]

lemma exists_message (chunks : List (List UInt8)) (limit : ℕ) : ∃ m, Body.message ⟨chunks, false⟩ limit = .ok m := by
  have hgather (taken : ℕ) (buffer : List UInt8) : ∃ r, gather limit false taken buffer chunks = .ok r := by
    induction chunks generalizing taken buffer with
    | nil => exact ⟨_, rfl⟩
    | cons chunk chunks ih =>
      rw [gather]
      split
      · exact ⟨_, rfl⟩
      · exact ih _ _
  obtain ⟨r, hr⟩ := hgather 0 []
  exact ⟨_, bind_eq_ok.mpr ⟨r, hr, rfl⟩⟩

section Length

open Text Utf8

def pending (u : Option Unfinished) : ℕ := (finish u).length

lemma length_begin (b : UInt8) : (begin b).1.length + pending (begin b).2 = 1 := by
  simp only [begin]
  split_ifs <;> rfl

lemma length_step (u : Option Unfinished) (b : UInt8) : (step u b).1.length + pending (step u b).2 ≤ pending u + 1 := by
  have hb := length_begin b
  cases u with
  | none => exact hb.le
  | some u =>
    rw [show pending (some u) = 1 from rfl]
    simp only [step]
    split_ifs
    · exact Nat.le_succ 1
    · exact Nat.le_succ 1
    · simp only [List.length_cons]
      omega

lemma length_run (u : Option Unfinished) (octets : List UInt8) :
    (run u octets).1.length + pending (run u octets).2 ≤ pending u + octets.length := by
  induction octets generalizing u with
  | nil => simp [run]
  | cons b octets ih =>
    have hs := length_step u b
    have hr := ih (step u b).2
    simp only [run, List.length_append, List.length_cons]
    omega

lemma length_decodeLossy_le (octets : List UInt8) : (decodeLossy octets).length ≤ octets.length := by
  have h := length_run none octets
  rw [decodeLossy, List.length_map, pieces, List.length_append]
  exact h.trans (by simp [pending, finish])

lemma length_trim_le (s : List Char) : (trim s).length ≤ s.length := by
  have h (s : List Char) : (s.dropWhile isBlank).length ≤ s.length := (List.dropWhile_sublist _).length_le
  calc (trim s).length ≤ (trimStart s).length := by
        rw [trim, trimEnd, List.length_reverse]
        exact (h _).trans_eq List.length_reverse
    _ ≤ s.length := h s

lemma length_leadingText_le (body : Body) (limit : ℕ) : (trim (leadingText body limit).toList).length ≤ limit := by
  calc (trim (leadingText body limit).toList).length ≤ (decodeLossy (body.chunks.flatten.take limit)).length := by
        rw [leadingText, String.toList_ofList]
        exact length_trim_le _
    _ ≤ (body.chunks.flatten.take limit).length := length_decodeLossy_le _
    _ ≤ limit := List.length_take_le _ _

end Length

end TaskBoard.Proofs.Web
