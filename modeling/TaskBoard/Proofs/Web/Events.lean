import Mathlib.Order.Bounds.Basic
import Mathlib.Tactic
import TaskBoard.Web

/-!
Reading a body by its events comes to the same as cutting it off at the limit: as few events are taken as hold enough
octets, and neither how the octets are cut into chunks nor what comes later makes a difference.
-/

namespace TaskBoard.Proofs.Web

open TaskBoard.Web

def decoded (octets : List UInt8) : String := String.ofList (Text.Utf8.decodeLossy octets)

def Fills (limit : ℕ) (buffer : List UInt8) (chunks : List (List UInt8)) (k : ℕ) : Prop :=
  IsLeast {j | limit ≤ (buffer ++ (chunks.take j).flatten).length} k

section Gathering

variable {limit taken : ℕ} {disconnects : Bool} {buffer chunk : List UInt8} {chunks : List (List UInt8)}

lemma gather_full (hb : buffer.length < limit) (h : limit ≤ (buffer ++ chunk).length) :
    gather limit disconnects taken buffer (chunk :: chunks) = .ok (buffer ++ chunk, taken + 1) := by
  have hne : chunk.isEmpty = false := by
    cases chunk with
    | nil => simp at h; omega
    | cons b chunk => rfl
  rw [gather, hne]
  exact if_pos (by simpa using h)

lemma gather_more (h : (buffer ++ chunk).length < limit) : gather limit disconnects taken buffer (chunk :: chunks) =
    gather limit disconnects (taken + 1) (buffer ++ chunk) chunks := by
  have hnot : ¬ (!chunk.isEmpty && decide (limit ≤ (buffer ++ chunk).length)) = true := by
    rw [Bool.and_eq_true, decide_eq_true_eq]
    omega
  rw [gather, if_neg hnot]

lemma fills_first (hb : buffer.length < limit) (h : limit ≤ (buffer ++ chunk).length) :
    Fills limit buffer (chunk :: chunks) 1 := by
  refine ⟨?_, fun j hj => ?_⟩
  · change limit ≤ (buffer ++ [chunk].flatten).length
    rwa [List.flatten_singleton]
  · cases j with
    | zero =>
      change limit ≤ (buffer ++ []).length at hj
      rw [List.append_nil] at hj
      omega
    | succ j => omega

lemma Fills.next {k : ℕ} (h : Fills limit (buffer ++ chunk) chunks k) (hb : buffer.length < limit) :
    Fills limit buffer (chunk :: chunks) (k + 1) := by
  obtain ⟨hfill, hleast⟩ := h
  have hassoc (j : ℕ) :
      buffer ++ ((chunk :: chunks).take (j + 1)).flatten = buffer ++ chunk ++ (chunks.take j).flatten := by simp
  refine ⟨?_, fun j hj => ?_⟩
  · change limit ≤ (buffer ++ ((chunk :: chunks).take (k + 1)).flatten).length
    rw [hassoc]
    exact hfill
  · change limit ≤ (buffer ++ ((chunk :: chunks).take j).flatten).length at hj
    cases j with
    | zero =>
      rw [List.take_zero, List.flatten_nil, List.append_nil] at hj
      omega
    | succ j =>
      rw [hassoc] at hj
      exact Nat.succ_le_succ (hleast hj)

lemma gather_of_enough (taken : ℕ) (hb : buffer.length < limit) (h : limit ≤ (buffer ++ chunks.flatten).length) :
    ∃ k, Fills limit buffer chunks k ∧ ∀ later disconnects,
      gather limit disconnects taken buffer (chunks.take k ++ later) =
        .ok (buffer ++ (chunks.take k).flatten, taken + k) := by
  induction chunks generalizing taken buffer with
  | nil =>
    rw [List.flatten_nil, List.append_nil] at h
    omega
  | cons chunk chunks ih =>
    rcases Nat.lt_or_ge (buffer ++ chunk).length limit with hmore | hfull
    · rw [List.flatten_cons, ← List.append_assoc] at h
      obtain ⟨k, hk, hgather⟩ := ih (taken + 1) hmore h
      refine ⟨k + 1, hk.next hb, fun later disconnects => ?_⟩
      rw [List.take_succ_cons, List.cons_append, gather_more hmore, hgather, List.flatten_cons, List.append_assoc,
        Nat.add_right_comm, Nat.add_assoc]
    · refine ⟨1, fills_first hb hfull, fun later disconnects => ?_⟩
      rw [List.take_succ_cons, List.take_zero, List.singleton_append, gather_full hb hfull, List.flatten_singleton]

lemma gather_of_short (h : (buffer ++ chunks.flatten).length < limit) :
    gather limit disconnects taken buffer chunks = if disconnects then .error (.ofReason .disconnected)
      else .ok (buffer ++ chunks.flatten, taken + chunks.length + 1) := by
  induction chunks generalizing taken buffer with
  | nil => rw [gather, List.flatten_nil, List.append_nil, List.length_nil, Nat.add_zero]
  | cons chunk chunks ih =>
    rw [List.flatten_cons, ← List.append_assoc] at h
    have hmore : (buffer ++ chunk).length < limit := by
      rw [List.length_append] at h
      omega
    rw [gather_more hmore, ih h, List.flatten_cons, List.append_assoc, List.length_cons, Nat.add_right_comm taken 1,
      ← Nat.add_assoc]

end Gathering

section Reading

variable {limit : ℕ} {chunks : List (List UInt8)}

lemma take_of_fills {k : ℕ} (h : Fills limit [] chunks k) :
    (chunks.take k).flatten.take limit = chunks.flatten.take limit := by
  have hfill : limit ≤ (chunks.take k).flatten.length := h.1
  have hmore : ((chunks.take k).flatten ++ (chunks.drop k).flatten).take limit = (chunks.take k).flatten.take limit :=
    List.take_append_of_le_length hfill
  rw [← hmore, ← List.flatten_append, List.take_append_drop]

lemma message_of_enough (hl : 1 ≤ limit) (h : limit ≤ chunks.flatten.length) : ∃ k, Fills limit [] chunks k ∧
    ∀ later disconnects, Body.message ⟨chunks.take k ++ later, disconnects⟩ limit =
      .ok ⟨decoded (chunks.flatten.take limit), k⟩ := by
  have hempty : ([] : List UInt8).length < limit := hl
  obtain ⟨k, hk, hgather⟩ := gather_of_enough 0 hempty h
  refine ⟨k, hk, fun later disconnects => ?_⟩
  rw [Body.message, hgather, List.nil_append, Nat.zero_add, ← take_of_fills hk]
  rfl

lemma message_of_short (disconnects : Bool) (h : chunks.flatten.length < limit) :
    Body.message ⟨chunks, disconnects⟩ limit = if disconnects then .error (.ofReason .disconnected)
      else .ok ⟨decoded chunks.flatten, chunks.length + 1⟩ := by
  have hshort : ([] ++ chunks.flatten).length < limit := h
  rw [Body.message, gather_of_short hshort]
  cases disconnects with
  | true => rfl
  | false =>
    have hall : chunks.flatten.take limit = chunks.flatten := List.take_of_length_le h.le
    simp only [Bool.false_eq_true, if_false, List.nil_append, Nat.zero_add, bind, Except.bind, hall]
    rfl

lemma text_eq (hl : 1 ≤ limit) (chunks : List (List UInt8)) (disconnects : Bool) :
    (Body.message ⟨chunks, disconnects⟩ limit).map Message.text =
      if disconnects ∧ (chunks.flatten.take limit).length < limit then .error (.ofReason .disconnected)
      else .ok (decoded (chunks.flatten.take limit)) := by
  rcases Nat.lt_or_ge chunks.flatten.length limit with h | h
  · have hall : chunks.flatten.take limit = chunks.flatten := List.take_of_length_le h.le
    rw [message_of_short disconnects h, hall]
    cases disconnects with
    | true => exact (if_pos ⟨rfl, h⟩).symm
    | false => exact (if_neg fun hd => Bool.false_ne_true hd.1).symm
  · obtain ⟨k, -, hm⟩ := message_of_enough hl h
    have hself := hm (chunks.drop k) disconnects
    rw [List.take_append_drop] at hself
    rw [hself, List.length_take, Nat.min_eq_left h, if_neg (by simp)]
    rfl

/--
A body with at least as many octets as are read gives the text of its first octets after the fewest chunks that hold
them, whatever follows. A shorter one gives the text of all its octets at its end, and fails if the client goes away
before. Bodies with the same first octets and the same ending give the same.
-/
theorem message_decided (hl : 1 ≤ limit) (chunks : List (List UInt8)) :
    (limit ≤ chunks.flatten.length → ∃ k, IsLeast {j | limit ≤ (chunks.take j).flatten.length} k ∧
      (∀ disconnects, Body.message ⟨chunks, disconnects⟩ limit = .ok ⟨decoded (chunks.flatten.take limit), k⟩) ∧
        ∀ later disconnects, Body.message ⟨chunks.take k ++ later, disconnects⟩ limit =
          .ok ⟨decoded (chunks.flatten.take limit), k⟩) ∧
    (chunks.flatten.length < limit →
      Body.message ⟨chunks, false⟩ limit = .ok ⟨decoded chunks.flatten, chunks.length + 1⟩ ∧
        Body.message ⟨chunks, true⟩ limit = .error (.ofReason .disconnected)) ∧
    ∀ chunks' disconnects, chunks'.flatten.take limit = chunks.flatten.take limit →
      (Body.message ⟨chunks', disconnects⟩ limit).map Message.text =
        (Body.message ⟨chunks, disconnects⟩ limit).map Message.text := by
  refine ⟨fun h => ?_, fun h => ⟨message_of_short false h, message_of_short true h⟩, fun chunks' disconnects h => ?_⟩
  · obtain ⟨k, hk, hm⟩ := message_of_enough hl h
    refine ⟨k, hk, fun disconnects => ?_, hm⟩
    have hself := hm (chunks.drop k) disconnects
    rwa [List.take_append_drop] at hself
  · rw [text_eq hl, text_eq hl, h]

def interrupted : List (List UInt8) := [[0x61, 0xC3], [], [0xA9, 0x62], [0x63]]

theorem message_decided_interrupted : 1 ≤ 3 ∧ 3 ≤ interrupted.flatten.length ∧
    Body.message ⟨interrupted, true⟩ 3 = .ok ⟨"aé", 3⟩ := by
  have hl : 3 ≤ interrupted.flatten.length := by decide
  obtain ⟨k, hk, hm, -⟩ := (message_decided (by decide : 1 ≤ 3) interrupted).1 hl
  have hthree : k = 3 := by
    apply hk.unique
    refine ⟨by decide, fun j hj => ?_⟩
    by_contra hlt
    have hnone : ∀ j < 3, ¬ 3 ≤ (interrupted.take j).flatten.length := by decide
    exact hnone j (Nat.not_le.mp hlt) hj
  have htext : decoded (interrupted.flatten.take 3) = "aé" := by decide
  rw [hm true, hthree, htext]
  exact ⟨by decide, hl, rfl⟩

end Reading

end TaskBoard.Proofs.Web
