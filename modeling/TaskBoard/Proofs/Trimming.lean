import Mathlib.Data.List.DropRight
import Mathlib.Tactic
import TaskBoard.Number.Digits

namespace TaskBoard.Proofs.Trimming

open TaskBoard.Text

def Blank (s : List Char) : Prop := ∀ c ∈ s, isBlank c = true

instance (s : List Char) : Decidable (Blank s) := decidable_of_iff (s.all isBlank = true) List.all_eq_true

def Solid (s : List Char) : Prop := (∀ c ∈ s.head?, isBlank c = false) ∧ ∀ c ∈ s.getLast?, isBlank c = false

def Leaves (raw s : List Char) : Prop :=
  ∃ before after, raw = before ++ s ++ after ∧ Blank before ∧ Blank after ∧ Solid s

section Ends

variable {s before after : List Char}

lemma trimStart_of_solid (h : ∀ c ∈ s.head?, isBlank c = false) : trimStart s = s := by
  cases s with
  | nil => rfl
  | cons c s => exact List.dropWhile_cons_of_neg (by simp [h c rfl])

lemma trimEnd_of_blank (h : Blank after) : trimEnd (s ++ after) = trimEnd s := by
  have hr : ∀ c ∈ after.reverse, isBlank c = true := fun c hc => h c (List.mem_reverse.mp hc)
  rw [trimEnd, List.reverse_append, List.dropWhile_append_of_pos hr, trimEnd]

lemma trimEnd_of_solid (h : ∀ c ∈ s.getLast?, isBlank c = false) : trimEnd s = s := by
  refine List.rdropWhile_eq_self_iff.mpr fun hs => ?_
  simp [h _ (List.getLast?_eq_some_getLast hs)]

lemma trim_of_solid (hb : Blank before) (ha : Blank after) (h : Solid s) : trim (before ++ s ++ after) = s := by
  have hstart : trimStart (before ++ s ++ after) = trimStart (s ++ after) := by
    rw [List.append_assoc]
    exact List.dropWhile_append_of_pos hb
  rw [trim, hstart]
  cases s with
  | nil =>
    have hnil : trimStart ([] ++ after) = [] := List.dropWhile_eq_nil_iff.mpr ha
    rw [hnil]
    rfl
  | cons c s => rw [trimStart_of_solid (s := c :: s ++ after) h.1, trimEnd_of_blank ha, trimEnd_of_solid h.2]

lemma not_isBlank_of_head? {c : Char} (h : c ∈ (s.dropWhile isBlank).head?) : isBlank c = false := by
  have hnot := List.head?_dropWhile_not isBlank s
  rw [Option.mem_def.mp h] at hnot
  simpa using hnot

lemma solid_trim (s : List Char) : Solid (trim s) := by
  constructor
  · intro c hc
    -- What is cut off at the end leaves the first character where it was.
    obtain ⟨rest, hrest⟩ := List.rdropWhile_prefix isBlank (trimStart s)
    have hstart : c ∈ (trimStart s).head? := by
      rw [← hrest]
      exact List.mem_head?_append_of_mem_head? hc
    exact not_isBlank_of_head? hstart
  · intro c hc
    rw [trim, trimEnd, List.getLast?_reverse] at hc
    exact not_isBlank_of_head? hc

end Ends

theorem leaves_iff {raw s : List Char} : Leaves raw s ↔ s = trim raw := by
  constructor
  · rintro ⟨before, after, rfl, hb, ha, hs⟩
    exact (trim_of_solid hb ha hs).symm
  · rintro rfl
    refine ⟨raw.takeWhile isBlank, (trimStart raw).rtakeWhile isBlank, ?_, ?_, ?_, solid_trim raw⟩
    · have hend : trim raw ++ (trimStart raw).rtakeWhile isBlank = trimStart raw := List.rdropWhile_append_rtakeWhile
      rw [List.append_assoc, hend, trimStart, List.takeWhile_append_dropWhile]
    · exact fun c hc => List.mem_takeWhile_imp hc
    · exact fun c hc => List.mem_rtakeWhile_imp hc

end TaskBoard.Proofs.Trimming
