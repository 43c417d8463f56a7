import Mathlib.Tactic
import TaskBoard.Time.Timestamp

namespace TaskBoard.Proofs.Calendar

open TaskBoard.Time

lemma sum_monthLengths (leap : Bool) : (monthLengths leap).sum = 365 + leap.toNat := by
  cases leap <;> rfl

lemma daysOfYears_succ (y : ℕ) : daysOfYears (y + 1) = daysOfYears y + (monthLengths (isLeap (y + 1))).sum := by
  have h₁ : 100 ∣ y + 1 → 4 ∣ y + 1 := Nat.dvd_trans (by decide)
  have h₂ : 400 ∣ y + 1 → 100 ∣ y + 1 := Nat.dvd_trans (by decide)
  have hc : y / 100 ≤ 365 * y + y / 4 := by omega
  rw [sum_monthLengths, isLeap, daysOfYears, daysOfYears, Nat.succ_div, Nat.succ_div, Nat.succ_div]
  simp only [beq_eq_decide, bne, ← Nat.dvd_iff_mod_eq_zero]
  by_cases h4 : 4 ∣ y + 1 <;> by_cases h100 : 100 ∣ y + 1 <;> by_cases h400 : 400 ∣ y + 1 <;>
    simp_all <;> omega

lemma daysOfYears_mono {a b : ℕ} (h : a ≤ b) : daysOfYears a ≤ daysOfYears b :=
  monotone_nat_of_le_succ (fun n => by rw [daysOfYears_succ]; omega) h

lemma daysBeforeMonth_eq (year month : ℕ) :
    daysBeforeMonth year month = ((monthLengths (isLeap year)).take (month - 1)).sum :=
  (List.sum_eq_foldl ..).symm

lemma monthAndDay_spec (first : ℕ) (lengths : List ℕ) (rest : ℕ) (h : rest < lengths.sum) :
    ∃ i, ∃ hi : i < lengths.length, ∃ d < lengths[i],
      monthAndDay first lengths rest = (first + i, d + 1) ∧ (lengths.take i).sum + d = rest := by
  induction lengths generalizing first rest with
  | nil => simp at h
  | cons length later ih =>
    rw [monthAndDay]
    split
    case isTrue hlt => exact ⟨0, by simp, rest, hlt, rfl, by simp⟩
    case isFalse hge =>
      obtain ⟨i, hi, d, hd, he, hs⟩ := ih (first + 1) (rest - length) (by simp at h; omega)
      refine ⟨i + 1, by simpa using hi, d, by simpa using hd, by rw [he]; congr 1; omega, ?_⟩
      simp only [List.take_succ_cons, List.sum_cons]
      omega

lemma daysInMonth_succ (year i : ℕ) (hi : i < (monthLengths (isLeap year)).length) :
    daysInMonth year (i + 1) = (monthLengths (isLeap year))[i] := by
  simp [daysInMonth, List.getElem?_eq_getElem hi]

lemma length_monthLengths (leap : Bool) : (monthLengths leap).length = 12 := rfl

lemma ofDay_spec (day : ℕ) : ∃ i, ∃ hi : i < (monthLengths (isLeap (yearsBefore day + 1))).length,
    ∃ d < (monthLengths (isLeap (yearsBefore day + 1)))[i],
      Date.ofDay day = ⟨yearsBefore day + 1, i + 1, d + 1⟩ ∧
      daysOfYears (yearsBefore day) + ((monthLengths (isLeap (yearsBefore day + 1))).take i).sum + d = day := by
  have hlo := daysOfYears_yearsBefore_le day
  have hhi := lt_daysOfYears_yearsBefore day
  rw [daysOfYears_succ] at hhi
  obtain ⟨i, hi, d, hd, he, hs⟩ := monthAndDay_spec 1 (monthLengths (isLeap (yearsBefore day + 1)))
    (day - daysOfYears (yearsBefore day)) (by omega)
  refine ⟨i, hi, d, hd, ?_, by omega⟩
  simp only [Date.ofDay, he, Nat.add_comm 1 i]

lemma toDay_ofDay (day : ℕ) : (Date.ofDay day).toDay = day := by
  obtain ⟨i, hi, d, hd, he, hs⟩ := ofDay_spec day
  rw [he, Date.toDay, daysBeforeMonth_eq]
  simpa using hs

lemma yearsBefore_lt (day : ℕ) (h : day < 3652059) : yearsBefore day < 9999 := by
  by_contra hy
  have hm : daysOfYears 9999 ≤ daysOfYears (yearsBefore day) := daysOfYears_mono (by omega)
  have hle := daysOfYears_yearsBefore_le day
  have hd : daysOfYears 9999 = 3652059 := rfl
  omega

lemma ofDay_isValid (day : ℕ) (h : day < 3652059) : (Date.ofDay day).isValid = true := by
  obtain ⟨i, hi, d, hd, he, _⟩ := ofDay_spec day
  have hy := yearsBefore_lt day h
  rw [length_monthLengths] at hi
  simp only [he, Date.isValid, daysInMonth_succ _ _ hi, Bool.and_eq_true, decide_eq_true_eq]
  omega

def Before (a b : Date) : Prop :=
  a.year < b.year ∨ a.year = b.year ∧ (a.month < b.month ∨ a.month = b.month ∧ a.day < b.day)

lemma before_of_lt {m n : ℕ} (h : m < n) : Before (Date.ofDay m) (Date.ofDay n) := by
  obtain ⟨i, hi, d, hd, hm, hs⟩ := ofDay_spec m
  obtain ⟨j, hj, e, he, hn, ht⟩ := ofDay_spec n
  have hy : yearsBefore m ≤ yearsBefore n := by
    by_contra hlt
    have hle := (daysOfYears_mono (by omega : yearsBefore n + 1 ≤ yearsBefore m)).trans (daysOfYears_yearsBefore_le m)
    have := lt_daysOfYears_yearsBefore n
    omega
  rw [hm, hn, Before]
  rcases Nat.lt_or_eq_of_le hy with hlt | heq
  · exact Or.inl (by simpa using hlt)
  refine Or.inr ⟨by simpa using heq, ?_⟩
  simp only [heq] at hd hs hi
  by_contra hno
  -- Every later month starts after all days of the months before it.
  have hstart : j < i → ((monthLengths (isLeap (yearsBefore n + 1))).take j).sum +
      (monthLengths (isLeap (yearsBefore n + 1)))[j] ≤ ((monthLengths (isLeap (yearsBefore n + 1))).take i).sum := by
    intro hji
    rw [← List.sum_take_succ]
    exact List.monotone_sum_take _ hji
  rcases Nat.lt_trichotomy i j with hij | rfl | hij
  · exact hno (Or.inl (by simpa using hij))
  · simp only [Nat.lt_irrefl, true_and, false_or, not_lt] at hno
    omega
  · have := hstart hij
    omega

end TaskBoard.Proofs.Calendar
