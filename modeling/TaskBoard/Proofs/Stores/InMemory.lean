import TaskBoard.Proofs.Entries
import TaskBoard.Store.Basic

namespace TaskBoard.Proofs.Stores.InMemory

open TaskBoard.Entries Proofs.Entries

lemma exists_free (m : Memory) : ∃ n ∈ List.range' m.next (m.tasks.length + 1), hasKey (n : ℤ) m.tasks = false := by
  by_contra! h
  have hsub : (List.range' m.next (m.tasks.length + 1)).map (Nat.cast : ℕ → ℤ) ⊆ keys m.tasks := by
    intro i hi
    obtain ⟨n, hn, rfl⟩ := List.mem_map.mp hi
    exact hasKey_iff.mp (by simpa using h n hn)
  have hnodup : ((List.range' m.next (m.tasks.length + 1)).map (Nat.cast : ℕ → ℤ)).Nodup :=
    (List.nodup_range' ..).map Nat.cast_injective
  have hle := (hnodup.subperm hsub).length_le
  simp [keys] at hle

lemma find?_freeId (m : Memory) :
    ((List.range' m.next (m.tasks.length + 1)).find? fun (n : ℕ) => !hasKey (n : ℤ) m.tasks) = some m.freeId := by
  cases hf : (List.range' m.next (m.tasks.length + 1)).find? fun (n : ℕ) => !hasKey (n : ℤ) m.tasks with
  | none =>
    obtain ⟨n, hn, hfree⟩ := exists_free m
    rw [List.find?_eq_none] at hf
    simpa [hfree] using hf n hn
  | some n => rw [Memory.freeId, hf, Option.getD_some]

lemma freeId_spec (m : Memory) : (m.freeId : ℤ) ∉ keys m.tasks ∧ m.next ≤ m.freeId ∧
    ∀ n : ℕ, m.next ≤ n → n < m.freeId → (n : ℤ) ∈ keys m.tasks := by
  have hf := find?_freeId m
  rw [List.find?_range'_eq_some] at hf
  obtain ⟨hfree, hmem, hbelow⟩ := hf
  refine ⟨fun hk => ?_, ?_, fun j hj hjn => hasKey_iff.mp ?_⟩
  · simp [hasKey_iff.mpr hk] at hfree
  · exact (List.mem_range'_1.mp hmem).1
  · simpa using hbelow j hj hjn

lemma freeId_le (m : Memory) : m.freeId ≤ m.next + m.tasks.length :=
  Nat.le_of_lt_succ (List.mem_range'_1.mp (List.mem_of_find?_eq_some (find?_freeId m))).2

lemma freeId_notMem (m : Memory) : (m.freeId : ℤ) ∉ keys m.tasks := (freeId_spec m).1

lemma add_new {t : Task} (h : t.id = none) (m : Memory) : m.add t = ({ t with id := some (m.freeId : ℤ) },
    ⟨m.tasks ++ [((m.freeId : ℤ), { t with id := some (m.freeId : ℤ) })], m.freeId + 1⟩) := by
  simp only [Memory.add, h, assign_of_notMem (freeId_notMem m)]

lemma add_own {t : Task} {id : ℤ} (h : t.id = some id) (m : Memory) :
    m.add t = (t, { m with tasks := assign id t m.tasks }) := by
  simp only [Memory.add, h]

def draw (m : Memory) : Option ℕ × Memory :=
  (if hasKey (m.next : ℤ) m.tasks then none else some m.next, { m with next := m.next + 1 })

inductive Search : Memory → ℕ → ℕ → Memory → Prop
  | last {m m' : Memory} {n : ℕ} (h : draw m = (some n, m')) : Search m 1 n m'
  | more {m m₁ m' : Memory} {turns n : ℕ} (h : draw m = (none, m₁)) (hs : Search m₁ turns n m') :
    Search m (turns + 1) n m'

section Searching

variable {m m' : Memory} {turns n : ℕ}

lemma draw_of_notMem (h : (m.next : ℤ) ∉ keys m.tasks) : draw m = (some m.next, { m with next := m.next + 1 }) := by
  rw [draw, if_neg (hasKey_iff.not.mpr h)]

lemma draw_of_mem (h : (m.next : ℤ) ∈ keys m.tasks) : draw m = (none, { m with next := m.next + 1 }) := by
  rw [draw, if_pos (hasKey_iff.mpr h)]

lemma Search.spec (h : Search m turns n m') : m' = { m with next := n + 1 } ∧ m.next ≤ n ∧ turns = n + 1 - m.next ∧
    (n : ℤ) ∉ keys m.tasks ∧ ∀ i : ℕ, m.next ≤ i → i < n → (i : ℤ) ∈ keys m.tasks := by
  induction h with
  | @last m m' n h =>
    by_cases hk : (m.next : ℤ) ∈ keys m.tasks
    · cases (draw_of_mem hk).symm.trans h
    · cases (draw_of_notMem hk).symm.trans h
      exact ⟨rfl, le_rfl, by omega, hk, by omega⟩
  | @more m m₁ m' turns n h _ ih =>
    by_cases hk : (m.next : ℤ) ∈ keys m.tasks
    · cases (draw_of_mem hk).symm.trans h
      obtain ⟨hm, hle, hturns, hfree, hbelow⟩ := ih
      have hle : m.next + 1 ≤ n := hle
      have hturns : turns = n + 1 - (m.next + 1) := hturns
      refine ⟨hm, by omega, by omega, hfree, fun i hi hin => ?_⟩
      rcases hi.eq_or_lt with rfl | hi
      · exact hk
      · exact hbelow i hi hin
    · cases (draw_of_notMem hk).symm.trans h

lemma search_of_keys (hn : m.next + turns = n) (hfree : (n : ℤ) ∉ keys m.tasks)
    (hbelow : ∀ i : ℕ, m.next ≤ i → i < n → (i : ℤ) ∈ keys m.tasks) :
    Search m (turns + 1) n { m with next := n + 1 } := by
  induction turns generalizing m with
  | zero =>
    obtain rfl : m.next = n := hn
    exact .last (draw_of_notMem hfree)
  | succ turns ih =>
    refine .more (draw_of_mem (hbelow m.next le_rfl (by omega))) ?_
    apply @ih { m with next := m.next + 1 }
    · rw [← hn]
      exact Nat.succ_add_eq_add_succ m.next turns
    · exact hfree
    · exact fun i hi hin => hbelow i (Nat.le_of_succ_le hi) hin

lemma search_freeId (m : Memory) :
    Search m (m.freeId - m.next + 1) m.freeId { m with next := m.freeId + 1 } := by
  obtain ⟨hfree, hle, hbelow⟩ := freeId_spec m
  exact search_of_keys (Nat.add_sub_cancel' hle) hfree hbelow

lemma Search.eq_freeId (h : Search m turns n m') : n = m.freeId := by
  obtain ⟨-, hle, -, hfree, hbelow⟩ := h.spec
  obtain ⟨hfree', hle', hbelow'⟩ := freeId_spec m
  rcases lt_trichotomy n m.freeId with hlt | heq | hlt
  · exact absurd (hbelow' n hle hlt) hfree
  · exact heq
  · exact absurd (hbelow m.freeId hle' hlt) hfree'

lemma isLeast_freeId (m : Memory) : IsLeast {i : ℤ | (m.next : ℤ) ≤ i ∧ i ∉ keys m.tasks} m.freeId := by
  obtain ⟨hfree, hle, hbelow⟩ := freeId_spec m
  refine ⟨⟨Int.ofNat_le.mpr hle, hfree⟩, ?_⟩
  rintro i ⟨hi, hik⟩
  obtain ⟨j, rfl⟩ := Int.eq_ofNat_of_zero_le ((Int.natCast_nonneg m.next).trans hi)
  by_contra! hlt
  exact hik (hbelow j (Int.ofNat_le.mp hi) (Int.ofNat_lt.mp hlt))

/--
Whatever the keys are, a search for an id comes to an end, in one way and after at most one turn more than there are
keys. It finds the least number from the counter on that is no key and leaves the counter behind it; a task without an
id is stored under this number.
-/
theorem search_ends (m : Memory) : ∃ turns n, Search m turns n { m with next := n + 1 } ∧
    (∀ turns' n' m', Search m turns' n' m' → turns' = turns ∧ n' = n ∧ m' = { m with next := n + 1 }) ∧
    IsLeast {i : ℤ | (m.next : ℤ) ≤ i ∧ i ∉ keys m.tasks} n ∧ turns ≤ m.tasks.length + 1 ∧
    ∀ t : Task, t.id = none → m.add t = ({ t with id := some (n : ℤ) },
      ⟨m.tasks ++ [((n : ℤ), { t with id := some (n : ℤ) })], n + 1⟩) := by
  have hbound := freeId_le m
  refine ⟨_, m.freeId, search_freeId m, fun turns' n' m' h => ?_, isLeast_freeId m, by omega, fun t ht => add_new ht m⟩
  obtain rfl := h.eq_freeId
  obtain ⟨hm, hle, hturns, -⟩ := h.spec
  exact ⟨by omega, rfl, hm⟩

end Searching

lemma modify_of_absent {m : Memory} {id : ℤ} (h : id ∉ keys m.tasks) (change : Change) :
    m.modify id change = .error (.taskNotFound id) := by
  simp only [Memory.modify, Memory.get?, lookup_eq_none_iff.mpr h]

lemma modify_of_present {m : Memory} {id : ℤ} {t : Task} (h : m.tasks.lookup id = some t) (change : Change) :
    m.modify id change = (change t).map fun changed =>
      ({ changed with id := some id }, { m with tasks := assign id { changed with id := some id } m.tasks }) := by
  simp only [Memory.modify, Memory.get?, h]
  cases change t <;> rfl

end TaskBoard.Proofs.Stores.InMemory
