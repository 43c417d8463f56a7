import TaskBoard.Proofs.Stores.Counter

/-! Which seeds a store in memory keeps as a whole: those with no id that the counter gave to an earlier task. -/

namespace TaskBoard.Proofs.Stores.Seeding

open TaskBoard.Entries Proofs.Entries

def given (seed : List Task) : List ℤ := (tickets (adds seed) ⟨.memory {}, []⟩).map Prod.fst

def owned (seed : List Task) : List ℤ := seed.filterMap Task.id

def nameless (seed : List Task) : List Task := seed.filter fun t => t.id.isNone

structure Lossless (seed : List Task) : Prop where
  length : (Memory.ofTasks seed).tasks.length = seed.length
  own : ∀ t ∈ seed, ∀ id, t.id = some id → (Memory.ofTasks seed).get? id = some t
  named : List.Forall₂ (fun t id => (Memory.ofTasks seed).get? id = some { t with id := some id })
    (nameless seed) (given seed)
  apart : (given seed).Disjoint (owned seed)

section Concat

variable {seed : List Task} {t : Task} {id : ℤ}

lemma ofTasks_concat (seed : List Task) (t : Task) :
    Memory.ofTasks (seed ++ [t]) = ((Memory.ofTasks seed).add t).2 := by
  rw [Memory.ofTasks, List.foldl_append]
  rfl

lemma given_append (xs ys : List Task) :
    given (xs ++ ys) = given xs ++ (tickets (adds ys) (seeded xs [])).map Prod.fst := by
  rw [given, adds, List.map_append, tickets_append, List.map_append, seeded_eq]
  rfl

lemma given_own (h : t.id = some id) : given (seed ++ [t]) = given seed := by
  rw [given_append, adds, List.map_singleton, tickets, tickets_own h]
  exact List.append_nil _

lemma given_new (h : t.id = none) : given (seed ++ [t]) = given seed ++ [((Memory.ofTasks seed).freeId : ℤ)] := by
  rw [given_append, adds, List.map_singleton, tickets, seeded, tickets_new h]
  rfl

lemma owned_own (h : t.id = some id) : owned (seed ++ [t]) = owned seed ++ [id] := by
  simp [owned, h]

lemma owned_new (h : t.id = none) : owned (seed ++ [t]) = owned seed := by
  simp [owned, h]

lemma nameless_own (h : t.id = some id) : nameless (seed ++ [t]) = nameless seed := by
  simp [nameless, h]

lemma nameless_new (h : t.id = none) : nameless (seed ++ [t]) = nameless seed ++ [t] := by
  simp [nameless, h]

end Concat

def Untaken (seed : List Task) : Prop := ∀ i, ∀ h : i < seed.length, ∀ id ∈ seed[i].id, id ∉ given (seed.take i)

instance (seed : List Task) : Decidable (Untaken seed) :=
  inferInstanceAs (Decidable (∀ i, ∀ h : i < seed.length, ∀ id ∈ seed[i].id, id ∉ given (seed.take i)))

lemma Untaken.left {seed : List Task} {t : Task} (h : Untaken (seed ++ [t])) : Untaken seed := by
  intro i hi
  have hlater := h i (by rw [List.length_append]; omega)
  rwa [List.getElem_append_left hi, List.take_append_of_le_length hi.le] at hlater

lemma Untaken.last {seed : List Task} {t : Task} {id : ℤ} (h : Untaken (seed ++ [t])) (ht : t.id = some id) :
    id ∉ given seed := by
  have hlast := h seed.length (by simp) id
  simp only [List.getElem_concat_length, List.take_left'] at hlast
  exact hlast ht

structure Placed (seed : List Task) (tasks : List (ℤ × Task)) : Prop where
  length : tasks.length = seed.length
  own : ∀ t ∈ seed, ∀ id, t.id = some id → (id, t) ∈ tasks
  named : List.Forall₂ (fun t id => (id, { t with id := some id }) ∈ tasks) (nameless seed) (given seed)
  apart : (given seed).Disjoint (owned seed)
  covered : ∀ id ∈ keys tasks, id ∈ given seed ∨ id ∈ owned seed

section Placing

variable {seed : List Task} {tasks : List (ℤ × Task)} {t : Task} {id : ℤ}

lemma Placed.owned_subset (h : Placed seed tasks) : owned seed ⊆ keys tasks := by
  intro id hid
  obtain ⟨t, ht, hid⟩ := List.mem_filterMap.mp hid
  exact mem_keys_of_mem (h.own t ht id hid)

lemma Placed.concat_own (h : Placed seed tasks) (ht : t.id = some id) (hg : id ∉ given seed) :
    Placed (seed ++ [t]) (tasks ++ [(id, t)]) where
  length := by rw [List.length_append, List.length_append, h.length]; rfl
  own u hu i hi := by
    rcases List.mem_append.mp hu with hu | hu
    · exact List.mem_append_left _ (h.own u hu i hi)
    · rw [List.mem_singleton.mp hu] at hi ⊢
      cases ht.symm.trans hi
      exact List.mem_append_right _ List.mem_cons_self
  named := by
    rw [nameless_own ht, given_own ht]
    exact h.named.imp fun u i hmem => List.mem_append_left _ hmem
  apart := by
    rw [given_own ht, owned_own ht, List.disjoint_append_right]
    exact ⟨h.apart, by simpa using hg⟩
  covered i hi := by
    rw [given_own ht, owned_own ht, List.mem_append, ← or_assoc]
    rw [keys_append, List.mem_append] at hi
    exact hi.imp_left (h.covered i)

lemma Placed.concat_new (h : Placed seed tasks) (ht : t.id = none) (hid : id ∉ keys tasks)
    (hg : given (seed ++ [t]) = given seed ++ [id]) :
    Placed (seed ++ [t]) (tasks ++ [(id, { t with id := some id })]) where
  length := by rw [List.length_append, List.length_append, h.length]; rfl
  own u hu i hi := by
    rcases List.mem_append.mp hu with hu | hu
    · exact List.mem_append_left _ (h.own u hu i hi)
    · rw [List.mem_singleton.mp hu] at hi
      cases ht.symm.trans hi
  named := by
    rw [nameless_new ht, hg]
    refine List.rel_append (h.named.imp fun u i hmem => List.mem_append_left _ hmem) ?_
    exact .cons (List.mem_append_right _ List.mem_cons_self) .nil
  apart := by
    rw [hg, owned_new ht, List.disjoint_append_left]
    exact ⟨h.apart, by simpa using fun hmem => hid (h.owned_subset hmem)⟩
  covered i hi := by
    rw [hg, owned_new ht, List.mem_append, or_right_comm]
    rw [keys_append, List.mem_append] at hi
    exact hi.imp_left (h.covered i)

lemma placed_of_untaken (hd : (owned seed).Nodup) (hu : Untaken seed) : Placed seed (Memory.ofTasks seed).tasks := by
  -- The tasks are added from the left, so the last one finds the counter as the others have left it.
  induction seed using List.reverseRecOn with
  | nil => exact ⟨rfl, by simp, .nil, by simp [owned], by simp [Memory.ofTasks]⟩
  | append_singleton seed t ih =>
    rw [ofTasks_concat]
    cases ht : t.id with
    | none =>
      rw [owned_new ht] at hd
      rw [InMemory.add_new ht]
      exact (ih hd hu.left).concat_new ht (InMemory.freeId_notMem _) (given_new ht)
    | some id =>
      rw [owned_own ht, List.nodup_append_comm] at hd
      obtain ⟨hid, hd⟩ := List.nodup_cons.mp hd
      have hplaced := ih hd hu.left
      have hgiven : id ∉ given seed := hu.last ht
      have hfree : id ∉ keys (Memory.ofTasks seed).tasks := fun hk => (hplaced.covered id hk).elim hgiven hid
      rw [InMemory.add_own ht, assign_of_notMem hfree]
      exact hplaced.concat_own ht hgiven

end Placing

lemma nodup_ofTasks (seed : List Task) : (keys (Memory.ofTasks seed).tasks).Nodup := by
  obtain ⟨m, hm, h⟩ := run_seeded seed [] []
  cases hm
  exact h.nodup

/-- A seed whose own ids are distinct is kept as a whole just if no task has an id that the counter gave out before. -/
theorem lossless_iff {seed : List Task} (hd : (owned seed).Nodup) : Lossless seed ↔ Untaken seed := by
  constructor
  · intro h i hi id ht hid
    have hgiven : id ∈ given seed := by
      rw [← List.take_append_drop i seed, given_append]
      exact List.mem_append_left _ hid
    have howned : id ∈ owned seed := List.mem_filterMap.mpr ⟨seed[i], List.getElem_mem hi, ht⟩
    exact h.apart hgiven howned
  · intro hu
    have hplaced := placed_of_untaken hd hu
    have hfound {id : ℤ} {t : Task} (h : (id, t) ∈ (Memory.ofTasks seed).tasks) :
        (Memory.ofTasks seed).get? id = some t := lookup_of_mem (nodup_ofTasks seed) h
    refine ⟨hplaced.length, fun t ht id hid => hfound (hplaced.own t ht id hid), ?_, hplaced.apart⟩
    exact hplaced.named.imp fun t id hmem => hfound hmem

def water : Task := { description := .text "water the plants", created := .time .epoch }

def feed (id : ℤ) : Task := { description := .text "feed the cat", created := .time .epoch, id := some id }

theorem lossless_iff_mixed : (owned [water, feed 7, water]).Nodup ∧ Lossless [water, feed 7, water] := by
  have hd : (owned [water, feed 7, water]).Nodup := by decide
  exact ⟨hd, (lossless_iff hd).mpr (by decide)⟩

theorem not_all_lossless : ¬ ∀ seed, (owned seed).Nodup → Lossless seed := by
  intro h
  have hlength := (h [water, feed 1] (by decide)).length
  exact absurd hlength (by decide)

end TaskBoard.Proofs.Stores.Seeding
