import Mathlib.Tactic
import TaskBoard.Entries

namespace TaskBoard.Proofs.Entries

open TaskBoard.Entries

variable {κ κ' α β : Type}

def keys (entries : List (κ × α)) : List κ := entries.map Prod.fst

@[simp] lemma keys_nil : keys ([] : List (κ × α)) = [] := rfl

@[simp] lemma keys_cons (e : κ × α) (rest : List (κ × α)) : keys (e :: rest) = e.1 :: keys rest := rfl

@[simp] lemma keys_append (xs ys : List (κ × α)) : keys (xs ++ ys) = keys xs ++ keys ys := by simp [keys]

lemma mem_keys_of_mem {key : κ} {value : α} {entries : List (κ × α)} (h : (key, value) ∈ entries) :
    key ∈ keys entries := List.mem_map_of_mem h

lemma exists_of_mem_keys {key : κ} {entries : List (κ × α)} (h : key ∈ keys entries) :
    ∃ value, (key, value) ∈ entries := by
  obtain ⟨⟨k, value⟩, he, rfl⟩ := List.mem_map.mp h
  exact ⟨value, he⟩

variable [BEq κ]

lemma mem_assign {key : κ} {value : α} {e : κ × α} {entries : List (κ × α)} (h : e ∈ assign key value entries) :
    e = (key, value) ∨ e ∈ entries := by
  induction entries with
  | nil => simpa [assign] using h
  | cons e' rest ih =>
    rw [assign] at h
    split at h
    · exact (List.mem_cons.mp h).imp_right (List.mem_cons_of_mem e')
    · rcases List.mem_cons.mp h with rfl | h
      · exact Or.inr List.mem_cons_self
      · exact (ih h).imp_right (List.mem_cons_of_mem e')

lemma keys_erase (key : κ) (entries : List (κ × α)) : keys (erase key entries) = (keys entries).filter (!· == key) := by
  rw [keys, keys, erase, List.filter_map]
  rfl

lemma nodup_erase {entries : List (κ × α)} (h : (keys entries).Nodup) (key : κ) : (keys (erase key entries)).Nodup := by
  rw [keys_erase]
  exact h.filter _

variable [LawfulBEq κ]

lemma hasKey_iff {key : κ} {entries : List (κ × α)} : hasKey key entries = true ↔ key ∈ keys entries := by
  simp [hasKey, keys]

lemma assign_of_notMem {key : κ} {entries : List (κ × α)} (h : key ∉ keys entries) (value : α) :
    assign key value entries = entries ++ [(key, value)] := by
  induction entries with
  | nil => rfl
  | cons e rest ih =>
    rw [keys_cons, List.mem_cons, not_or] at h
    rw [assign, if_neg (by simpa using Ne.symm h.1), ih h.2, List.cons_append]

lemma foldl_assign_of_nodup {found entries : List (κ × α)} (h : (keys (found ++ entries)).Nodup) :
    entries.foldl (fun found e => assign e.1 e.2 found) found = found ++ entries := by
  induction entries generalizing found with
  | nil => rw [List.foldl_nil, List.append_nil]
  | cons e rest ih =>
    have he : e.1 ∉ keys found := by
      rw [keys_append, List.nodup_append'] at h
      exact fun hk => List.disjoint_left.mp h.2.2 hk List.mem_cons_self
    rw [List.foldl_cons, assign_of_notMem he, ih (by simpa using h), List.append_assoc, List.singleton_append]

lemma assignAll_of_nodup {entries : List (κ × α)} (h : (keys entries).Nodup) : assignAll entries = entries :=
  foldl_assign_of_nodup (by simpa using h)

lemma keys_assign_of_mem {key : κ} {entries : List (κ × α)} (h : key ∈ keys entries) (value : α) :
    keys (assign key value entries) = keys entries := by
  induction entries with
  | nil => cases h
  | cons e rest ih =>
    rw [assign]
    split
    · rename_i he
      rw [keys_cons, keys_cons, eq_of_beq he]
    · rename_i he
      rw [keys_cons, keys_cons, ih]
      exact (List.mem_cons.mp h).resolve_left fun hk => he (by rw [hk]; exact BEq.rfl)

lemma nodup_assign {key : κ} {entries : List (κ × α)} (h : (keys entries).Nodup) (value : α) :
    (keys (assign key value entries)).Nodup := by
  by_cases hk : key ∈ keys entries
  · rw [keys_assign_of_mem hk]
    exact h
  · rw [assign_of_notMem hk, keys_append]
    exact List.nodup_append'.mpr ⟨h, List.nodup_singleton key, by simpa [List.disjoint_singleton] using hk⟩

lemma assign_of_mem {key : κ} {old : α} {entries : List (κ × α)} (hn : (keys entries).Nodup)
    (h : (key, old) ∈ entries) (value : α) :
    assign key value entries = entries.map fun e => if e.1 == key then (key, value) else e := by
  induction entries with
  | nil => cases h
  | cons e rest ih =>
    rw [keys_cons, List.nodup_cons] at hn
    rw [assign, List.map_cons]
    split
    · rename_i he
      have hrest : rest.map (fun e => if e.1 == key then (key, value) else e) = rest := by
        rw [List.map_congr_left (g := id), List.map_id]
        intro e' he'
        rw [if_neg]
        · rfl
        · rintro hk
          rw [eq_of_beq he, ← eq_of_beq hk] at hn
          exact hn.1 (List.mem_map_of_mem he')
      rw [hrest]
    · rename_i he
      rw [ih hn.2]
      rcases List.mem_cons.mp h with rfl | h
      · exact absurd BEq.rfl he
      · exact h

lemma mem_assign_iff {key k : κ} {old value x : α} {entries : List (κ × α)} (hn : (keys entries).Nodup)
    (h : (key, old) ∈ entries) :
    (k, x) ∈ assign key value entries ↔ k = key ∧ x = value ∨ k ≠ key ∧ (k, x) ∈ entries := by
  rw [assign_of_mem hn h, List.mem_map]
  constructor
  · rintro ⟨e, he, heq⟩
    split_ifs at heq with hk
    · cases heq
      exact Or.inl ⟨rfl, rfl⟩
    · obtain rfl : e = (k, x) := heq
      exact Or.inr ⟨by simpa using hk, he⟩
  · rintro (⟨rfl, rfl⟩ | ⟨hk, hx⟩)
    · exact ⟨_, h, if_pos BEq.rfl⟩
    · exact ⟨_, hx, if_neg (by simpa using hk)⟩

lemma assign_assign_self (key : κ) (value other : α) (entries : List (κ × α)) :
    assign key value (assign key other entries) = assign key value entries := by
  induction entries with
  | nil => simp [assign]
  | cons e entries ih =>
    by_cases he : e.1 = key
    · simp [assign, he]
    · simp [assign, he, ih]

lemma erase_assign_self (key : κ) (value : α) (entries : List (κ × α)) :
    erase key (assign key value entries) = erase key entries := by
  induction entries with
  | nil => simp [assign, erase]
  | cons e rest ih =>
    rw [assign]
    split
    · rename_i he
      rw [erase_cons, erase_cons, if_pos BEq.rfl, if_pos he]
    · rw [erase_cons, erase_cons, ih]

lemma erase_of_notMem {key : κ} {entries : List (κ × α)} (h : key ∉ keys entries) : erase key entries = entries := by
  rw [erase, List.filter_eq_self]
  intro e he
  rw [Bool.not_eq_true', beq_eq_false_iff_ne]
  rintro rfl
  exact h (List.mem_map_of_mem he)

lemma lookup_eq_none_iff {key : κ} {entries : List (κ × α)} : entries.lookup key = none ↔ key ∉ keys entries := by
  rw [List.lookup_eq_none_iff]
  constructor
  · intro h hk
    obtain ⟨value, he⟩ := exists_of_mem_keys hk
    simpa using h _ he
  · rintro h ⟨k, value⟩ he
    rw [bne_iff_ne]
    rintro rfl
    exact h (mem_keys_of_mem he)

lemma mem_of_lookup {key : κ} {value : α} {entries : List (κ × α)} (h : entries.lookup key = some value) :
    (key, value) ∈ entries := by
  obtain ⟨l₁, l₂, rfl, _⟩ := List.lookup_eq_some_iff.mp h
  simp

lemma lookup_of_mem {key : κ} {value : α} {entries : List (κ × α)} (hn : (keys entries).Nodup)
    (h : (key, value) ∈ entries) : entries.lookup key = some value := by
  cases hl : entries.lookup key with
  | none => exact absurd (mem_keys_of_mem h) (lookup_eq_none_iff.mp hl)
  | some other =>
    have hp := List.inj_on_of_nodup_map hn h (mem_of_lookup hl) rfl
    rw [(Prod.mk.inj hp).2]

variable [BEq κ'] [LawfulBEq κ']

lemma lookup_image {f : κ → κ'} (hf : Function.Injective f) (g : α → β) (key : κ) (entries : List (κ × α)) :
    (entries.map (Prod.map f g)).lookup (f key) = (entries.lookup key).map g := by
  induction entries with
  | nil => rfl
  | cons e rest ih =>
    obtain ⟨k, value⟩ := e
    by_cases hk : key = k
    · simp [hk]
    · have hfk : f key ≠ f k := fun h => hk (hf h)
      rw [List.map_cons, Prod.map_apply, List.lookup_cons, List.lookup_cons, beq_eq_false_iff_ne.mpr hk,
        beq_eq_false_iff_ne.mpr hfk]
      exact ih

lemma assign_image {f : κ → κ'} (hf : Function.Injective f) (g : α → β) (key : κ) (value : α) (entries : List (κ × α)) :
    assign (f key) (g value) (entries.map (Prod.map f g)) = (assign key value entries).map (Prod.map f g) := by
  induction entries with
  | nil => rfl
  | cons e rest ih =>
    obtain ⟨k, old⟩ := e
    by_cases hk : k = key
    · simp [assign, hk]
    · have hfk : f k ≠ f key := fun h => hk (hf h)
      rw [List.map_cons, Prod.map_apply, assign, assign, if_neg (by simpa using hfk), if_neg (by simpa using hk), ih,
        List.map_cons, Prod.map_apply]

lemma erase_image {f : κ → κ'} (hf : Function.Injective f) (g : α → β) (key : κ) (entries : List (κ × α)) :
    erase (f key) (entries.map (Prod.map f g)) = (erase key entries).map (Prod.map f g) := by
  rw [erase, List.filter_map, erase]
  congr 1
  refine List.filter_congr fun e _ => ?_
  rw [Function.comp_apply, Prod.map_fst, Bool.eq_iff_iff]
  simp [hf.eq_iff]

end TaskBoard.Proofs.Entries
