import TaskBoard.Proofs.Entries
import TaskBoard.Settings.Dotenv
import TaskBoard.Text.LetterCase

/-! What the values in a file of settings depend on: the lines and variables that they refer to, and no others. -/

namespace TaskBoard.Proofs.Settings

open TaskBoard.Dotenv TaskBoard.Entries Proofs.Entries

def Mentions (s : List Char) (name : String) : Prop := ∃ before rest default left,
  s = before ++ '$' :: '\x7b' :: rest ∧ reference? rest = some (name, default, left)

/-- The names themselves in any letter case, and all that the lines under such names refer to. -/
inductive Needs (names : List String) (bs : List Binding) : String → Prop
  | own {name other : String} (h : name ∈ names) (ho : Text.lower other = Text.lower name) : Needs names bs other
  | mentioned {name value other : String} (h : Needs names bs name) (hb : (name, some value) ∈ bs)
      (hm : Mentions value.toList other) : Needs names bs other

section References

variable {s t : List Char} {name : String}

lemma Mentions.of_suffix (h : Mentions s name) (ht : s <:+ t) : Mentions t name := by
  obtain ⟨before, rest, default, left, rfl, hr⟩ := h
  obtain ⟨first, rfl⟩ := ht
  exact ⟨first ++ before, rest, default, left, (List.append_assoc _ _ _).symm, hr⟩

lemma reference?_suffix {default : Option String} {left : List Char} (h : reference? s = some (name, default, left)) :
    left <:+ s := by
  have hdrop := List.drop_suffix (s.takeWhile fun c => c != '\x7d' && c != ':').length s
  simp only [reference?] at h
  split at h
  · rename_i rest hrest
    cases h
    rw [hrest] at hdrop
    exact (List.suffix_cons _ _).trans hdrop
  · rename_i rest hrest
    rw [hrest] at hdrop
    split at h
    · rename_i hleft
      cases h
      have htail := List.drop_suffix (rest.takeWhile (· != '\x7d')).length rest
      rw [hleft] at htail
      have hrest := ((List.suffix_cons _ _).trans (List.suffix_cons _ _)).trans hdrop
      exact ((List.suffix_cons _ _).trans htail).trans hrest
    · cases h
  · cases h

lemma expand_congr {known known' : String → Option (Option String)} (fuel : ℕ) (s : List Char)
    (h : ∀ name, Mentions s name → known name = known' name) : expand known fuel s = expand known' fuel s := by
  induction fuel generalizing s with
  | zero => cases s <;> rfl
  | succ fuel ih =>
    cases s with
    | nil => rfl
    | cons c rest =>
      rw [expand, expand]
      split
      · rename_i name default left hr
        split_ifs at hr with hopen
        rw [Bool.and_eq_true, beq_iff_eq, beq_iff_eq] at hopen
        obtain ⟨tail, rfl⟩ := List.head?_eq_some_iff.mp hopen.2
        rw [List.tail_cons] at hr
        have hsuffix : left <:+ c :: '\x7b' :: tail :=
          (reference?_suffix hr).trans ((List.suffix_cons _ _).trans (List.suffix_cons _ _))
        rw [h name ⟨[], tail, default, left, by rw [hopen.1]; rfl, hr⟩]
        rw [ih left fun other ho => h other (ho.of_suffix hsuffix)]
      · rw [ih rest fun other ho => h other (ho.of_suffix (List.suffix_cons _ _))]

end References

section Resolving

variable {environment environment' : List (String × String)} {found found' bs bs' : List Binding}

def known (environment : List (String × String)) (found : List Binding) (name : String) : Option (Option String) :=
  match found.lookup name with
  | some v => some v
  | none => (environment.lookup name).map some

def resolved (known : String → Option (Option String)) (v : Option String) : Option String :=
  v.map fun v => String.ofList (expand known v.length v.toList)

def resolveFrom (environment : List (String × String)) (found bs : List Binding) : List Binding :=
  bs.foldl (fun found b => assign b.1 (resolved (known environment found) b.2) found) found

lemma resolve_eq (environment : List (String × String)) (bs : List Binding) :
    resolve environment bs = resolveFrom environment [] bs := rfl

open scoped Classical

noncomputable def restrict (p : String → Prop) (bs : List Binding) : List Binding := bs.filter fun b => decide (p b.1)

def Closed (p : String → Prop) (bs : List Binding) : Prop :=
  ∀ name value other, p name → (name, some value) ∈ bs → Mentions value.toList other → p other

variable {p : String → Prop}

lemma restrict_cons_of_pos {b : Binding} (h : p b.1) (bs : List Binding) :
    restrict p (b :: bs) = b :: restrict p bs := List.filter_cons_of_pos (by simpa using h)

lemma restrict_cons_of_neg {b : Binding} (h : ¬ p b.1) (bs : List Binding) : restrict p (b :: bs) = restrict p bs :=
  List.filter_cons_of_neg (by simpa using h)

lemma mem_restrict {b : Binding} : b ∈ restrict p bs ↔ b ∈ bs ∧ p b.1 := by
  rw [restrict, List.mem_filter, decide_eq_true_iff]

lemma lookup_restrict {name : String} (h : p name) (bs : List Binding) :
    (restrict p bs).lookup name = bs.lookup name := by
  induction bs with
  | nil => rfl
  | cons b bs ih =>
    by_cases hb : p b.1
    · rw [restrict_cons_of_pos hb, List.lookup_cons, List.lookup_cons, ih]
    · have hne : name ≠ b.1 := fun heq => hb (heq ▸ h)
      rw [restrict_cons_of_neg hb, List.lookup_cons, beq_eq_false_iff_ne.mpr hne, ih]

lemma restrict_assign_of_pos {name : String} (h : p name) (v : Option String) (bs : List Binding) :
    restrict p (assign name v bs) = assign name v (restrict p bs) := by
  induction bs with
  | nil => exact restrict_cons_of_pos h []
  | cons b bs ih =>
    rw [assign]
    by_cases hb : b.1 = name
    · rw [if_pos (by simpa using hb), restrict_cons_of_pos h, restrict_cons_of_pos (hb ▸ h), assign,
        if_pos (by simpa using hb)]
    · rw [if_neg (by simpa using hb)]
      by_cases hp : p b.1
      · rw [restrict_cons_of_pos hp, restrict_cons_of_pos hp, assign, if_neg (by simpa using hb), ih]
      · rw [restrict_cons_of_neg hp, restrict_cons_of_neg hp, ih]

lemma restrict_assign_of_neg {name : String} (h : ¬ p name) (v : Option String) (bs : List Binding) :
    restrict p (assign name v bs) = restrict p bs := by
  induction bs with
  | nil => exact restrict_cons_of_neg h []
  | cons b bs ih =>
    rw [assign]
    by_cases hb : b.1 = name
    · rw [if_pos (by simpa using hb), restrict_cons_of_neg h, restrict_cons_of_neg (hb ▸ h)]
    · rw [if_neg (by simpa using hb)]
      by_cases hp : p b.1
      · rw [restrict_cons_of_pos hp, restrict_cons_of_pos hp, ih]
      · rw [restrict_cons_of_neg hp, restrict_cons_of_neg hp, ih]

lemma restrict_resolveFrom (hp : Closed p bs)
    (henv : ∀ name, p name → environment.lookup name = environment'.lookup name)
    (h : restrict p found = restrict p found') :
    restrict p (resolveFrom environment found bs) = restrict p (resolveFrom environment' found' (restrict p bs)) := by
  induction bs generalizing found found' with
  | nil => exact h
  | cons b bs ih =>
    have hrest : Closed p bs := fun name value other hn hb => hp name value other hn (List.mem_cons_of_mem b hb)
    by_cases hb : p b.1
    · have hknown (name : String) (hn : p name) : known environment found name = known environment' found' name := by
        rw [known, known, ← lookup_restrict hn found, h, lookup_restrict hn, henv name hn]
      have hvalue : resolved (known environment found) b.2 = resolved (known environment' found') b.2 := by
        obtain ⟨name, _ | value⟩ := b
        · rfl
        · have hexpand := expand_congr value.length value.toList fun other ho =>
            hknown other (hp name value other hb List.mem_cons_self ho)
          simp only [resolved, Option.map_some, hexpand]
      rw [restrict_cons_of_pos hb]
      apply ih hrest
      rw [restrict_assign_of_pos hb, restrict_assign_of_pos hb, hvalue, h]
    · rw [restrict_cons_of_neg hb]
      apply ih hrest
      rw [restrict_assign_of_neg hb]
      exact h

lemma restrict_resolve (hp : Closed p bs)
    (henv : ∀ name, p name → environment.lookup name = environment'.lookup name) (h : restrict p bs = restrict p bs') :
    restrict p (resolve environment bs) = restrict p (resolve environment' bs') := by
  have hp' : Closed p bs' := fun name value other hn hb =>
    hp name value other hn (mem_restrict.mp (h ▸ mem_restrict.mpr ⟨hb, hn⟩)).1
  rw [resolve_eq, resolve_eq, restrict_resolveFrom hp henv rfl, restrict_resolveFrom hp' (fun _ _ => rfl) rfl, h]

end Resolving

end TaskBoard.Proofs.Settings
