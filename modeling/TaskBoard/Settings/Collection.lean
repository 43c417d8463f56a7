import TaskBoard.Text.LetterCase
import TaskBoard.Value

namespace TaskBoard.Settings

structure Given where
  name : String
  value : Value

abbrev Arguments := List (String × Value)

def isUnder (names : List String) (name : String) : Bool := names.any fun own => Text.lower name == Text.lower own

theorem isUnder_iff {names : List String} {name : String} :
    isUnder names name ↔ ∃ own ∈ names, Text.lower name = Text.lower own := by
  simp [isUnder]

/--
A way of collecting arguments. The first name that occurs counts if the names are spelled as they are. Where they are
spelled in another letter case, no more is known than that a value under one of them may be taken.
-/
structure Collection where
  take : List String → Arguments → Option Given
  named {names : List String} {arguments : Arguments} {g : Given} (h : take names arguments = some g) :
    g.name ∈ names ∧ ∃ a ∈ arguments, isUnder names a.1 ∧ a.2 = g.value
  spelled {names : List String} {arguments : Arguments}
    (hnames : ∀ n ∈ names, ∀ m ∈ names, Text.lower n = Text.lower m → n = m)
    (hdistinct : ∀ a ∈ arguments, ∀ b ∈ arguments, a.1 = b.1 → a = b)
    (hspelled : ∀ a ∈ arguments, isUnder names a.1 → a.1 ∈ names) :
    (take names arguments).map Given.value = names.findSome? fun name => arguments.lookup name
  separate {names : List String} {arguments others : Arguments}
    (h : (arguments.filter fun a => isUnder names a.1) = others.filter fun a => isUnder names a.1) :
    take names arguments = take names others
  unordered {names : List String} {arguments others : Arguments} (h : arguments.Perm others)
    (hdistinct : ∀ a ∈ arguments, ∀ b ∈ arguments, Text.lower a.1 = Text.lower b.1 → a = b) :
    take names arguments = take names others

section Caseless

variable {α β : Type}

theorem find?_of_unique {l k : List α} {p q : α → Bool} (hmem : ∀ a, a ∈ l ↔ a ∈ k) (hpq : ∀ a ∈ l, p a = q a)
    (hunique : ∀ a ∈ l, ∀ b ∈ l, p a → p b → a = b) : l.find? p = k.find? q := by
  cases hl : l.find? p with
  | none =>
    rw [List.find?_eq_none] at hl
    refine (List.find?_eq_none.mpr fun a ha hq => ?_).symm
    have ha := (hmem a).mpr ha
    exact hl a ha ((hpq a ha).trans hq)
  | some a =>
    have ha := List.mem_of_find?_eq_some hl
    have hp := List.find?_some hl
    cases hk : k.find? q with
    | none =>
      rw [List.find?_eq_none] at hk
      exact absurd ((hpq a ha).symm.trans hp) (hk a ((hmem a).mp ha))
    | some b =>
      have hb := (hmem b).mpr (List.mem_of_find?_eq_some hk)
      rw [hunique a ha b hb hp ((hpq b hb).trans (List.find?_some hk))]

theorem findSome?_congr_mem {l : List α} {f g : α → Option β} (h : ∀ a ∈ l, f a = g a) :
    l.findSome? f = l.findSome? g := by
  induction l with
  | nil => rfl
  | cons a l ih =>
    rw [List.findSome?_cons, List.findSome?_cons, h a List.mem_cons_self,
      ih fun b hb => h b (List.mem_cons_of_mem a hb)]

theorem lookup_eq_find? (name : String) (arguments : Arguments) :
    arguments.lookup name = (arguments.find? fun a => a.1 == name).map Prod.snd := by
  induction arguments with
  | nil => rfl
  | cons a rest ih =>
    obtain ⟨key, v⟩ := a
    by_cases h : key = name
    · simp [h]
    · simp [List.lookup_cons, beq_eq_false_iff_ne.2 h, beq_eq_false_iff_ne.2 (Ne.symm h), ih]

def lastUnder (name : String) (arguments : Arguments) : Option (String × Value) :=
  arguments.reverse.find? fun a => Text.lower a.1 == Text.lower name

theorem mem_of_lastUnder {name : String} {arguments : Arguments} {a : String × Value}
    (h : lastUnder name arguments = some a) : a ∈ arguments ∧ Text.lower a.1 = Text.lower name := by
  rw [lastUnder] at h
  exact ⟨List.mem_reverse.mp (List.mem_of_find?_eq_some h), by simpa using List.find?_some h⟩

def Collection.caseless : Collection where
  take names arguments := names.findSome? fun name => (lastUnder name arguments).map fun a => ⟨name, a.2⟩
  named {names arguments g} h := by
    obtain ⟨name, hname, hg⟩ := List.exists_of_findSome?_eq_some h
    obtain ⟨a, ha, rfl⟩ := Option.map_eq_some_iff.mp hg
    obtain ⟨hmem, hkey⟩ := mem_of_lastUnder ha
    exact ⟨hname, a, hmem, isUnder_iff.mpr ⟨name, hname, hkey⟩, rfl⟩
  spelled {names arguments} hnames hdistinct hspelled := by
    rw [List.map_findSome?]
    refine findSome?_congr_mem fun name hname => ?_
    have hkey (a : String × Value) (ha : a ∈ arguments.reverse) :
        (Text.lower a.1 == Text.lower name) = (a.1 == name) := by
      rw [Bool.eq_iff_iff, beq_iff_eq, beq_iff_eq]
      refine ⟨fun h => ?_, fun h => by rw [h]⟩
      have hunder : isUnder names a.1 := isUnder_iff.mpr ⟨name, hname, h⟩
      exact hnames _ (hspelled a (List.mem_reverse.mp ha) hunder) _ hname h
    have hfind : lastUnder name arguments = arguments.find? fun a => a.1 == name := by
      refine find?_of_unique (fun a => List.mem_reverse) hkey fun a ha b hb hpa hpb => ?_
      rw [hkey a ha, beq_iff_eq] at hpa
      rw [hkey b hb, beq_iff_eq] at hpb
      exact hdistinct a (List.mem_reverse.mp ha) b (List.mem_reverse.mp hb) (hpa.trans hpb.symm)
    rw [Function.comp_apply, hfind, lookup_eq_find?, Option.map_map]
    rfl
  separate {names arguments others} h := by
    have hkept (name : String) (hname : name ∈ names) (l : Arguments) :
        lastUnder name (l.filter fun a => isUnder names a.1) = lastUnder name l := by
      rw [lastUnder, lastUnder, ← List.filter_reverse, List.find?_filter]
      congr 1
      funext a
      by_cases ha : Text.lower a.1 = Text.lower name
      · have hunder : isUnder names a.1 := isUnder_iff.mpr ⟨name, hname, ha⟩
        simp [ha, hunder]
      · simp [ha]
    exact findSome?_congr_mem fun name hname => by rw [← hkept name hname, h, hkept name hname]
  unordered {names arguments others} h hdistinct := by
    refine findSome?_congr_mem fun name _ => ?_
    have hlast : lastUnder name arguments = lastUnder name others := by
      refine find?_of_unique (fun a => ?_) (fun _ _ => rfl) fun a ha b hb hpa hpb => ?_
      · rw [List.mem_reverse, List.mem_reverse, h.mem_iff]
      · exact hdistinct a (List.mem_reverse.mp ha) b (List.mem_reverse.mp hb)
          ((beq_iff_eq.mp hpa).trans (beq_iff_eq.mp hpb).symm)
    rw [hlast]

end Caseless

end TaskBoard.Settings
