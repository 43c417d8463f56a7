import TaskBoard.Proofs.Entries
import TaskBoard.Settings.Basic

namespace TaskBoard.Proofs.Settings

open TaskBoard.Settings Proofs.Entries

inductive Source where
  | arguments
  | environment
  | file

inductive Source.Above : Source → Source → Prop
  | arguments_environment : Above .arguments .environment
  | arguments_file : Above .arguments .file
  | environment_file : Above .environment .file

abbrev SameName (x y : String) : Prop := Text.lower x = Text.lower y

section Giving

variable {α : Type}

def Last (name : String) (found : List (String × Option α)) (a : α) : Prop := ∃ before key after,
  found = before ++ (key, some a) :: after ∧ SameName key name ∧ ∀ e ∈ after, ¬ SameName e.1 name

def Gives (names : List String) (found : List (String × Option α)) (a : α) : Prop := ∃ earlier name later,
  names = earlier ++ name :: later ∧ Last name found a ∧ ∀ other ∈ earlier, ∀ b, ¬ Last other found b

end Giving

def Under (names : List String) (name : String) : Prop := ∃ own ∈ names, SameName name own

def Stands (names : List String) (arguments : Arguments) (v : Value) : Prop := ∃ earlier name later,
  names = earlier ++ name :: later ∧ (name, v) ∈ arguments ∧ ∀ other ∈ earlier, other ∉ keys arguments

/-- Arguments count as they are collected, and texts of the environment and the file in any letter case of a name. -/
inductive Offers (c : Collection) (s : Sources) (names : List String) : Source → Value → Prop
  | arguments {g : Given} (h : c.take names s.arguments = some g) : Offers c s names .arguments g.value
  | environment {text : String} (h : Gives names s.variables text) : Offers c s names .environment (.text text)
  | file {text : String} (h : Gives names s.fileVariables text) : Offers c s names .file (.text text)

inductive Decides (c : Collection) (s : Sources) (names : List String) : Option Value → Prop
  | given {source : Source} {v : Value} (h : Offers c s names source v)
      (above : ∀ other, other.Above source → ∀ w, ¬ Offers c s names other w) : Decides c s names (some v)
  | default (h : ∀ source w, ¬ Offers c s names source w) : Decides c s names none

section Search

variable {α β : Type} {name : String} {names : List String} {found found' : List (String × Option α)} {a : α}

def last? (name : String) (found : List (String × Option α)) : Option α :=
  (found.reverse.find? fun e => Text.lower e.1 == Text.lower name).bind Prod.snd

def first? (names : List String) (found : List (String × Option α)) : Option α :=
  names.findSome? fun name => last? name found

lemma last?_eq_some : last? name found = some a ↔ Last name found a := by
  rw [last?, Option.bind_eq_some_iff]
  constructor
  · rintro ⟨⟨key, _⟩, hfind, rfl⟩
    obtain ⟨hkey, after, before, hsplit, hafter⟩ := List.find?_eq_some_iff_append.mp hfind
    refine ⟨before.reverse, key, after.reverse, ?_, by simpa using hkey, ?_⟩
    · rw [← List.reverse_reverse found, hsplit]
      simp
    · intro e he
      simpa using hafter e (List.mem_reverse.mp he)
  · rintro ⟨before, key, after, rfl, hkey, hafter⟩
    refine ⟨(key, some a), List.find?_eq_some_iff_append.mpr ⟨by simpa using hkey, ?_⟩, rfl⟩
    refine ⟨after.reverse, before.reverse, by simp, ?_⟩
    intro e he
    simpa using hafter e (List.mem_reverse.mp he)

lemma gives_iff : Gives names found a ↔ first? names found = some a := by
  rw [first?, List.findSome?_eq_some_iff]
  constructor
  · rintro ⟨earlier, name, later, hnames, hlast, hearlier⟩
    refine ⟨earlier, name, later, hnames, last?_eq_some.mpr hlast, fun other ho => ?_⟩
    rw [Option.eq_none_iff_forall_ne_some]
    exact fun b hb => hearlier other ho b (last?_eq_some.mp hb)
  · rintro ⟨earlier, name, later, hnames, hlast, hearlier⟩
    refine ⟨earlier, name, later, hnames, last?_eq_some.mp hlast, fun other ho b hb => ?_⟩
    cases (hearlier other ho).symm.trans (last?_eq_some.mpr hb)

lemma first?_congr (h : ∀ name ∈ names, last? name found = last? name found') :
    first? names found = first? names found' := by
  induction names with
  | nil => rfl
  | cons name names ih =>
    rw [List.forall_mem_cons] at h
    rw [first?, List.findSome?_cons, h.1, first?, List.findSome?_cons]
    cases last? name found' with
    | some a => rfl
    | none => exact ih h.2

lemma first?_filter {p : String × Option α → Bool} (hp : ∀ e, (∃ name ∈ names, SameName e.1 name) → p e = true) :
    first? names (found.filter p) = first? names found := by
  apply first?_congr
  intro name hname
  rw [last?, last?, ← List.filter_reverse, List.find?_filter]
  congr 2
  funext e
  by_cases he : SameName e.1 name
  · simp [hp e ⟨name, hname, he⟩, he]
  · simp [he]

lemma first?_of_filter {p : String × Option α → Bool} (hp : ∀ e, (∃ name ∈ names, SameName e.1 name) → p e = true)
    (h : found.filter p = found'.filter p) : first? names found = first? names found' := by
  rw [← first?_filter hp, h, first?_filter hp]

lemma find?_eq_some_iff_mem {l : List β} {p : β → Bool} {b : β} (hp : ∀ x ∈ l, ∀ y ∈ l, p x → p y → x = y) :
    l.find? p = some b ↔ b ∈ l ∧ p b := by
  refine ⟨fun h => ⟨List.mem_of_find?_eq_some h, List.find?_some h⟩, fun ⟨hb, hpb⟩ => ?_⟩
  obtain ⟨x, hx⟩ := Option.isSome_iff_exists.mp (List.find?_isSome.mpr ⟨b, hb, hpb⟩)
  rw [hx, hp x (List.mem_of_find?_eq_some hx) b hb (List.find?_some hx) hpb]

end Search

section Collecting

variable {c : Collection} {names : List String} {arguments : Arguments} {v : Value}

lemma under_of_take {g : Given} (h : c.take names arguments = some g) :
    ∃ a ∈ arguments, Under names a.1 ∧ a.2 = g.value := by
  obtain ⟨-, a, ha, hunder, hv⟩ := c.named h
  exact ⟨a, ha, isUnder_iff.mp hunder, hv⟩

lemma stands_iff (hd : (keys arguments).Nodup) :
    (names.findSome? fun name => arguments.lookup name) = some v ↔ Stands names arguments v := by
  have hmem (name : String) : arguments.lookup name = some v ↔ (name, v) ∈ arguments :=
    ⟨mem_of_lookup, lookup_of_mem hd⟩
  simp only [List.findSome?_eq_some_iff, hmem, lookup_eq_none_iff, Stands]

lemma take_iff_stands (hnames : ∀ n ∈ names, ∀ m ∈ names, SameName n m → n = m) (hd : (keys arguments).Nodup)
    (hspelled : ∀ a ∈ arguments, Under names a.1 → a.1 ∈ names) :
    (c.take names arguments).map Given.value = some v ↔ Stands names arguments v := by
  have hdistinct (a : String × Value) (ha : a ∈ arguments) (b : String × Value) (hb : b ∈ arguments)
      (hab : a.1 = b.1) : a = b := List.inj_on_of_nodup_map hd ha hb hab
  rw [c.spelled hnames hdistinct fun a ha hunder => hspelled a ha (isUnder_iff.mp hunder), stands_iff hd]

end Collecting

section Sources

variable {c : Collection} {s : Sources} {names : List String} {source : Source} {v : Value}

def offered (c : Collection) (s : Sources) (names : List String) : Source → Option Value
  | .arguments => (c.take names s.arguments).map Given.value
  | .environment => (first? names s.variables).map .text
  | .file => (first? names s.fileVariables).map .text

lemma offers_iff : Offers c s names source v ↔ offered c s names source = some v := by
  constructor
  · rintro (h | h | h)
    · rw [offered, h, Option.map_some]
    · rw [offered, gives_iff.mp h, Option.map_some]
    · rw [offered, gives_iff.mp h, Option.map_some]
  · intro h
    cases source with
    | arguments =>
      obtain ⟨g, hg, rfl⟩ := Option.map_eq_some_iff.mp h
      exact .arguments hg
    | environment =>
      obtain ⟨text, ht, rfl⟩ := Option.map_eq_some_iff.mp h
      exact .environment (gives_iff.mpr ht)
    | file =>
      obtain ⟨text, ht, rfl⟩ := Option.map_eq_some_iff.mp h
      exact .file (gives_iff.mpr ht)

lemma not_offers_iff : (∀ w, ¬ Offers c s names source w) ↔ offered c s names source = none := by
  rw [Option.eq_none_iff_forall_ne_some]
  exact forall_congr' fun w => not_congr offers_iff

lemma value_given (c : Collection) (s : Sources) (names : List String) : (s.given c names).map Given.value =
    (offered c s names .arguments).or ((offered c s names .environment).or (offered c s names .file)) := by
  rw [Sources.given, Option.map_or, Option.map_or, fromVariables, fromVariables, Option.map_map, Option.map_map]
  rfl

lemma mem_of_given {g : Given} (hnames : names ≠ []) (h : s.given c names = some g) : g.name ∈ names := by
  have hvariables {found : List Dotenv.Binding} (hg : fromVariables names found = some g) : g.name ∈ names := by
    obtain ⟨v, -, rfl⟩ := Option.map_eq_some_iff.mp hg
    obtain ⟨name, later, rfl⟩ := List.exists_cons_of_ne_nil hnames
    exact List.mem_cons_self
  rw [Sources.given, Option.or_eq_some_iff, Option.or_eq_some_iff] at h
  rcases h with h | ⟨-, h | ⟨-, h⟩⟩
  · exact (c.named h).1
  · exact hvariables h
  · exact hvariables h

lemma make_congr {s' : Sources} (h : ∀ names, s.given c names = s'.given c names) : make c s = make c s' := by
  simp only [make, settle, h]

lemma decides_iff {v : Option Value} : Decides c s names v ↔ (s.given c names).map Given.value = v := by
  rw [value_given]
  constructor
  · rintro (@⟨source, v, h, above⟩ | h)
    · rw [offers_iff] at h
      simp only [not_offers_iff] at above
      cases source with
      | arguments => rw [h, Option.some_or]
      | environment => rw [above _ .arguments_environment, h, Option.none_or, Option.some_or]
      | file => rw [above _ .arguments_file, above _ .environment_file, h, Option.none_or, Option.none_or]
    · simp only [not_offers_iff] at h
      rw [h, h, h, Option.none_or, Option.none_or]
  · rintro rfl
    cases harguments : offered c s names .arguments with
    | some v => exact .given (offers_iff.mpr harguments) fun _ h => nomatch h
    | none =>
      cases henvironment : offered c s names .environment with
      | some v =>
        refine .given (offers_iff.mpr henvironment) fun other ho => ?_
        cases ho
        exact not_offers_iff.mpr harguments
      | none =>
        cases hfile : offered c s names .file with
        | some v =>
          refine .given (offers_iff.mpr hfile) fun other ho => ?_
          cases ho
          · exact not_offers_iff.mpr harguments
          · exact not_offers_iff.mpr henvironment
        | none =>
          refine .default fun source => not_offers_iff.mpr ?_
          cases source
          · exact harguments
          · exact henvironment
          · exact hfile

end Sources

end TaskBoard.Proofs.Settings
