import TaskBoard.Proofs.Outcome
import TaskBoard.Proofs.Settings.Sources
import TaskBoard.Settings.Cache

namespace TaskBoard.Proofs.Settings

open TaskBoard.Settings Proofs.Entries Outcome

inductive Event where
  | change (environment : List (String × String)) (file : Option String)
  | clear
  | call (arguments : Arguments)

structure Asked where
  around : Sources
  arguments : Arguments
  answer : Except Failure Settings

structure Process where
  around : Sources
  cache : Cache := {}
  asked : List Asked := []

def build (c : Collection) (around : Sources) (arguments : Arguments) : Except Failure Settings :=
  make c { around with arguments := present arguments }

def Process.answer (c : Collection) (p : Process) (arguments : Arguments) : Except Failure Settings :=
  (obtain c p.cache p.around arguments).1

def Event.perform (c : Collection) : Event → Process → Process
  | change environment file, p => { p with around := { environment, file } }
  | clear, p => { p with cache := {}, asked := [] }
  | call arguments, p => { p with
      cache := (obtain c p.cache p.around arguments).2
      asked := p.asked ++ [⟨p.around, arguments, p.answer c arguments⟩] }

def run (c : Collection) (events : List Event) (p : Process) : Process :=
  events.foldl (fun p event => event.perform c p) p

variable {c : Collection}

lemma run_concat (events : List Event) (event : Event) (p : Process) :
    run c (events ++ [event]) p = event.perform c (run c events p) := by
  simp [run]

lemma run_congr {p q : Process} (haround : p.around = q.around) (hcache : p.cache = q.cache) (events : List Event) :
    (run c events p).around = (run c events q).around ∧ (run c events p).cache = (run c events q).cache := by
  induction events generalizing p q with
  | nil => exact ⟨haround, hcache⟩
  | cons event events ih =>
    apply ih
    · cases event <;> simp [Event.perform, haround]
    · cases event <;> simp [Event.perform, haround, hcache]

lemma mem_asked {events : List Event} {around : Sources} {m : Asked} (h : m ∈ (run c events { around }).asked) :
    .call m.arguments ∈ events := by
  induction events using List.reverseRecOn with
  | nil => cases h
  | append_singleton events event ih =>
    rw [run_concat] at h
    cases event with
    | change environment file => exact List.mem_append_left _ (ih h)
    | clear => cases h
    | call arguments =>
      rcases List.mem_append.mp h with h | h
      · exact List.mem_append_left _ (ih h)
      · rw [List.mem_singleton.mp h]
        exact List.mem_append_right _ (List.mem_singleton_self _)

section Making

variable {cache : Cache} {around : Sources} {arguments : Arguments} {settings : Settings}

def Made (c : Collection) (cache : Cache) : Prop := ∀ e ∈ cache.entries, ∃ around, build c around e.1 = .ok e.2

lemma obtain_made (h : Made c cache) (around : Sources) (arguments : Arguments) :
    Made c (obtain c cache around arguments).2 := by
  rw [obtain]
  split
  · exact h
  · split
    · rename_i e he
      intro e' he'
      rcases List.mem_cons.mp he' with rfl | he'
      · exact h _ (List.mem_of_find?_eq_some he)
      · exact h e' (List.mem_filter.mp he').1
    · split
      · rename_i settings hmake
        intro e' he'
        rcases List.mem_cons.mp (List.mem_of_mem_take he') with rfl | he'
        · exact ⟨around, hmake⟩
        · exact h e' he'
      · exact h

lemma run_made (events : List Event) (around : Sources) : Made c (run c events { around }).cache := by
  induction events using List.reverseRecOn with
  | nil => simp [run, Made]
  | append_singleton events event ih =>
    rw [run_concat]
    cases event with
    | change environment file => exact ih
    | clear => simp [Event.perform, Made]
    | call arguments => exact obtain_made ih _ _

end Making

section Textual

variable {arguments others : Arguments}

def Textual (arguments : Arguments) : Prop := ∀ a ∈ arguments, a.2 = .null ∨ ∃ s, a.2 = .text s

lemma sameNumber_text (v : Value) (s : String) : sameNumber v (.text s) = false := by
  simp only [sameNumber]
  split <;> simp_all

lemma sameNumber_null (v : Value) : sameNumber v .null = false := by
  simp only [sameNumber]
  split <;> simp_all

lemma sameValue_text {v : Value} {s : String} : sameValue v (.text s) = true ↔ v = .text s := by
  cases v with
  | text t => simp [sameValue]
  | _ => simp [sameValue, sameNumber_text]

lemma sameValue_null {v : Value} : sameValue v .null = true ↔ v = .null := by
  cases v with
  | null => simp [sameValue]
  | _ => simp [sameValue, sameNumber_null]

lemma sameArguments_iff (h : Textual arguments) : sameArguments others arguments = true ↔ others = arguments := by
  induction arguments generalizing others with
  | nil => cases others <;> simp [sameArguments]
  | cons a arguments ih =>
    rw [Textual, List.forall_mem_cons] at h
    cases others with
    | nil => simp [sameArguments]
    | cons b others =>
      have hvalue : sameValue b.2 a.2 = true ↔ b.2 = a.2 := by
        rcases h.1 with ha | ⟨s, ha⟩ <;> rw [ha]
        · exact sameValue_null
        · exact sameValue_text
      rw [sameArguments, Bool.and_eq_true, Bool.and_eq_true, beq_iff_eq, hvalue, ih h.2, List.cons.injEq, Prod.ext_iff]

lemma usable_of_textual (h : Textual arguments) : unusable? arguments = none := by
  rw [unusable?, List.findSome?_eq_none_iff]
  intro a ha
  rcases h a ha with hv | ⟨s, hv⟩ <;> rw [hv]

end Textual

section Calling

variable {cache : Cache} {around : Sources} {arguments : Arguments} {settings : Settings}

lemma obtain_of_mem (ht : Textual arguments) (hn : (keys cache.entries).Nodup)
    (h : (arguments, settings) ∈ cache.entries) : obtain c cache around arguments =
      (.ok settings, ⟨(arguments, settings) :: cache.entries.filter fun e => !sameArguments e.1 arguments⟩) := by
  have hfind : cache.entries.find? (fun e => sameArguments e.1 arguments) = some (arguments, settings) := by
    rw [find?_eq_some_iff_mem]
    · exact ⟨h, (sameArguments_iff ht).mpr rfl⟩
    · intro x hx y hy hpx hpy
      rw [sameArguments_iff ht] at hpx hpy
      exact List.inj_on_of_nodup_map hn hx hy (hpx.trans hpy.symm)
  simp only [obtain, usable_of_textual ht, hfind]

lemma find?_of_notMem (ht : Textual arguments) (h : arguments ∉ keys cache.entries) :
    cache.entries.find? (fun e => sameArguments e.1 arguments) = none := by
  rw [List.find?_eq_none]
  intro e he hsame
  rw [sameArguments_iff ht] at hsame
  exact h (hsame ▸ mem_keys_of_mem he)

variable (ht : Textual arguments) (h : arguments ∉ keys cache.entries)

include ht h

lemma obtain_of_built (hb : build c around arguments = .ok settings) : obtain c cache around arguments =
    (.ok settings, ⟨((arguments, settings) :: cache.entries).take capacity⟩) := by
  rw [build] at hb
  simp only [obtain, usable_of_textual ht, find?_of_notMem ht h, hb]

lemma obtain_of_refused {f : Failure} (hb : build c around arguments = .error f) :
    obtain c cache around arguments = (.error f, cache) := by
  rw [build] at hb
  simp only [obtain, usable_of_textual ht, find?_of_notMem ht h, hb]

end Calling

structure IsFirst (asked : List Asked) (arguments : Arguments) (m : Asked) : Prop where
  split : ∃ earlier later, asked = earlier ++ m :: later ∧
    ∀ m' ∈ earlier, m'.arguments = arguments → ∃ f, m'.answer = .error f
  arguments_eq : m.arguments = arguments
  succeeded : ∃ settings, m.answer = .ok settings

def Failed (asked : List Asked) (arguments : Arguments) : Prop :=
  ∀ m ∈ asked, m.arguments = arguments → ∃ f, m.answer = .error f

/-- The variables that count for a call: those of the first one that succeeded, or else the current ones. -/
inductive InForce (p : Process) (arguments : Arguments) : Sources → Prop
  | remembered {m : Asked} (h : IsFirst p.asked arguments m) : InForce p arguments m.around
  | current (h : Failed p.asked arguments) : InForce p arguments p.around

section First

variable {asked : List Asked} {arguments : Arguments} {m m' : Asked}

lemma IsFirst.mem (h : IsFirst asked arguments m) : m ∈ asked := by
  obtain ⟨⟨earlier, later, rfl, -⟩, -, -⟩ := h
  simp

lemma IsFirst.not_failed (h : IsFirst asked arguments m) : ¬ Failed asked arguments := by
  intro hfailed
  obtain ⟨f, hf⟩ := hfailed m h.mem h.arguments_eq
  obtain ⟨settings, hs⟩ := h.succeeded
  cases hf.symm.trans hs

lemma IsFirst.concat (h : IsFirst asked arguments m) (m' : Asked) : IsFirst (asked ++ [m']) arguments m := by
  obtain ⟨⟨earlier, later, rfl, hearlier⟩, harguments, hsucceeded⟩ := h
  exact ⟨⟨earlier, later ++ [m'], by simp, hearlier⟩, harguments, hsucceeded⟩

lemma IsFirst.unique (h : IsFirst asked arguments m) (h' : IsFirst asked arguments m') : m = m' := by
  obtain ⟨⟨earlier, later, hsplit, hearlier⟩, harguments, settings, hs⟩ := h
  obtain ⟨⟨earlier', later', hsplit', hearlier'⟩, harguments', settings', hs'⟩ := h'
  rw [hsplit, List.append_eq_append_iff] at hsplit'
  rcases hsplit' with ⟨between, rfl, hrest⟩ | ⟨between, rfl, hrest⟩
  · cases between with
    | nil => exact (List.cons.inj hrest).1
    | cons first between =>
      obtain ⟨rfl, -⟩ := List.cons.inj hrest
      obtain ⟨f, hf⟩ := hearlier' m (by simp) harguments
      cases hf.symm.trans hs
  · cases between with
    | nil => exact (List.cons.inj hrest).1.symm
    | cons first between =>
      obtain ⟨rfl, -⟩ := List.cons.inj hrest
      obtain ⟨f, hf⟩ := hearlier m' (by simp) harguments'
      cases hf.symm.trans hs'

lemma failed_or_exists_isFirst (asked : List Asked) (arguments : Arguments) :
    Failed asked arguments ∨ ∃ m, IsFirst asked arguments m := by
  induction asked using List.reverseRecOn with
  | nil => exact Or.inl (by simp [Failed])
  | append_singleton asked m ih =>
    rcases ih with hfailed | ⟨first, hfirst⟩
    · by_cases hm : m.arguments = arguments
      · cases ha : m.answer with
        | ok settings => exact Or.inr ⟨m, ⟨asked, [], rfl, hfailed⟩, hm, settings, ha⟩
        | error f =>
          refine Or.inl (List.forall_mem_append.mpr ⟨hfailed, ?_⟩)
          simpa using fun _ => ⟨f, ha⟩
      · exact Or.inl (List.forall_mem_append.mpr ⟨hfailed, by simpa using fun h => absurd h hm⟩)
    · exact Or.inr ⟨first, hfirst.concat m⟩

lemma exists_inForce (p : Process) (arguments : Arguments) : ∃ around, InForce p arguments around := by
  rcases failed_or_exists_isFirst p.asked arguments with h | ⟨m, h⟩
  · exact ⟨_, .current h⟩
  · exact ⟨_, .remembered h⟩

end First

structure Consistent (c : Collection) (p : Process) : Prop where
  nodup : (keys p.cache.entries).Nodup
  textual : ∀ m ∈ p.asked, Textual m.arguments
  made : ∀ arguments settings, (arguments, settings) ∈ p.cache.entries →
    ∃ m, IsFirst p.asked arguments m ∧ build c m.around arguments = .ok settings
  kept : ∀ m ∈ p.asked, ∀ settings, m.answer = .ok settings → m.arguments ∈ keys p.cache.entries

def Modest (p : Process) : Prop :=
  ∃ lists : List Arguments, lists.length ≤ capacity ∧ ∀ m ∈ p.asked, m.arguments ∈ lists

structure Admissible (c : Collection) (events : List Event) (p : Process) : Prop where
  textual : ∀ arguments, .call arguments ∈ events → Textual arguments
  modest : ∀ earlier, earlier <+: events → Modest (run c earlier p)

section Steps

variable {p : Process} {arguments : Arguments} {settings : Settings} {around : Sources} {f : Failure}

lemma Consistent.failed_of_notMem (h : Consistent c p) (hk : arguments ∉ keys p.cache.entries) :
    Failed p.asked arguments := by
  rintro m hm rfl
  cases ha : m.answer with
  | ok settings => exact absurd (h.kept m hm settings ha) hk
  | error f => exact ⟨f, rfl⟩

lemma Consistent.answer_eq (h : Consistent c p) (ht : Textual arguments) (hforce : InForce p arguments around) :
    p.answer c arguments = build c around arguments := by
  by_cases hk : arguments ∈ keys p.cache.entries
  · obtain ⟨settings, hs⟩ := exists_of_mem_keys hk
    obtain ⟨m, hm, hbuild⟩ := h.made arguments settings hs
    cases hforce with
    | remembered hfirst =>
      rw [hfirst.unique hm, hbuild, Process.answer, obtain_of_mem ht h.nodup hs]
    | current hfailed => exact absurd hfailed hm.not_failed
  · have hfailed := h.failed_of_notMem hk
    cases hforce with
    | remembered hfirst => exact absurd hfailed hfirst.not_failed
    | current =>
      rw [Process.answer]
      cases hb : build c p.around arguments with
      | ok settings => rw [obtain_of_built ht hk hb]
      | error f => rw [obtain_of_refused ht hk hb]

lemma Consistent.of_answer_error (h : Consistent c p) (ht : Textual arguments) (hf : p.answer c arguments = .error f) :
    build c p.around arguments = .error f ∧ (obtain c p.cache p.around arguments).2 = p.cache := by
  by_cases hk : arguments ∈ keys p.cache.entries
  -- What is remembered has succeeded once.
  · obtain ⟨settings, hs⟩ := exists_of_mem_keys hk
    rw [Process.answer, obtain_of_mem ht h.nodup hs] at hf
    cases hf
  · rw [Process.answer] at hf
    cases hb : build c p.around arguments with
    | ok settings =>
      rw [obtain_of_built ht hk hb] at hf
      cases hf
    | error f' =>
      rw [obtain_of_refused ht hk hb] at hf ⊢
      cases hf
      exact ⟨rfl, rfl⟩

lemma Consistent.recall (h : Consistent c p) (ht : Textual arguments) (hs : (arguments, settings) ∈ p.cache.entries) :
    Consistent c (Event.perform c (.call arguments) p) := by
  have hobtain : obtain c p.cache p.around arguments = _ := obtain_of_mem ht h.nodup hs
  have hmem {e : Arguments × Settings} (he : e ∈ (obtain c p.cache p.around arguments).2.entries) :
      e ∈ p.cache.entries := by
    rw [hobtain] at he
    rcases List.mem_cons.mp he with rfl | he
    · exact hs
    · exact (List.mem_filter.mp he).1
  have hkeys {key : Arguments} (hk : key ∈ keys p.cache.entries) :
      key ∈ keys (obtain c p.cache p.around arguments).2.entries := by
    rw [hobtain, keys_cons]
    by_cases heq : key = arguments
    · exact heq ▸ List.mem_cons_self
    · obtain ⟨value, he⟩ := exists_of_mem_keys hk
      refine List.mem_cons_of_mem _ (mem_keys_of_mem (List.mem_filter.mpr ⟨he, ?_⟩))
      rw [Bool.not_eq_true', ← Bool.not_eq_true, sameArguments_iff ht]
      exact heq
  refine ⟨?_, ?_, fun others settings he => ?_, ?_⟩
  · rw [Event.perform, hobtain, keys_cons, List.nodup_cons]
    constructor
    · intro hk
      obtain ⟨value, he⟩ := exists_of_mem_keys hk
      have hne := (List.mem_filter.mp he).2
      rw [(sameArguments_iff ht).mpr rfl] at hne
      cases hne
    · exact h.nodup.sublist (List.filter_sublist.map Prod.fst)
  · exact List.forall_mem_append.mpr ⟨h.textual, by simpa using ht⟩
  · obtain ⟨m, hm, hbuild⟩ := h.made others settings (hmem he)
    exact ⟨m, hm.concat _, hbuild⟩
  · refine List.forall_mem_append.mpr ⟨fun m hm settings hok => hkeys (h.kept m hm settings hok), ?_⟩
    rw [List.forall_mem_singleton]
    exact fun _ _ => hkeys (mem_keys_of_mem hs)

lemma Consistent.remember (h : Consistent c p) (ht : Textual arguments) (hk : arguments ∉ keys p.cache.entries)
    (hb : build c p.around arguments = .ok settings) (hm : Modest (Event.perform c (.call arguments) p)) :
    Consistent c (Event.perform c (.call arguments) p) := by
  have hfailed := h.failed_of_notMem hk
  have hobtain := obtain_of_built ht hk hb
  have hnodup : (keys ((arguments, settings) :: p.cache.entries)).Nodup := List.nodup_cons.mpr ⟨hk, h.nodup⟩
  have hfirst : IsFirst (Event.perform c (.call arguments) p).asked arguments
      ⟨p.around, arguments, p.answer c arguments⟩ := by
    refine ⟨⟨p.asked, [], rfl, hfailed⟩, rfl, settings, ?_⟩
    rw [Process.answer, hobtain]
  -- All of the entries fit, so none is dropped.
  have hsubset : keys ((arguments, settings) :: p.cache.entries) ⊆
      (Event.perform c (.call arguments) p).asked.map Asked.arguments := by
    rw [keys_cons, List.cons_subset]
    refine ⟨List.mem_map.mpr ⟨_, hfirst.mem, rfl⟩, fun key hkey => ?_⟩
    obtain ⟨value, he⟩ := exists_of_mem_keys hkey
    obtain ⟨m, hm, -⟩ := h.made key value he
    exact List.mem_map.mpr ⟨m, List.mem_append_left _ hm.mem, hm.arguments_eq⟩
  have hfits : ((arguments, settings) :: p.cache.entries).length ≤ capacity := by
    obtain ⟨lists, hlength, hlists⟩ := hm
    have hle : (keys ((arguments, settings) :: p.cache.entries)).length ≤ lists.length := by
      apply (hnodup.subperm _).length_le
      intro key hkey
      obtain ⟨m, hm, rfl⟩ := List.mem_map.mp (hsubset hkey)
      exact hlists m hm
    rw [keys, List.length_map] at hle
    exact hle.trans hlength
  rw [List.take_of_length_le hfits] at hobtain
  refine ⟨?_, ?_, fun others settings' he => ?_, ?_⟩
  · rw [Event.perform, hobtain]
    exact hnodup
  · exact List.forall_mem_append.mpr ⟨h.textual, by simpa using ht⟩
  · rw [Event.perform, hobtain] at he
    rcases List.mem_cons.mp he with heq | he
    · cases heq
      exact ⟨_, hfirst, hb⟩
    · obtain ⟨m, hm, hbuild⟩ := h.made others settings' he
      exact ⟨m, hm.concat _, hbuild⟩
  · rw [Event.perform, hobtain, keys_cons]
    refine List.forall_mem_append.mpr ⟨fun m hm settings hok => ?_, ?_⟩
    · exact List.mem_cons_of_mem _ (h.kept m hm settings hok)
    · simp

lemma Consistent.refuse (h : Consistent c p) (ht : Textual arguments) (hk : arguments ∉ keys p.cache.entries)
    (hb : build c p.around arguments = .error f) : Consistent c (Event.perform c (.call arguments) p) := by
  have hobtain := obtain_of_refused ht hk hb
  refine ⟨?_, ?_, fun others settings he => ?_, ?_⟩
  · rw [Event.perform, hobtain]
    exact h.nodup
  · exact List.forall_mem_append.mpr ⟨h.textual, by simpa using ht⟩
  · rw [Event.perform, hobtain] at he
    obtain ⟨m, hm, hbuild⟩ := h.made others settings he
    exact ⟨m, hm.concat _, hbuild⟩
  · rw [Event.perform, Process.answer, hobtain]
    exact List.forall_mem_append.mpr ⟨h.kept, by simp⟩

lemma Consistent.call (h : Consistent c p) (ht : Textual arguments)
    (hm : Modest (Event.perform c (.call arguments) p)) :
    Consistent c (Event.perform c (.call arguments) p) := by
  by_cases hk : arguments ∈ keys p.cache.entries
  · obtain ⟨settings, hs⟩ := exists_of_mem_keys hk
    exact h.recall ht hs
  · cases hb : build c p.around arguments with
    | ok settings => exact h.remember ht hk hb hm
    | error f => exact h.refuse ht hk hb

end Steps

section Runs

variable {around : Sources} {events : List Event} {event : Event} {arguments : Arguments}

lemma Admissible.init {p : Process} (h : Admissible c (events ++ [event]) p) : Admissible c events p :=
  ⟨fun arguments ha => h.textual arguments (List.mem_append_left _ ha),
    fun earlier he => h.modest earlier (he.trans (List.prefix_append _ _))⟩

lemma run_consistent (h : Admissible c events { around }) : Consistent c (run c events { around }) := by
  induction events using List.reverseRecOn with
  | nil => exact ⟨List.nodup_nil, by simp [run], by simp [run], by simp [run]⟩
  | append_singleton events event ih =>
    have hc := ih h.init
    have hmodest := h.modest (events ++ [event]) List.prefix_rfl
    rw [run_concat] at hmodest ⊢
    cases event with
    | change environment file => exact ⟨hc.nodup, hc.textual, hc.made, hc.kept⟩
    | clear => exact ⟨List.nodup_nil, by simp [Event.perform], by simp [Event.perform], by simp [Event.perform]⟩
    | call arguments => exact hc.call (h.textual arguments (by simp)) hmodest

lemma admissible_of_lists {lists : List Arguments} (hl : lists.length ≤ capacity)
    (h : ∀ arguments, .call arguments ∈ events → Textual arguments ∧ arguments ∈ lists) :
    Admissible c events { around } := by
  refine ⟨fun arguments ha => (h arguments ha).1, fun earlier he => ⟨lists, hl, fun m hm => ?_⟩⟩
  exact (h m.arguments (he.subset (mem_asked hm))).2

lemma build_perm {arguments arguments' : Arguments} (h : (present arguments').Perm (present arguments))
    (hn : ((present arguments').map fun a => Text.lower a.1).Nodup) (around : Sources) :
    build c around arguments' = build c around arguments := by
  have hdistinct (a : String × Value) (ha : a ∈ present arguments') (b : String × Value) (hb : b ∈ present arguments')
      (hab : Text.lower a.1 = Text.lower b.1) : a = b := List.inj_on_of_nodup_map hn ha hb hab
  apply make_congr
  intro names
  simp only [Sources.given, Sources.variables, Sources.fileVariables, c.unordered h hdistinct]

structure Remembers (c : Collection) (p : Process) (arguments : Arguments) : Prop where
  grounded : ∃ around, InForce p arguments around
  answered : ∀ around, InForce p arguments around → p.answer c arguments = build c around arguments
  failed : ∀ f, p.answer c arguments = .error f → build c p.around arguments = .error f ∧
    ∀ later others, (run c later (Event.perform c (.call arguments) p)).answer c others =
      (run c later p).answer c others
  steady : (∀ m ∈ p.asked, m.around = p.around) → p.answer c arguments = build c p.around arguments ∧
    ∀ arguments', (present arguments').Perm (present arguments) →
      ((present arguments').map fun a => Text.lower a.1).Nodup → p.answer c arguments = build c p.around arguments'

lemma Consistent.remembers {p : Process} (h : Consistent c p) (ht : Textual arguments) : Remembers c p arguments := by
  have hanswer (around : Sources) (hforce : InForce p arguments around) :
      p.answer c arguments = build c around arguments := h.answer_eq ht hforce
  refine ⟨exists_inForce p arguments, hanswer, fun f hf => ?_, fun hsteady => ?_⟩
  · obtain ⟨hb, hcache⟩ := h.of_answer_error ht hf
    refine ⟨hb, fun later others => ?_⟩
    have hvariables : (Event.perform c (.call arguments) p).around = p.around := rfl
    obtain ⟨haround, hsame⟩ := run_congr hvariables hcache later
    rw [Process.answer, haround, hsame, Process.answer]
  · have hcurrent : p.answer c arguments = build c p.around arguments := by
      obtain ⟨around, hforce⟩ := exists_inForce p arguments
      cases hforce with
      | remembered hfirst => rw [hanswer _ (.remembered hfirst), hsteady _ hfirst.mem]
      | current hfailed => exact hanswer _ (.current hfailed)
    exact ⟨hcurrent, fun arguments' hperm hn => hcurrent.trans (build_perm hperm hn p.around).symm⟩

/--
An answer is made from the arguments that have a value, under the variables of the first call for the same arguments
that succeeded since the last clearing, and else under the current ones.
-/
theorem answer_since_clearing (c : Collection) (start : Sources) (events : List Event) (arguments : Arguments)
    (h : Admissible c (events ++ [.call arguments]) { around := start }) :
    Remembers c (run c events { around := start }) arguments :=
  (run_consistent h.init).remembers (h.textual arguments (by simp))

end Runs

def onPort (port : String) : Sources := { environment := [("PORT", port)] }

def sqlCall : Arguments := [("host", .null), ("backend", .text "sql")]

def wrongCall : Arguments := [("backend", .text "SQL")]

def sqlOnPortOne : Settings := { port := 1, backend := .sql }

def portChange : List Event := [.call sqlCall, .change [("PORT", "2")] none, .call wrongCall]

theorem answer_since_clearing_portChange :
    Admissible .caseless (portChange ++ [.call sqlCall]) { around := onPort "1" } ∧
      build .caseless (run .caseless portChange { around := onPort "1" }).around sqlCall =
        .ok { sqlOnPortOne with port := 2 } ∧
      (run .caseless portChange { around := onPort "1" }).answer .caseless sqlCall = .ok sqlOnPortOne := by
  have hadmissible : Admissible .caseless (portChange ++ [.call sqlCall]) { around := onPort "1" } := by
    have hsql : Textual sqlCall :=
      List.forall_mem_cons.mpr ⟨Or.inl rfl, List.forall_mem_singleton.mpr (Or.inr ⟨_, rfl⟩)⟩
    have hwrong : Textual wrongCall := List.forall_mem_singleton.mpr (Or.inr ⟨_, rfl⟩)
    apply admissible_of_lists (show [sqlCall, wrongCall].length ≤ capacity by decide)
    simp [portChange, hsql, hwrong]
  have hfirst : IsFirst (run .caseless portChange { around := onPort "1" }).asked sqlCall
      ⟨onPort "1", sqlCall, .ok sqlOnPortOne⟩ := ⟨⟨[], _, rfl, by simp⟩, rfl, _, rfl⟩
  have hremembers := answer_since_clearing .caseless (onPort "1") portChange sqlCall hadmissible
  exact ⟨hadmissible, rfl, (hremembers.answered _ (.remembered hfirst)).trans rfl⟩

end TaskBoard.Proofs.Settings
