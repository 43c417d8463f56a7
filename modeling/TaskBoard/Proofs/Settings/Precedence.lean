import TaskBoard.Proofs.Settings.Calls
import TaskBoard.Proofs.Settings.References

/-!
Each setting is made from the value of the strongest source that has one under its names. Other names count only where
a line of the file refers to them.
-/

namespace TaskBoard.Proofs.Settings

open TaskBoard.Settings Proofs.Entries Outcome

inductive Field where
  | host
  | port
  | serviceName
  | vcapServices
  | backend
  | sqlUrl
  | logLevel
  | logForm

namespace Field

def Kind : Field → Type
  | host | sqlUrl => String
  | port | logLevel => ℤ
  | serviceName | vcapServices => Option String
  | backend => StoreKind
  | logForm => LineForm

def names : Field → List String
  | host => ["host"]
  | port => ["port"]
  | serviceName => ["service_name"]
  | vcapServices => ["vcap_services"]
  | backend => ["TASKLIST_BACKEND", "backend"]
  | sqlUrl => ["TASKLIST_SQL_URL", "sql_url"]
  | logLevel => ["log_level"]
  | logForm => ["log_format"]

def check : (f : Field) → Check f.Kind
  | host | sqlUrl => checkText
  | port => checkWhole
  | serviceName | vcapServices => checkOptionalText
  | backend => checkBackend
  | logLevel => checkLevel
  | logForm => checkForm

def value : (f : Field) → Settings → f.Kind
  | host => Settings.host
  | port => Settings.port
  | serviceName => Settings.serviceName
  | vcapServices => Settings.vcapServices
  | backend => Settings.backend
  | sqlUrl => Settings.sqlUrl
  | logLevel => Settings.logLevel
  | logForm => Settings.logForm

def default (f : Field) : f.Kind := f.value {}

def all : List Field := [host, port, serviceName, vcapServices, backend, sqlUrl, logLevel, logForm]

def outcome (f : Field) (c : Collection) (s : Sources) : Except Problem f.Kind := settle c s f.names f.check f.default

end Field

inductive Settles (c : Collection) (s : Sources) (f : Field) : f.Kind → Prop
  | converted {v : Value} {a : f.Kind} (h : Decides c s f.names (some v)) (ha : f.check v = .ok a) : Settles c s f a
  | default (h : Decides c s f.names none) : Settles c s f f.default

inductive Breaks (c : Collection) (s : Sources) (f : Field) : Problem → Prop
  | mk {v given : Value} {name rule message : String} (h : Decides c s f.names (some v)) (hn : name ∈ f.names)
      (he : f.check v = .error (rule, message, given)) : Breaks c s f ⟨[name], rule, message, given⟩

section Fields

variable {c : Collection} {s : Sources} {f : Field} {settings : Settings} {e : Failure} {p : Problem}

lemma Field.names_ne_nil (f : Field) : f.names ≠ [] := by
  cases f <;> exact List.cons_ne_nil _ _

lemma settles_iff {a : f.Kind} : Settles c s f a ↔ f.outcome c s = .ok a := by
  rw [Field.outcome, settle]
  constructor
  · rintro (⟨h, ha⟩ | h)
    · obtain ⟨g, hg, rfl⟩ := Option.map_eq_some_iff.mp (decides_iff.mp h)
      simp only [hg, ha]
    · rw [decides_iff, Option.map_eq_none_iff] at h
      simp only [h]
  · intro h
    cases hg : s.given c f.names with
    | none =>
      rw [hg] at h
      cases h
      exact .default (decides_iff.mpr (by rw [hg]; rfl))
    | some g =>
      simp only [hg] at h
      cases hc : f.check g.value with
      | error flaw =>
        rw [hc] at h
        cases h
      | ok a' =>
        rw [hc] at h
        cases h
        exact .converted (decides_iff.mpr (by rw [hg]; rfl)) hc

lemma breaks_of_outcome (h : f.outcome c s = .error p) : Breaks c s f p := by
  rw [Field.outcome, settle] at h
  cases hg : s.given c f.names with
  | none =>
    rw [hg] at h
    cases h
  | some g =>
    simp only [hg] at h
    cases hc : f.check g.value with
    | ok a =>
      rw [hc] at h
      cases h
    | error flaw =>
      rw [hc] at h
      cases h
      exact .mk (decides_iff.mpr (by rw [hg]; rfl)) (mem_of_given f.names_ne_nil hg) hc

lemma Breaks.not_settles (h : Breaks c s f p) (a : f.Kind) : ¬ Settles c s f a := by
  intro ha
  cases h with
  | mk h hn he =>
    rw [decides_iff] at h
    cases ha with
    | converted h' ha =>
      cases h.symm.trans (decides_iff.mp h')
      cases he.symm.trans ha
    | default h' => cases h.symm.trans (decides_iff.mp h')

lemma make_eq_ok : make c s = .ok settings ↔ ∀ f : Field, f.outcome c s = .ok (f.value settings) := by
  constructor
  · intro h
    simp only [make] at h
    split at h
    · rename_i hhost hport hname hservices hbackend hurl hlevel hform
      cases h
      intro f
      cases f
      exacts [hhost, hport, hname, hservices, hbackend, hurl, hlevel, hform]
    · cases h
  · intro h
    have hhost : settle c s ["host"] checkText "0.0.0.0" = .ok settings.host := h .host
    have hport : settle c s ["port"] checkWhole 8080 = .ok settings.port := h .port
    have hname : settle c s ["service_name"] checkOptionalText none = .ok settings.serviceName := h .serviceName
    have hservices : settle c s ["vcap_services"] checkOptionalText none = .ok settings.vcapServices := h .vcapServices
    have hbackend : settle c s ["TASKLIST_BACKEND", "backend"] checkBackend .datastore = .ok settings.backend :=
      h .backend
    have hurl : settle c s ["TASKLIST_SQL_URL", "sql_url"] checkText "sqlite:///data/tasks.db" = .ok settings.sqlUrl :=
      h .sqlUrl
    have hlevel : settle c s ["log_level"] checkLevel Log.info = .ok settings.logLevel := h .logLevel
    have hform : settle c s ["log_format"] checkForm .plain = .ok settings.logForm := h .logForm
    simp only [make, hhost, hport, hname, hservices, hbackend, hurl, hlevel, hform]

lemma make_eq_error (h : make c s = .error e) :
    e = .ofReason (.rejected "AppSettings" (Field.all.flatMap fun f => problem? (f.outcome c s))) := by
  simp only [make] at h
  split at h
  · cases h
  · cases h
    simp [Field.all, Field.outcome, Field.names, Field.check, Field.default, Field.value]
    rfl

lemma exists_settings (h : ∀ f : Field, ∃ a, f.outcome c s = .ok a) : ∃ settings, make c s = .ok settings := by
  choose a ha using h
  refine ⟨⟨a .host, a .port, a .serviceName, a .vcapServices, a .backend, a .sqlUrl, a .logLevel, a .logForm⟩, ?_⟩
  rw [make_eq_ok]
  intro f
  rw [ha f]
  cases f <;> rfl

open scoped Classical

lemma breaks_problems (c : Collection) (s : Sources) (fields : List Field) :
    List.Forall₂ (Breaks c s) (fields.filter fun f => decide (∃ p, Breaks c s f p))
      (fields.flatMap fun f => problem? (f.outcome c s)) := by
  induction fields with
  | nil => exact .nil
  | cons f fields ih =>
    rw [List.flatMap_cons]
    cases ho : f.outcome c s with
    | ok a =>
      have hnone : ¬ ∃ p, Breaks c s f p := fun ⟨p, hp⟩ => hp.not_settles a (settles_iff.mpr ho)
      rw [List.filter_cons_of_neg (by simpa using hnone)]
      exact ih
    | error p =>
      have hp := breaks_of_outcome ho
      rw [List.filter_cons_of_pos (by simpa using ⟨p, hp⟩)]
      exact .cons hp ih

end Fields

section Disturbing

variable {α β : Type} {c : Collection} {names : List String} {s s' : Sources}

def lines (s : Sources) : List Dotenv.Binding :=
  match s.file with
  | some text =>
    let chars := Dotenv.normalLines text.toList
    Dotenv.bindings (chars.length + 1) chars
  | none => []

lemma fileVariables_eq (s : Sources) : s.fileVariables = Dotenv.resolve s.environment (lines s) := by
  rw [Sources.fileVariables, lines]
  cases s.file <;> rfl

open scoped Classical

def SameUnder (names : List String) (l l' : List (String × α)) : Prop :=
  (l.filter fun e => decide (Under names e.1)) = l'.filter fun e => decide (Under names e.1)

/--
The sources differ at most in what a setting with these names does not depend on: in weaker sources than the one that
decides, and in what neither stands under the names nor is referred to from there.
-/
inductive Undisturbed (c : Collection) (names : List String) (s s' : Sources) : Prop
  | arguments {v : Value} (h : Offers c s names .arguments v) (ha : SameUnder names s.arguments s'.arguments)
  | environment {v : Value} (ha : SameUnder names s.arguments s'.arguments)
      (h : Offers c s names .environment v) (he : SameUnder names s.environment s'.environment)
  | file (ha : SameUnder names s.arguments s'.arguments) (he : SameUnder names s.environment s'.environment)
      (hlines : restrict (Needs names (lines s)) (lines s) = restrict (Needs names (lines s)) (lines s'))
      (hreferred : ∀ name, Needs names (lines s) name → s.environment.lookup name = s'.environment.lookup name)

lemma first?_of_sameUnder {l l' : List (String × β)} (h : SameUnder names l l') (g : β → Option α) :
    first? names (l.map (Prod.map id g)) = first? names (l'.map (Prod.map id g)) := by
  apply first?_of_filter (p := fun e => decide (Under names e.1)) fun e he => decide_eq_true he
  rw [List.filter_map, List.filter_map]
  exact congrArg (List.map _) h

lemma offered_arguments (h : SameUnder names s.arguments s'.arguments) :
    offered c s names .arguments = offered c s' names .arguments := by
  have hunder (a : String × Value) : decide (Under names a.1) = isUnder names a.1 := by
    rw [Bool.eq_iff_iff, decide_eq_true_iff, isUnder_iff, Under]
  simp only [SameUnder, hunder] at h
  rw [offered, offered, c.separate h]

lemma offered_environment (h : SameUnder names s.environment s'.environment) :
    offered c s names .environment = offered c s' names .environment :=
  congrArg (Option.map Value.text) (first?_of_sameUnder h some)

lemma offered_file (hlines : restrict (Needs names (lines s)) (lines s) = restrict (Needs names (lines s)) (lines s'))
    (hreferred : ∀ name, Needs names (lines s) name → s.environment.lookup name = s'.environment.lookup name) :
    offered c s names .file = offered c s' names .file := by
  have hclosed : Closed (Needs names (lines s)) (lines s) := fun name value other hn hb hm => .mentioned hn hb hm
  have hsame := restrict_resolve hclosed hreferred hlines
  rw [← fileVariables_eq, ← fileVariables_eq] at hsame
  refine congrArg (Option.map Value.text) (first?_of_filter (p := fun e => decide (Needs names (lines s) e.1)) ?_ hsame)
  rintro e ⟨name, hname, he⟩
  exact decide_eq_true (.own hname he)

lemma Undisturbed.decides_iff (h : Undisturbed c names s s') (v : Option Value) :
    Decides c s names v ↔ Decides c s' names v := by
  rw [Settings.decides_iff, Settings.decides_iff, value_given, value_given]
  cases h with
  | arguments h ha =>
    rw [← offered_arguments ha, offers_iff.mp h, Option.some_or, Option.some_or]
  | environment ha h he =>
    rw [← offered_arguments ha, ← offered_environment he, offers_iff.mp h, Option.some_or, Option.some_or]
  | file ha he hlines hreferred => rw [offered_arguments ha, offered_environment he, offered_file hlines hreferred]

end Disturbing

section Backends

variable {c : Collection} {around : Sources} {b : StoreKind} {settings : Settings}

lemma Field.names_distinct (f : Field) : ∀ n ∈ f.names, ∀ m ∈ f.names, SameName n m → n = m := by
  cases f <;> decide

def backendCall (b : StoreKind) : Arguments := [("backend", .text b.name)]

lemma backendCall_textual (b : StoreKind) : Textual (backendCall b) :=
  List.forall_mem_singleton.mpr (Or.inr ⟨b.name, rfl⟩)

lemma offered_backendCall (c : Collection) (around : Sources) (b : StoreKind) :
    offered c { around with arguments := present (backendCall b) } (Field.names .backend) .arguments =
      some (.text b.name) := by
  have hpresent : present (backendCall b) = [("backend", .text b.name)] := rfl
  rw [offered, hpresent, take_iff_stands (Field.names_distinct .backend) (by simp [keys])]
  · exact ⟨["TASKLIST_BACKEND"], "backend", [], rfl, List.mem_singleton_self _, by simp [keys]⟩
  · rintro a ha -
    rw [List.mem_singleton.mp ha]
    exact List.mem_of_getLast? rfl

lemma backend_of_build (h : build c around (backendCall b) = .ok settings) : settings.backend = b := by
  have hdecides : Decides c { around with arguments := present (backendCall b) } (Field.names .backend)
      (some (.text b.name)) := by
    rw [decides_iff, value_given, offered_backendCall, Option.some_or]
  have hsettles : Settles c { around with arguments := present (backendCall b) } .backend b :=
    .converted hdecides (by cases b <;> rfl)
  cases (make_eq_ok.mp h .backend).symm.trans (settles_iff.mp hsettles)
  rfl

lemma backend_of_answer {events : List Event}
    (h : (run c events { around }).answer c (backendCall b) = .ok settings) : settings.backend = b := by
  have ht := backendCall_textual b
  rw [Process.answer, obtain, usable_of_textual ht] at h
  simp only at h
  split at h
  · -- What is remembered was made from the same argument, whatever the variables were then.
    rename_i e he
    cases h
    obtain ⟨earlier, hbuild⟩ := run_made events around e (List.mem_of_find?_eq_some he)
    have hsame := List.find?_some he
    rw [(sameArguments_iff ht).mp hsame] at hbuild
    exact backend_of_build hbuild
  · split at h
    · rename_i hbuild
      cases h
      exact backend_of_build hbuild
    · cases h

end Backends

structure InOrder (c : Collection) (s : Sources) : Prop where
  settled : ∀ settings, make c s = .ok settings ↔ ∀ f : Field, Settles c s f (f.value settings)
  collected : ∀ (f : Field) (v : Value),
    (Offers c s f.names .arguments v → ∃ a ∈ s.arguments, Under f.names a.1 ∧ a.2 = v) ∧
      ((keys s.arguments).Nodup → (∀ a ∈ s.arguments, Under f.names a.1 → a.1 ∈ f.names) →
        (Offers c s f.names .arguments v ↔ Stands f.names s.arguments v))
  broken : ∀ e, make c s = .error e → ∃ problems, problems ≠ [] ∧ e = .ofReason (.rejected "AppSettings" problems) ∧
    ∃ fields, fields.Sublist Field.all ∧ (∀ f, f ∈ fields ↔ ∃ p, Breaks c s f p) ∧
      List.Forall₂ (Breaks c s) fields problems
  undisturbed : ∀ (s' : Sources) (f : Field), Undisturbed c f.names s s' →
    ∀ v, Decides c s f.names v ↔ Decides c s' f.names v
  demanded : ∀ events b settings, (run c events { around := s }).answer c (backendCall b) = .ok settings →
    settings.backend = b

section Order

open scoped Classical

theorem settings_in_order (c : Collection) (s : Sources) : InOrder c s where
  settled settings := by
    simp only [make_eq_ok, settles_iff]
  collected f v := by
    refine ⟨?_, fun hd hspelled => ?_⟩
    · rintro ⟨h⟩
      exact under_of_take h
    · rw [offers_iff, offered, take_iff_stands f.names_distinct hd hspelled]
  broken e he := by
    refine ⟨_, fun hnil => ?_, make_eq_error he, _, List.filter_sublist, fun f => ?_, breaks_problems c s Field.all⟩
    · have hall (f : Field) : ∃ a, f.outcome c s = .ok a := by
        have hf := List.flatMap_eq_nil_iff.mp hnil f (by cases f <;> simp [Field.all])
        cases ho : f.outcome c s with
        | ok a => exact ⟨a, rfl⟩
        | error p =>
          rw [ho] at hf
          cases hf
      obtain ⟨settings, hs⟩ := exists_settings hall
      cases hs.symm.trans he
    · have hmem : f ∈ Field.all := by cases f <;> simp [Field.all]
      simp [hmem]
  undisturbed s' f h := h.decides_iff
  demanded events b settings := backend_of_answer

end Order

def mixedSources : Sources where
  arguments := [("port", .int 1)]
  environment := [("Port", "2"), ("backend", "memory")]
  file := some "TASKLIST_BACKEND=sql\nPORT=x\n"

theorem settings_in_order_mixed : make .caseless mixedSources = .ok { port := 1, backend := .memory } ∧
    (∀ f : Field, Settles .caseless mixedSources f (f.value { port := 1, backend := .memory })) ∧
    ∀ (file : Option String) (v : Option Value), Decides .caseless mixedSources (Field.names .backend) v ↔
      Decides .caseless { mixedSources with file } (Field.names .backend) v := by
  have hmake : make .caseless mixedSources = .ok { port := 1, backend := .memory } := by rfl
  have horder := settings_in_order .caseless mixedSources
  have hoffers : Offers .caseless mixedSources (Field.names .backend) .environment (.text "memory") :=
    offers_iff.mpr (by rfl)
  refine ⟨hmake, (horder.settled _).mp hmake, fun file => ?_⟩
  exact horder.undisturbed { mixedSources with file } .backend (.environment rfl hoffers rfl)

def referring (word : String) : Sources where
  environment := [("FOO", word)]
  file := some "HOST=$\x7bFOO\x7d\n"

theorem foreign_name_counts : ¬ ∀ (c : Collection) (s s' : Sources), s.arguments = s'.arguments → s.file = s'.file →
    (∀ f : Field, SameUnder f.names s.environment s'.environment) →
    ∀ settings settings', make c s = .ok settings → make c s' = .ok settings' → settings.host = settings'.host := by
  intro h
  have hforeign (f : Field) : ¬ Under f.names "FOO" := by
    unfold Under
    cases f <;> decide
  have hsame (f : Field) : SameUnder f.names (referring "a").environment (referring "b").environment := by
    simp [SameUnder, referring, hforeign]
  have hhost := h .caseless (referring "a") (referring "b") rfl rfl hsame { host := "a" } { host := "b" } (by rfl)
    (by rfl)
  exact absurd hhost (by decide)

end TaskBoard.Proofs.Settings
