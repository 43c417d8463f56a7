import TaskBoard.Proofs.Settings.Precedence
import TaskBoard.Terminal.Session

namespace TaskBoard.Proofs.Terminal

open TaskBoard.Terminal Proofs.Entries Proofs.Settings Outcome

section Actions

variable {α β : Type} {act : Action α} {s s' : Session} {a : α} {f : Failure} {e : Ending}
  {notice : Failure → Option Notice}

lemma bind_of_ok {next : α → Action β} (h : act s = .ok a s') : (act >>= next) s = next a s' := by
  simp only [bind, EStateM.bind, h]

lemma bind_of_error {next : α → Action β} (h : act s = .error e s') : (act >>= next) s = .error e s' := by
  simp only [bind, EStateM.bind, h]

lemma orNotice_of_ok (h : act s = .ok a s') : orNotice notice act s = .ok a s' := by
  simp only [orNotice, orElse, h]

lemma orNotice_of_crash {n : Notice} (h : act s = .error (.crash f) s') (hn : notice f = some n) :
    orNotice notice act s = fail n s' := by
  simp only [orNotice, orElse, h, hn, Option.map_some]

lemma orNotice_of_unplanned (h : act s = .error (.crash f) s') (hn : notice f = none) :
    orNotice notice act s = .error (.crash f) s' := by
  simp only [orNotice, orElse, h, hn, Option.map_none]

end Actions

section Words

variable {x : String}

def callLine (backend : Option String) (name : String) (words : List String) : List String :=
  backend.elim [] (fun b => ["--backend", b]) ++ name :: words

lemma read_callLine {name : String} (hn : name ∈ commandNames) (backend : Option String) (words : List String) :
    Call.read (callLine backend name words) = .ok ⟨backend, name, words⟩ := by
  simp only [commandNames, List.mem_cons, List.not_mem_nil, or_false] at hn
  cases backend with
  | none => rcases hn with rfl | rfl | rfl | rfl | rfl <;> rfl
  | some b => rcases hn with rfl | rfl | rfl | rfl | rfl <;> rfl

lemma sortWords_single (hx : x.toList.head? ≠ some '-') :
    sortWords [helpForm] false [x] = some { words := [x] } := by
  have hend : (x == "--") = false := by
    rw [beq_eq_false_iff_ne]
    rintro rfl
    exact hx rfl
  have hoption : isOption x = false := by
    rw [isOption, Bool.and_eq_false_iff]
    exact Or.inl (by simpa using hx)
  simp [sortWords, hend, hoption]

lemma command?_done {backend : Option String} (hx : x.toList.head? ≠ some '-') :
    Call.command? ⟨backend, "done", [x]⟩ = .ok (.complete x) := by
  simp [Call.command?, Call.parsed, sortWords_single hx, Parsed.given, single?, bind, Except.bind, pure, Except.pure]

lemma command?_delete {backend : Option String} (hx : x.toList.head? ≠ some '-') :
    Call.command? ⟨backend, "delete", [x]⟩ = .ok (.delete x) := by
  simp [Call.command?, Call.parsed, sortWords_single hx, Parsed.given, single?, bind, Except.bind, pure, Except.pure]

end Words

structure Ready (world : World) (backend : Option String) (settings : Settings) (o : OpenedStore) : Prop where
  obtained : (Settings.obtain world.collection {} { environment := world.environment, file := world.file }
    [("backend", (backend.map Value.text).getD .null)]).1 = .ok settings
  found : (Startup.run settings world.around).result = .ok o

def begun (world : World) (settings : Settings) : Session :=
  { world, logging := ⟨settings.logLevel, settings.logForm == LineForm.json⟩ }

def started (world : World) (settings : Settings) : Session :=
  { begun { world with around := { world.around with disk := (Startup.run settings world.around).disk } } settings with
    journal := (Startup.run settings world.around).journal
    connections := (Startup.run settings world.around).connections }

section Starting

variable {world : World} {backend : Option String} {settings : Settings} {o : OpenedStore}
  (h : Ready world backend settings o)

include h

lemma configure_of_ready : configure backend { world } = .ok settings (begun world settings) := by
  have hmade : orNotice Notice.ofSettings (orCrash (.ok settings)) ({ world } : Session) = .ok settings { world } :=
    orNotice_of_ok rfl
  rw [← h.obtained] at hmade
  exact (bind_of_ok rfl).trans ((bind_of_ok hmade).trans rfl)

lemma openStore_of_ready : openStore settings (begun world settings) = .ok o (started world settings) := by
  simp only [openStore, orElse, startUp, begun, h.found]
  rfl

lemma execute_of_ready {name : String} (hn : name ∈ commandNames) {words : List String} {command : Command}
    (hc : Call.command? ⟨backend, name, words⟩ = .ok command) :
    execute (callLine backend name words) { world } = perform settings command (begun world settings) := by
  have hread : orExit (Call.read (callLine backend name words)) ({ world } : Session) =
      .ok ⟨backend, name, words⟩ { world } := by
    rw [read_callLine hn]
    rfl
  have hcommand : orExit (Call.command? ⟨backend, name, words⟩) (begun world settings) =
      .ok command (begun world settings) := by
    rw [hc]
    rfl
  exact (bind_of_ok hread).trans ((bind_of_ok (configure_of_ready h)).trans (bind_of_ok hcommand))

end Starting

structure Opens (world : World) (settings : Settings) (location : Location) (d : Database) (disk : Disk) : Prop where
  made : Settings.make world.collection
    { arguments := [("backend", .text "sql")], environment := world.environment, file := world.file } = .ok settings
  found : world.around.disk.openUrl settings.sqlUrl = (.ok ⟨location, d⟩, disk)

def opened (world : World) (settings : Settings) (disk : Disk) : Session :=
  { begun { world with around := { world.around with disk } } settings with
    journal := [Startup.note Log.info ("using SQL store at " ++ settings.sqlUrl)] }

section Opening

variable {world : World} {settings : Settings} {location : Location} {d : Database} {disk : Disk}
  (h : Opens world settings location d disk)

include h

lemma Opens.build_eq :
    build world.collection { environment := world.environment, file := world.file } (backendCall .sql) = .ok settings :=
  h.made

lemma Opens.backend_eq : settings.backend = .sql := backend_of_build h.build_eq

lemma Opens.run_eq : Startup.run settings world.around =
    { result := .ok ⟨.sql d, location⟩
      journal := [Startup.note Log.info ("using SQL store at " ++ settings.sqlUrl)], disk } := by
  rw [Startup.run, h.backend_eq, Startup.openSql, h.found]
  rfl

lemma Opens.ready : Ready world (some "sql") settings ⟨.sql d, location⟩ where
  obtained := congrArg Prod.fst (obtain_of_built (backendCall_textual .sql) List.not_mem_nil h.build_eq)
  found := by rw [h.run_eq]

lemma openStore_of_opens :
    openStore settings (begun world settings) = .ok ⟨.sql d, location⟩ (opened world settings disk) := by
  rw [openStore_of_ready h.ready, started, h.run_eq]
  rfl

end Opening

section Using

variable {α : Type} {act : Service.Action α} {s : Session} {o : OpenedStore} {service : Service} {a : α} {f : Failure}

lemma use_of_ok (h : act ⟨{ backend := o.backend }, s.world.clock⟩ = .ok a service) :
    use o act s = .ok a (s.after o.location service) := by
  simp only [use, h]

lemma use_of_error (h : act ⟨{ backend := o.backend }, s.world.clock⟩ = .error f service) :
    use o act s = .error (.crash f) (s.after o.location service) := by
  simp only [use, h]

end Using

section Disks

variable {disk disk' : Disk} {url : String} {o : OpenedDatabase}

lemma keep_of_openDatabase (h : disk.openDatabase url = (.ok o, disk')) : disk'.keep o = disk' := by
  rw [Disk.openDatabase] at h
  split at h
  · cases h
  · cases h
    rfl
  · split at h
    · cases h
    · -- The table was put in its place when it was opened.
      cases h
      simp only [Disk.keep, assign_assign_self]

lemma keep_of_openUrl (h : disk.openUrl url = (.ok o, disk')) : disk'.keep o = disk' := by
  rw [Disk.openUrl] at h
  split at h
  · cases h
  · exact keep_of_openDatabase h

end Disks

end TaskBoard.Proofs.Terminal
