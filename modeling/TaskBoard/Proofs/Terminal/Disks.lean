import TaskBoard.Proofs.Services.Reached
import TaskBoard.Proofs.Terminal.Calls

/-! The disks that calls of the program leave: a service can go on with each of their tables. -/

namespace TaskBoard.Proofs.Terminal

open TaskBoard.Terminal TaskBoard.Entries Proofs.Entries Stores Services

/-- A disk without tables, and then what call after call leaves of it, with any words and variables. -/
inductive Left : Disk → Prop
  | bare {disk : Disk} (h : disk.databases = []) : Left disk
  | call {world : World} (h : Left world.around.disk) (hclock : Punctual world.clock) (line : List String) :
    Left (Terminal.run world line).session.world.around.disk

def Serving (b : Backend) : Prop :=
  ∃ tasks, Serves (fun id => TaskId.inRange id = true) ⟨⟨b, []⟩, .scripted .epoch []⟩ tasks

def Tables (disk : Disk) : Prop := ∀ e ∈ disk.databases, Serving (.sql e.2)

def tableIn (disk : Disk) (path : String) : Database := ((disk.databases.lookup path).getD ⟨none⟩).prepare

def SameTables (before after : Disk) : Prop := ∀ path, tableIn after path = tableIn before path

def Usable (o : OpenedStore) : Prop := o.location = .volatile ∨ Serving o.backend

structure Tidy (world : World) : Prop where
  clock : Punctual world.clock
  tables : Tables world.around.disk

section Backends

variable {s : Service} {d : Database}

lemma serving_of_serves {tasks : List (ℤ × Task)} (h : Serves (fun id => TaskId.inRange id = true) s tasks) :
    Serving s.store.backend := ⟨tasks, h.of_eq rfl⟩

lemma Serving.serves (h : Serving s.store.backend) :
    ∃ tasks, Serves (fun id => TaskId.inRange id = true) s tasks := by
  obtain ⟨tasks, h⟩ := h
  exact ⟨tasks, h.of_eq rfl⟩

lemma serving_of_fresh {b : Backend} (h : Fresh b) : Serving b := ⟨[], Fresh.serves h [] _⟩

lemma Serving.prepare_eq (h : Serving (.sql d)) : d.prepare = d := by
  obtain ⟨tasks, hs⟩ := h
  obtain ⟨rows⟩ := d
  obtain rfl : rows = some (InTable.rowsOf tasks) := hs.holds.stored.1
  rfl

lemma perform_serving (h : Serving s.store.backend) (hc : Punctual s.clock) (call : Services.Call) :
    Serving (call.perform s).store.backend := by
  obtain ⟨tasks, hs⟩ := h.serves
  obtain ⟨tasks', hs'⟩ := perform_serves hs hc call
  exact serving_of_serves hs'

lemma perform_punctual (hc : Punctual s.clock) (call : Services.Call) : Punctual (call.perform s).clock := by
  rcases perform_clock call s with h | h <;> rw [h]
  · exact hc
  · exact hc.advance

end Backends

section Opening

variable {disk : Disk} {url : String} {settings : Settings} {around : Surroundings}

lemma tables_assign (h : Tables disk) {d : Database} (hd : Serving (.sql d)) (path : String) :
    Tables { disk with databases := assign path d disk.databases } := by
  intro e he
  rcases mem_assign he with rfl | he
  · exact hd
  · exact h e he

lemma serving_tableIn (h : Tables disk) (path : String) : Serving (.sql (tableIn disk path)) := by
  rw [tableIn]
  cases hl : disk.databases.lookup path with
  | none => exact serving_of_fresh .sql
  | some d =>
    have hd := h _ (mem_of_lookup hl)
    rw [Option.getD_some, hd.prepare_eq]
    exact hd

lemma openDatabase_tables (h : Tables disk) (url : String) : Tables (disk.openDatabase url).2 ∧
    ∀ o, (disk.openDatabase url).1 = .ok o → Serving (.sql o.database) := by
  rw [Disk.openDatabase]
  split
  · exact ⟨h, by simp⟩
  · refine ⟨h, ?_⟩
    rintro o ⟨⟩
    exact serving_of_fresh .sql
  · split
    · exact ⟨h, by simp⟩
    · have hd := serving_tableIn h
      refine ⟨tables_assign h (hd _) _, ?_⟩
      rintro o ⟨⟩
      exact hd _

lemma databases_of_makeFolders {made : Disk} (h : Location.makeFolders url disk = .ok made) :
    made.databases = disk.databases := by
  rw [Location.makeFolders] at h
  split at h
  · split at h
    · cases h
      rfl
    · simp only [Disk.makeFolders] at h
      split at h
      · cases h
      · split at h <;> cases h
        rfl
  · cases h
    rfl

lemma openUrl_tables (h : Tables disk) (url : String) : Tables (disk.openUrl url).2 ∧
    ∀ o, (disk.openUrl url).1 = .ok o → Serving (.sql o.database) := by
  rw [Disk.openUrl]
  split
  · exact ⟨h, by simp⟩
  · rename_i made hmade
    apply openDatabase_tables
    rwa [Tables, databases_of_makeFolders hmade]

lemma disk_openDatastore (settings : Settings) (around : Surroundings) :
    (Startup.openDatastore settings around).disk = around.disk := by
  simp only [Startup.openDatastore]
  split
  · rfl
  · split <;> rfl

lemma volatile_of_openDatastore {o : OpenedStore} (h : (Startup.openDatastore settings around).result = .ok o) :
    o.location = .volatile := by
  simp only [Startup.openDatastore] at h
  split at h
  · cases h
  · split at h <;> cases h
    rfl

lemma sameTables_openDatabase (disk : Disk) (url : String) : SameTables disk (disk.openDatabase url).2 := by
  intro path
  rw [Disk.openDatabase]
  split
  · rfl
  · rfl
  · rename_i place _
    split
    · rfl
    · by_cases hp : path = place
      · subst hp
        rw [tableIn, lookup_assign_self]
        rfl
      · rw [tableIn, lookup_assign_of_ne hp]
        rfl

lemma sameTables_openUrl (disk : Disk) (url : String) : SameTables disk (disk.openUrl url).2 := by
  intro path
  rw [Disk.openUrl]
  split
  · rfl
  · rename_i made hmade
    rw [sameTables_openDatabase made url path, tableIn, databases_of_makeFolders hmade, tableIn]

lemma sameTables_startup (settings : Settings) (around : Surroundings) :
    SameTables around.disk (Startup.run settings around).disk := by
  rw [Startup.run]
  split
  · rw [disk_openDatastore]
    exact fun _ => rfl
  · exact sameTables_openUrl _ _
  · exact fun _ => rfl

lemma startup_tables (h : Tables around.disk) (settings : Settings) : Tables (Startup.run settings around).disk := by
  rw [Startup.run]
  split
  · rwa [disk_openDatastore]
  · exact (openUrl_tables h _).1
  · exact h

lemma serving_of_startup (h : settings.backend = .memory ∨ settings.backend = .sql ∧ Tables around.disk)
    {o : OpenedStore} (ho : (Startup.run settings around).result = .ok o) : Serving o.backend := by
  rw [Startup.run] at ho
  rcases h with hb | ⟨hb, htables⟩
  · rw [hb] at ho
    cases ho
    exact serving_of_fresh .memory
  · rw [hb] at ho
    obtain ⟨opened, hopened, rfl⟩ := Outcome.map_eq_ok.mp ho
    exact (openUrl_tables htables _).2 opened hopened

lemma usable_of_startup (h : Tables around.disk) {o : OpenedStore}
    (ho : (Startup.run settings around).result = .ok o) : Usable o := by
  cases hb : settings.backend with
  | datastore =>
    rw [Startup.run, hb] at ho
    exact Or.inl (volatile_of_openDatastore ho)
  | sql => exact Or.inr (serving_of_startup (Or.inr ⟨hb, h⟩) ho)
  | memory => exact Or.inr (serving_of_startup (Or.inl hb) ho)

lemma openUrl_of_startup {d : Database} {location : Location}
    (ho : (Startup.run settings around).result = .ok ⟨.sql d, location⟩) :
    around.disk.openUrl settings.sqlUrl = (.ok ⟨location, d⟩, (Startup.run settings around).disk) := by
  cases hb : settings.backend with
  | datastore =>
    simp only [Startup.run, hb, Startup.openDatastore] at ho
    split at ho
    · cases ho
    · split at ho <;> cases ho
  | memory =>
    rw [Startup.run, hb] at ho
    cases ho
  | sql =>
    simp only [Startup.run, hb, Startup.openSql] at ho ⊢
    obtain ⟨opened, hopened, heq⟩ := Outcome.map_eq_ok.mp ho
    cases heq
    rw [← hopened]

lemma disk_keep_opened {o : OpenedStore} (ho : (Startup.run settings around).result = .ok o) {b : Backend}
    (hb : Untouched o.backend b) (left : Surroundings) (hleft : left.disk = (Startup.run settings around).disk) :
    (left.keep o.location b).disk = left.disk := by
  obtain ⟨backend, location⟩ := o
  cases backend with
  | memory m =>
    cases hb
    rfl
  | datastore c =>
    obtain ⟨calls, rfl⟩ := hb
    rfl
  | sql d =>
    cases hb
    have hkept := keep_of_openUrl (openUrl_of_startup ho)
    rwa [← hleft] at hkept

lemma keep_tables (h : Tables around.disk) {location : Location} {b : Backend}
    (hb : location = .volatile ∨ Serving b) : Tables (around.keep location b).disk := by
  cases b with
  | memory m => exact h
  | datastore c => exact h
  | sql d =>
    cases location with
    | volatile => exact h
    | file path =>
      rcases hb with hb | hb
      · cases hb
      · exact tables_assign h hb path

end Opening

inductive Sound {α : Type} (good : α → Prop) : EStateM.Result Ending Session α → Prop
  | ok {a : α} {s : Session} (ha : good a) (hs : Tidy s.world) : Sound good (.ok a s)
  | error {e : Ending} {s : Session} (hs : Tidy s.world) : Sound good (.error e s)

def Keeps {α : Type} (good : α → Prop) (act : Terminal.Action α) : Prop := ∀ s, Tidy s.world → Sound good (act s)

section Keeping

variable {α β : Type} {good : α → Prop} {after : β → Prop} {act : Terminal.Action α}

lemma Keeps.bind {next : α → Terminal.Action β} (h : Keeps good act) (hn : ∀ a, good a → Keeps after (next a)) :
    Keeps after (act >>= next) := by
  intro s hs
  have hact := h s hs
  cases ha : act s with
  | ok a s' =>
    rw [ha] at hact
    cases hact with
    | ok hgood hs' =>
      rw [bind_of_ok ha]
      exact hn a hgood s' hs'
  | error e s' =>
    rw [ha] at hact
    cases hact with
    | error hs' =>
      rw [bind_of_error ha]
      exact .error hs'

lemma Keeps.orElse {instead : Failure → Option (Terminal.Action α)} (h : Keeps good act)
    (hi : ∀ f other, instead f = some other → Keeps good other) : Keeps good (orElse act instead) := by
  intro s hs
  have hact := h s hs
  rw [Terminal.orElse]
  cases ha : act s with
  | ok a s' =>
    rw [ha] at hact
    exact hact
  | error e s' =>
    rw [ha] at hact
    cases hact with
    | error hs' =>
      cases e with
      | exit code => exact .error hs'
      | crash f =>
        cases hf : instead f with
        | none =>
          simp only [hf]
          exact .error hs'
        | some other =>
          simp only [hf]
          exact hi f other hf s' hs'

lemma keeps_pure (a : α) : Keeps (fun _ => True) (pure a : Terminal.Action α) := fun _ hs => .ok trivial hs

lemma keeps_get : Keeps (fun _ => True) (get : Terminal.Action Session) := fun _ hs => .ok trivial hs

lemma keeps_modify {change : Session → Session} (h : ∀ s, (change s).world = s.world) :
    Keeps (fun _ => True) (modify change : Terminal.Action PUnit) := fun s hs => .ok trivial ((h s).symm ▸ hs)

lemma keeps_display (item : Item) : Keeps (fun _ => True) (display item) := by
  intro s hs
  rw [display]
  cases s.world.console item with
  | none => exact .ok trivial hs
  | some complaint => exact .error hs

lemma keeps_displays (items : List Item) : Keeps (fun _ => True) (items.forM display) := by
  induction items with
  | nil => exact keeps_pure _
  | cons item rest ih => exact (keeps_display item).bind fun _ _ => ih

lemma keeps_note (level : ℤ) (text : String) : Keeps (fun _ => True) (note level text) := fun _ hs => .ok trivial hs

lemma keeps_fail (n : Notice) : Keeps good (fail n) := (keeps_display n.panel).bind fun _ _ _ hs => .error hs

lemma keeps_orExit (outcome : Except Refusal α) : Keeps (fun a => outcome = .ok a) (orExit outcome) := by
  intro s hs
  cases outcome with
  | ok a => exact .ok rfl hs
  | error r => exact .error hs

lemma keeps_orCrash (outcome : Except Failure α) : Keeps (fun a => outcome = .ok a) (orCrash outcome) := by
  intro s hs
  cases outcome with
  | ok a => exact .ok rfl hs
  | error r => exact .error hs

lemma Keeps.orNotice {notice : Failure → Option Notice} (h : Keeps good act) : Keeps good (orNotice notice act) := by
  apply h.orElse
  intro f other hf
  obtain ⟨n, -, rfl⟩ := Option.map_eq_some_iff.mp hf
  exact keeps_fail n

lemma keeps_configure (backend : Option String) : Keeps (fun _ => True) (configure backend) := by
  apply keeps_get.bind
  intro s _
  apply (keeps_orCrash _).orNotice.bind
  intro settings _
  exact Keeps.bind (keeps_modify fun _ => rfl) fun _ _ => keeps_pure settings

lemma keeps_startUp (settings : Settings) : Keeps Usable (startUp settings) := by
  intro s hs
  have htables := startup_tables hs.tables settings
  simp only [startUp]
  cases hr : (Startup.run settings s.world.around).result with
  | ok o => exact .ok (usable_of_startup hs.tables hr) ⟨hs.clock, htables⟩
  | error f => exact .error ⟨hs.clock, htables⟩

lemma keeps_openStore (settings : Settings) : Keeps Usable (openStore settings) := by
  apply (keeps_startUp settings).orElse
  intro f other hf
  rw [startFailure] at hf
  split at hf <;> cases hf <;> exact (keeps_note _ _).bind fun _ _ => keeps_fail _

lemma keeps_use {o : OpenedStore} {act : Service.Action α} (call : Services.Call)
    (hcall : ∀ s, finalService (act s) = call.perform s) (ho : Usable o) : Keeps (fun _ => True) (use o act) := by
  intro s hs
  have hclock := perform_punctual (s := ⟨{ backend := o.backend }, s.world.clock⟩) hs.clock call
  have hb : o.location = .volatile ∨ Serving (call.perform ⟨{ backend := o.backend }, s.world.clock⟩).store.backend :=
    ho.imp_right fun h => perform_serving (s := ⟨{ backend := o.backend }, s.world.clock⟩) h hs.clock call
  rw [← hcall] at hclock hb
  rw [use]
  cases ha : act ⟨{ backend := o.backend }, s.world.clock⟩ with
  | ok a service =>
    rw [ha] at hclock hb
    exact .ok trivial ⟨hclock, keep_tables hs.tables hb⟩
  | error f service =>
    rw [ha] at hclock hb
    exact .error ⟨hclock, keep_tables hs.tables hb⟩

lemma keeps_used (settings : Settings) {act : Service.Action α} (call : Services.Call)
    (hcall : ∀ s, finalService (act s) = call.perform s) :
    Keeps (fun _ => True) (do use (← openStore settings) act) :=
  (keeps_openStore settings).bind fun _ ho => keeps_use call hcall ho

lemma keeps_perform (settings : Settings) (command : Command) : Keeps (fun _ => True) (perform settings command) := by
  cases command with
  | serve host port =>
    apply (keeps_openStore settings).bind
    intro o _
    exact (keeps_note _ _).bind fun _ _ => keeps_modify fun _ => rfl
  | create description =>
    exact (keeps_used settings (.create description) fun _ => rfl).orNotice.bind fun _ _ => keeps_display _
  | list =>
    apply (keeps_used settings .list fun _ => rfl).orNotice.bind
    intro tasks _
    exact (keeps_orCrash _).bind fun _ _ => keeps_displays _
  | complete id =>
    apply (Keeps.orNotice ?_).bind fun _ _ => keeps_display _
    · exact fun _ => True
    · apply (keeps_openStore settings).bind
      intro o ho
      exact (keeps_orCrash _).bind fun n _ => keeps_use (.markDone n) (fun _ => rfl) ho
  | delete id =>
    apply (Keeps.orNotice ?_).bind fun _ _ => keeps_display _
    · exact fun _ => True
    · apply (keeps_orCrash _).bind
      intro n _
      apply (keeps_openStore settings).bind
      intro o ho
      exact (keeps_use (.remove n) (fun _ => rfl) ho).bind fun _ _ => keeps_pure n

lemma keeps_execute (line : List String) : Keeps (fun _ => True) (execute line) := by
  apply (keeps_orExit _).bind
  intro call _
  apply (keeps_configure call.backend).bind
  intro settings _
  exact (keeps_orExit _).bind fun command _ => keeps_perform settings command

end Keeping

lemma run_tidy {world : World} (h : Tidy world) (line : List String) :
    Tidy (Terminal.run world line).session.world := by
  have hsound := keeps_execute line { world } h
  rw [Terminal.run]
  cases he : execute line { world } with
  | ok _ s =>
    rw [he] at hsound
    cases hsound with
    | ok _ hs => exact hs
  | error e s =>
    rw [he] at hsound
    cases hsound with
    | error hs => cases e <;> exact hs

lemma Left.tables {disk : Disk} (h : Left disk) : Tables disk := by
  induction h with
  | bare h => simp [Tables, h]
  | @call world _ hclock line ih => exact (run_tidy ⟨hclock, ih⟩ line).tables

end TaskBoard.Proofs.Terminal
