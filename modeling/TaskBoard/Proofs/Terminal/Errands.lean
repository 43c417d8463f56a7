import TaskBoard.Proofs.Terminal.Completion
import TaskBoard.Proofs.Terminal.Disks

/-!
What comes of a call that names a task by a text. It ends as planned, with one panel, unless the text is a numeral that
is too long to be read: no notice is made of that, so the failure comes out of the program.
-/

namespace TaskBoard.Proofs.Terminal

open TaskBoard.Terminal TaskBoard.Entries Proofs.Entries Services Stores Numerals

inductive Errand
  | completion
  | deletion

namespace Errand

def name : Errand → String
  | completion => "done"
  | deletion => "delete"

def command : Errand → String → Command
  | completion => .complete
  | deletion => .delete

def notice : Errand → Failure → Option Notice
  | completion => Notice.ofCompletion
  | deletion => Notice.ofDeletion

def Shows : Errand → ℤ → Item → Prop
  | completion, n, item => ∃ t : Task, t.id = some n ∧ t.done = true ∧ item = donePanel t
  | deletion, n, item => item = deletedPanel n

end Errand

/-- What is due: the panel for the task that the text names, or a red panel that says why not, with no table changed. -/
inductive Due (e : Errand) (x : String) (before after : Disk) : ℕ → Item → Prop
  | done {n : ℤ} {item : Item} (hn : Literal (Text.trim x.toList) n) (hitem : e.Shows n item) :
      Due e x before after 0 item
  | refused {text title : String} (hsame : SameTables before after) :
      Due e x before after 1 (.panel text title .red)

def Handled (e : Errand) (x : String) (before : Disk) (report : Report) : Prop := ∃ code item,
  Due e x before report.session.world.around.disk code item ∧ Ends report code item

def Attended (e : Errand) (x : String) (before : Disk) (console : Console) (report : Report) : Prop := ∃ code item,
  Due e x before report.session.world.around.disk code item ∧ Hands console report code item

structure Crashes (x : String) (before : Disk) (report : Report) : Prop where
  exitCode : report.exitCode = 1
  crash : report.crash = some (TaskId.tooLong (digitsOf (Text.trim x.toList)).length)
  screen : report.session.screen = []
  tables : SameTables before report.session.world.around.disk

inductive Way (e : Errand) (x : String) (before : Disk) (console : Console) {α : Type} (shown : α → Item) :
    EStateM.Result Ending Session α → Prop
  | done {n : ℤ} {a : α} {s : Session} (hn : Literal (Text.trim x.toList) n) (hitem : e.Shows n (shown a))
      (hscreen : s.screen = []) (hconsole : s.world.console = console) : Way e x before console shown (.ok a s)
  | refused {f : Failure} {notice : Notice} {s : Session} (ho : ¬ Overlong (Text.trim x.toList))
      (hn : e.notice f = some notice) (hscreen : s.screen = []) (hconsole : s.world.console = console)
      (hsame : SameTables before s.world.around.disk) : Way e x before console shown (.error (.crash f) s)
  | overlong {s : Session} (ho : Overlong (Text.trim x.toList)) (hscreen : s.screen = [])
      (hsame : SameTables before s.world.around.disk) :
      Way e x before console shown (.error (.crash (TaskId.tooLong (digitsOf (Text.trim x.toList)).length)) s)

section Ways

variable {e : Errand} {x : String} {before : Disk} {report : Report}

lemma notice_tooLong (e : Errand) (count : ℕ) : e.notice (TaskId.tooLong count) = none := by
  cases e <;> rfl

lemma exists_notice_invalidTask (e : Errand) (text : String) :
    ∃ notice, e.notice (.invalidTask "id" text) = some notice := by
  cases e <;> exact ⟨_, rfl⟩

lemma Crashes.not_handled (h : Crashes x before report) : ¬ Handled e x before report := by
  rintro ⟨_, _, -, hends⟩
  cases h.crash.symm.trans hends.crash

lemma Breaks.not_handled {complaint : String} (h : Breaks report complaint) : ¬ Handled e x before report := by
  rintro ⟨_, _, -, hends⟩
  cases h.crash.symm.trans hends.crash

lemma Way.reported {α : Type} {act : Terminal.Action α} {console : Console} {shown : α → Item} {s : Session}
    (h : Way e x before console shown (act s)) :
    (¬ Overlong (Text.trim x.toList) → Attended e x before console
      (reported ((orNotice e.notice act >>= fun a => display (shown a)) s))) ∧
    (Overlong (Text.trim x.toList) →
      Crashes x before (reported ((orNotice e.notice act >>= fun a => display (shown a)) s))) := by
  generalize hact : act s = result at h
  cases h with
  | done hn hitem hscreen hconsole =>
    obtain ⟨hhands, -⟩ := hands_of_ok shown e.notice hact hscreen
    rw [hconsole] at hhands
    exact ⟨fun _ => ⟨0, _, .done hn hitem, hhands⟩, fun ho => absurd ho hn.not_overlong⟩
  | refused ho hn hscreen hconsole hsame =>
    obtain ⟨hhands, hworld⟩ := hands_of_notice shown hact hn hscreen
    rw [hconsole] at hhands
    refine ⟨fun _ => ⟨1, _, .refused ?_, hhands⟩, fun h => absurd h ho⟩
    rwa [hworld]
  | overlong ho hscreen hsame =>
    refine ⟨fun h => absurd ho h, fun _ => ?_⟩
    rw [bind_of_error (orNotice_of_unplanned hact (notice_tooLong e _))]
    exact ⟨rfl, rfl, hscreen, hsame⟩

end Ways

section Courses

variable {world : World} {backend : Option String} {settings : Settings} {o : OpenedStore} {x : String} {f : Failure}
  {n : ℤ}

def removal (settings : Settings) (x : String) : Terminal.Action ℤ := do
  let id ← orCrash (TaskId.parse x)
  use (← openStore settings) (Service.removeTask id)
  pure id

lemma command?_errand (e : Errand) (hx : x.toList.head? ≠ some '-') :
    Call.command? ⟨backend, e.name, [x]⟩ = .ok (e.command x) := by
  cases e with
  | completion => exact command?_done hx
  | deletion => exact command?_delete hx

lemma removal_of_unread (hp : TaskId.parse x = .error f) (s : Session) :
    removal settings x s = .error (.crash f) s := by
  have hparse : orCrash (TaskId.parse x) s = .error (.crash f) s := by
    rw [hp]
    rfl
  exact bind_of_error hparse

lemma removal_of_ok (hp : TaskId.parse x = .ok n) {s s' : Session} (ho : openStore settings s = .ok o s')
    {service : Service}
    (hr : Service.removeTask n ⟨{ backend := o.backend }, s'.world.clock⟩ = .ok () service) :
    removal settings x s = .ok n (s'.after o.location service) := by
  have hparse : orCrash (TaskId.parse x) s = .ok n s := by
    rw [hp]
    rfl
  exact (bind_of_ok hparse).trans ((bind_of_ok ho).trans (bind_of_ok (use_of_ok hr)))

variable (h : Ready world backend settings o)

include h

lemma run_errand (e : Errand) (hx : x.toList.head? ≠ some '-') :
    Terminal.run world (callLine backend e.name [x]) =
      reported (perform settings (e.command x) (begun world settings)) := by
  have hn : e.name ∈ commandNames := by cases e <;> simp [Errand.name, commandNames]
  exact congrArg reported (execute_of_ready h hn (command?_errand e hx))

variable (hserving : Serving o.backend)

include hserving

lemma way_attempted (x : String) :
    Way .completion x world.around.disk world.console donePanel (attempted settings x (begun world settings)) := by
  have ho := openStore_of_ready h
  have hsame : SameTables world.around.disk (started world settings).world.around.disk := sameTables_startup _ _
  cases reading x with
  | overlong hover hp =>
    rw [attempted_of_unread ho hp]
    exact .overlong hover rfl hsame
  | @refused text hover hp =>
    obtain ⟨notice, hn⟩ := exists_notice_invalidTask .completion text
    rw [attempted_of_unread ho hp]
    exact .refused hover hn rfl rfl hsame
  | @literal n hn hp =>
    have hr : TaskId.inRange n = true := inRange_iff.mpr hn.2.2
    rw [attempted_of_read ho hp]
    obtain ⟨tasks, hs⟩ :=
      Serving.serves (s := ⟨{ backend := o.backend }, (started world settings).world.clock⟩) hserving
    by_cases ht : n ∈ keys tasks
    · obtain ⟨t, ht⟩ := exists_of_mem_keys ht
      obtain ⟨service, -, hmark, -⟩ := markDone_present hs hr ht
      rw [use_of_ok hmark]
      exact .done hn ⟨t.complete, hs.holds.named _ ht, rfl, rfl⟩ rfl rfl
    · obtain ⟨service, -, hmark, -⟩ := markDone_absent hs hr ht
      have hkept := disk_keep_opened h.found (markDone_error hmark) (started world settings).world.around rfl
      rw [use_of_error hmark]
      refine .refused hn.not_overlong rfl rfl rfl ?_
      rwa [← hkept] at hsame

lemma way_removal (x : String) :
    Way .deletion x world.around.disk world.console deletedPanel (removal settings x (begun world settings)) := by
  -- A text that cannot be read is refused before the store is opened.
  cases reading x with
  | overlong hover hp =>
    rw [removal_of_unread hp]
    exact .overlong hover rfl fun _ => rfl
  | @refused text hover hp =>
    obtain ⟨notice, hn⟩ := exists_notice_invalidTask .deletion text
    rw [removal_of_unread hp]
    exact .refused hover hn rfl rfl fun _ => rfl
  | @literal n hn hp =>
    obtain ⟨tasks, hs⟩ :=
      Serving.serves (s := ⟨{ backend := o.backend }, (started world settings).world.clock⟩) hserving
    obtain ⟨service, -, hremove, -⟩ := removeTask_spec hs (inRange_iff.mpr hn.2.2)
    rw [removal_of_ok hp (openStore_of_ready h) hremove]
    exact .done hn rfl rfl rfl

lemma errand_reported (e : Errand) (hx : x.toList.head? ≠ some '-') :
    (¬ Overlong (Text.trim x.toList) →
      Attended e x world.around.disk world.console (Terminal.run world (callLine backend e.name [x]))) ∧
    (Overlong (Text.trim x.toList) →
      Crashes x world.around.disk (Terminal.run world (callLine backend e.name [x]))) := by
  rw [run_errand h e hx]
  cases e with
  | completion => exact (way_attempted h hserving x).reported
  | deletion => exact (way_removal h hserving x).reported

end Courses

section Results

variable {world : World} {backend : Option String} {settings : Settings} {o : OpenedStore} {x : String}

/--
For any text, and any store that is in memory or in a table that calls have left, completing or deleting the task with
this id ends as planned, unless the text is a numeral of too many digits, or the console refuses the markup of the panel
that is due. In the first case the failure of reading the text comes out, in the second one the console's complaint.
-/
theorem handled_iff (h : Ready world backend settings o)
    (hstore : settings.backend = .memory ∨ settings.backend = .sql ∧ Left world.around.disk)
    (hx : x.toList.head? ≠ some '-') (e : Errand) :
    (Overlong (Text.trim x.toList) →
      Crashes x world.around.disk (Terminal.run world (callLine backend e.name [x]))) ∧
    ∃ code item,
      (¬ Overlong (Text.trim x.toList) →
        Due e x world.around.disk (Terminal.run world (callLine backend e.name [x])).session.world.around.disk
          code item ∧ Hands world.console (Terminal.run world (callLine backend e.name [x])) code item) ∧
      (Handled e x world.around.disk (Terminal.run world (callLine backend e.name [x])) ↔
        ¬ Overlong (Text.trim x.toList) ∧ world.console item = none) := by
  have hserving := serving_of_startup (hstore.imp_right fun hs => ⟨hs.1, hs.2.tables⟩) h.found
  obtain ⟨hattended, hcrashes⟩ := errand_reported h hserving e hx
  refine ⟨hcrashes, ?_⟩
  by_cases ho : Overlong (Text.trim x.toList)
  · exact ⟨0, .text "", fun h => absurd ho h, fun hh => absurd hh (hcrashes ho).not_handled, fun h => absurd ho h.1⟩
  · obtain ⟨code, item, hdue, hhands⟩ := hattended ho
    refine ⟨code, item, fun _ => ⟨hdue, hhands⟩, fun hh => ⟨ho, ?_⟩, fun h => ⟨code, item, hdue, hhands.shown h.2⟩⟩
    cases hc : world.console item with
    | none => rfl
    | some complaint => exact absurd hh (hhands.refused complaint hc).not_handled

end Results

def bareWorld : World where
  clock := .scripted .epoch []
  around := { loader := fun _ => .error (.value "no key"), remote := default }
  console := fun _ => none
  collection := .caseless

def wateringTable : Database where
  rows := some [(1, ⟨"water", "1970-01-01T00:00:00.000000Z", 0⟩)]

lemma ready_of_found {world : World} {o : OpenedStore} (hc : world.collection = .caseless)
    (he : world.environment = []) (hf : world.file = none)
    (h : (Startup.run { backend := .sql } world.around).result = .ok o) :
    Ready world (some "sql") { backend := .sql } o := by
  refine ⟨?_, h⟩
  rw [hc, he, hf]
  rfl

lemma left_wateringTable : Left (keeping wateringTable).around.disk := by
  have hbare : Left bareWorld.around.disk := .bare rfl
  have hleft := hbare.call punctual_epoch (callLine (some "sql") "new" ["water"])
  have hready : Ready bareWorld (some "sql") { backend := .sql } ⟨.sql ⟨some []⟩, .file "data/tasks.db"⟩ :=
    ready_of_found rfl rfl rfl rfl
  have hcommand : Call.command? ⟨some "sql", "new", ["water"]⟩ = .ok (.create "water") := rfl
  rw [run_eq_reported, execute_of_ready hready (by simp [commandNames]) hcommand] at hleft
  exact hleft

theorem handled_iff_watering :
    Ready (keeping wateringTable) (some "sql") { backend := .sql } ⟨.sql wateringTable, .file "data/tasks.db"⟩ ∧
      Left (keeping wateringTable).around.disk ∧ " +1\n".toList.head? ≠ some '-' ∧
      Handled .completion " +1\n" (keeping wateringTable).around.disk
        (Terminal.run (keeping wateringTable) (callLine (some "sql") "done" [" +1\n"])) := by
  have hready : Ready (keeping wateringTable) (some "sql") { backend := .sql }
      ⟨.sql wateringTable, .file "data/tasks.db"⟩ := ready_of_found rfl rfl rfl rfl
  have hhead : " +1\n".toList.head? ≠ some '-' := by decide
  have hshort : ¬ Overlong (Text.trim " +1\n".toList) := fun ho => absurd ho.2 (by decide)
  obtain ⟨-, _, _, -, hiff⟩ := handled_iff hready (Or.inr ⟨rfl, left_wateringTable⟩) hhead .completion
  exact ⟨hready, left_wateringTable, hhead, hiff.mpr ⟨hshort, rfl⟩⟩

def manyOnes : String := String.ofList (List.replicate (Number.digitLimit + 1) '1')

lemma toList_manyOnes : manyOnes.toList = List.replicate (Number.digitLimit + 1) '1' := String.toList_ofList

lemma overlong_manyOnes : Overlong (Text.trim manyOnes.toList) := by
  rw [toList_manyOnes]
  have hover : Overlong (List.replicate (Number.digitLimit + 1) '1') := by
    apply overlong_of_digits
    · intro c hc
      rw [List.eq_of_mem_replicate hc]
      decide
    · rw [List.length_replicate]
      exact Nat.lt_succ_self _
  rwa [hover.1.choose_spec.trim_eq]

theorem not_always_handled : ¬ ∀ (world : World) (backend : Option String) (settings : Settings) (o : OpenedStore)
    (x : String) (e : Errand), Ready world backend settings o →
    (settings.backend = .memory ∨ settings.backend = .sql ∧ Left world.around.disk) → x.toList.head? ≠ some '-' →
    Handled e x world.around.disk (Terminal.run world (callLine backend e.name [x])) := by
  intro hall
  have hready : Ready bareWorld (some "sql") { backend := .sql } ⟨.sql ⟨some []⟩, .file "data/tasks.db"⟩ :=
    ready_of_found rfl rfl rfl rfl
  have hhead : manyOnes.toList.head? ≠ some '-' := by
    rw [toList_manyOnes, List.replicate_succ]
    decide
  have hreport := (errand_reported hready (serving_of_fresh .sql) .deletion hhead).2 overlong_manyOnes
  exact hreport.not_handled (hall _ _ _ _ manyOnes .deletion hready (Or.inr ⟨rfl, .bare rfl⟩) hhead)

end TaskBoard.Proofs.Terminal
