import TaskBoard.Proofs.Octets.Decoding
import TaskBoard.Proofs.Terminal.Calls
import TaskBoard.Proofs.Web.Completion

namespace TaskBoard.Proofs.Terminal

open TaskBoard.Terminal TaskBoard.Web TaskBoard.Entries Proofs.Entries Proofs.Web Services Numerals

def completionLine (x : String) : List String := ["--backend", "sql", "done", x]

inductive Attempt (d : Database) (x : String) : Prop
  | refused {text : String} (hp : TaskId.parse x = .error (.invalidTask "id" text))
  | missing {n : ℤ} (hp : TaskId.parse x = .ok n)
      (hd : d.modify n (fun t => .ok t.complete) = .error (.taskNotFound n))
  | marked {n : ℤ} {t : Task} {d' : Database} (hp : TaskId.parse x = .ok n)
      (hd : d.modify n (fun t => .ok t.complete) = .ok (t, d')) (ht : t.id = some n) (hdone : t.done = true)

section Tables

variable {d d' : Database} {x : String} {n : ℤ} {t : Task} {f : Failure} {s : Service} {journal : List Log.Record}
  {clock : Clock}

lemma markDone_of_modify_ok (hd : d.modify n (fun t => .ok t.complete) = .ok (t, d')) (journal : List Log.Record)
    (clock : Clock) : ∃ journal',
      Service.markDone n ⟨⟨.sql d, journal⟩, clock⟩ = .ok t ⟨⟨.sql d', journal'⟩, clock⟩ := by
  have hm : Store.modify n (fun t => .ok t.complete) ⟨.sql d, journal⟩ = .ok t ⟨.sql d', journal⟩ := by
    simp only [Store.modify, hd]
    rfl
  exact markDone_of_ok (s := ⟨⟨.sql d, journal⟩, clock⟩) hm

lemma markDone_of_modify_error (hd : d.modify n (fun t => .ok t.complete) = .error f) (journal : List Log.Record)
    (clock : Clock) :
    Service.markDone n ⟨⟨.sql d, journal⟩, clock⟩ = .error f ⟨⟨.sql d, journal⟩, clock⟩ := by
  have hm : Store.modify n (fun t => .ok t.complete) ⟨.sql d, journal⟩ = .error f ⟨.sql d, journal⟩ := by
    simp only [Store.modify, hd]
    rfl
  exact markDone_of_error (s := ⟨⟨.sql d, journal⟩, clock⟩) hm

lemma modify_of_markDone_ok (h : Service.markDone n ⟨⟨.sql d, journal⟩, clock⟩ = .ok t s) :
    ∃ d', d.modify n (fun t => .ok t.complete) = .ok (t, d') := by
  cases hd : d.modify n fun t => .ok t.complete with
  | error f => cases (markDone_of_modify_error hd journal clock).symm.trans h
  | ok r =>
    obtain ⟨r, d'⟩ := r
    obtain ⟨journal', hr⟩ := markDone_of_modify_ok hd journal clock
    cases hr.symm.trans h
    exact ⟨d', rfl⟩

lemma modify_of_markDone_error (h : Service.markDone n ⟨⟨.sql d, journal⟩, clock⟩ = .error f s) :
    d.modify n (fun t => .ok t.complete) = .error f := by
  cases hd : d.modify n fun t => .ok t.complete with
  | ok r =>
    obtain ⟨journal', hr⟩ := markDone_of_modify_ok hd journal clock
    cases hr.symm.trans h
  | error g =>
    cases (markDone_of_modify_error hd journal clock).symm.trans h
    rfl

lemma attempt_of_reached (h : Reached (.sql d)) (hl : (Text.trim x.toList).length ≤ Number.digitLimit) :
    Attempt d x := by
  obtain ⟨tasks, hs⟩ := Reached.serves (s := ⟨⟨.sql d, []⟩, .scripted .epoch []⟩) h
  by_cases hn : ∃ n, Names x n
  · obtain ⟨n, hn⟩ := hn
    have hp := parse_of_names hl hn
    by_cases ht : n ∈ keys tasks
    · obtain ⟨t, ht⟩ := exists_of_mem_keys ht
      obtain ⟨s, -, hmark, -⟩ := markDone_present hs hn.2 ht
      obtain ⟨d', hd⟩ := modify_of_markDone_ok hmark
      exact .marked hp hd (hs.holds.named _ ht) rfl
    · obtain ⟨s, -, hmark, -⟩ := markDone_absent hs hn.2 ht
      exact .missing hp (modify_of_markDone_error hmark)
  · obtain ⟨text, hp⟩ := parse_of_not_names hl fun n h => hn ⟨n, h⟩
    exact .refused hp

end Tables

section Reports

variable {world : World} {settings : Settings} {location : Location} {d d' : Database} {disk : Disk} {x : String}
  {n : ℤ} {t : Task} {f : Failure} {notice : Notice}

def attempted (settings : Settings) (x : String) : Terminal.Action Task := do
  let o ← openStore settings
  use o (Service.markDone (← orCrash (TaskId.parse x)))

structure Ends (report : Report) (code : ℕ) (item : Item) : Prop where
  exitCode : report.exitCode = code
  crash : report.crash = none
  screen : report.session.screen = [item]

structure Breaks (report : Report) (complaint : String) : Prop where
  exitCode : report.exitCode = 1
  crash : report.crash = some (.markup complaint)
  screen : report.session.screen = []

/-- One item is handed to the console, at the end. The call comes out well if the console shows it, and breaks else. -/
structure Hands (console : Console) (report : Report) (code : ℕ) (item : Item) : Prop where
  shown : console item = none → Ends report code item
  refused : ∀ complaint, console item = some complaint → Breaks report complaint

def reported : EStateM.Result Ending Session Unit → Report
  | .ok _ s => ⟨0, none, s⟩
  | .error (.exit code) s => ⟨code, none, s⟩
  | .error (.crash f) s => ⟨1, some f, s⟩

lemma run_eq_reported (world : World) (line : List String) :
    Terminal.run world line = reported (execute line { world }) := rfl

section Showing

variable {α : Type} {act : Terminal.Action α} (shown : α → Item) {notices : Failure → Option Notice}
  {s s' : Session} {a : α}

lemma display_of_shown {item : Item} (h : s.world.console item = none) :
    display item s = .ok () { s with screen := s.screen ++ [item] } := by
  simp only [display, h]

lemma display_of_refused {item : Item} {complaint : String} (h : s.world.console item = some complaint) :
    display item s = .error (.crash (.markup complaint)) s := by
  simp only [display, h]

lemma hands_of_shown {console : Console} {report : Report} {code : ℕ} {item : Item} (hc : console item = none)
    (h : Ends report code item) : Hands console report code item := ⟨fun _ => h, by simp [hc]⟩

lemma hands_of_refused {console : Console} {report : Report} {item : Item} {complaint : String}
    (hc : console item = some complaint) (h : Breaks report complaint) (code : ℕ) : Hands console report code item := by
  refine ⟨by simp [hc], ?_⟩
  rintro _ hc'
  cases hc.symm.trans hc'
  exact h

lemma hands_display (hscreen : s.screen = []) (item : Item) :
    Hands s.world.console (reported (display item s)) 0 item ∧
      (reported (display item s)).session.world = s.world := by
  cases hc : s.world.console item with
  | none =>
    rw [display_of_shown hc, hscreen]
    exact ⟨hands_of_shown hc ⟨rfl, rfl, rfl⟩, rfl⟩
  | some complaint =>
    rw [display_of_refused hc]
    exact ⟨hands_of_refused hc ⟨rfl, rfl, hscreen⟩ 0, rfl⟩

lemma hands_fail (hscreen : s.screen = []) (notice : Notice) (next : α → Terminal.Action Unit) :
    Hands s.world.console (reported ((fail notice >>= next) s)) 1 notice.panel ∧
      (reported ((fail notice >>= next) s)).session.world = s.world := by
  cases hc : s.world.console notice.panel with
  | none =>
    have hfail : (fail notice : Terminal.Action α) s =
        .error (.exit 1) { s with screen := s.screen ++ [notice.panel] } := (bind_of_ok (display_of_shown hc)).trans rfl
    rw [bind_of_error hfail, hscreen]
    exact ⟨hands_of_shown hc ⟨rfl, rfl, rfl⟩, rfl⟩
  | some complaint =>
    have hfail : (fail notice : Terminal.Action α) s = .error (.crash (.markup complaint)) s :=
      bind_of_error (display_of_refused hc)
    rw [bind_of_error hfail]
    exact ⟨hands_of_refused hc ⟨rfl, rfl, hscreen⟩ 1, rfl⟩

lemma hands_of_ok (notices : Failure → Option Notice) (h : act s = .ok a s') (hscreen : s'.screen = []) :
    Hands s'.world.console (reported ((orNotice notices act >>= fun a => display (shown a)) s)) 0 (shown a) ∧
      (reported ((orNotice notices act >>= fun a => display (shown a)) s)).session.world = s'.world := by
  rw [bind_of_ok (orNotice_of_ok h)]
  exact hands_display hscreen (shown a)

lemma hands_of_notice (h : act s = .error (.crash f) s') (hn : notices f = some notice) (hscreen : s'.screen = []) :
    Hands s'.world.console (reported ((orNotice notices act >>= fun a => display (shown a)) s)) 1 notice.panel ∧
      (reported ((orNotice notices act >>= fun a => display (shown a)) s)).session.world = s'.world := by
  have hact : (orNotice notices act >>= fun a => display (shown a)) s =
      (fail notice >>= fun a => display (shown a)) s' := by
    simp only [bind, EStateM.bind, orNotice_of_crash h hn]
  rw [hact]
  exact hands_fail hscreen notice _

end Showing

section Attempts

variable {s s' : Session} {o : OpenedStore} (ho : openStore settings s = .ok o s')

include ho

lemma attempted_of_unread (hp : TaskId.parse x = .error f) : attempted settings x s = .error (.crash f) s' := by
  have hparse : orCrash (TaskId.parse x) s' = .error (.crash f) s' := by
    rw [hp]
    rfl
  exact (bind_of_ok ho).trans (bind_of_error hparse)

lemma attempted_of_read (hp : TaskId.parse x = .ok n) : attempted settings x s = use o (Service.markDone n) s' := by
  have hparse : orCrash (TaskId.parse x) s' = .ok n s' := by
    rw [hp]
    rfl
  exact (bind_of_ok ho).trans (bind_of_ok hparse)

end Attempts

variable (h : Opens world settings location d disk)

include h

lemma attempted_of_error (hp : TaskId.parse x = .error f) :
    attempted settings x (begun world settings) = .error (.crash f) (opened world settings disk) :=
  attempted_of_unread (openStore_of_opens h) hp

lemma attempted_of_ok (hp : TaskId.parse x = .ok n) : attempted settings x (begun world settings) =
    use ⟨.sql d, location⟩ (Service.markDone n) (opened world settings disk) :=
  attempted_of_read (openStore_of_opens h) hp

variable (hx : x.toList.head? ≠ some '-')

include hx

lemma run_completionLine :
    Terminal.run world (completionLine x) = reported (complete settings x (begun world settings)) :=
  congrArg reported (execute_of_ready h.ready (by simp [commandNames]) (command?_done hx))

lemma run_of_crash {s : Session} (hs : attempted settings x (begun world settings) = .error (.crash f) s)
    (hn : Notice.ofCompletion f = some notice) (hscreen : s.screen = []) (hconsole : s.world.console = world.console) :
    Hands world.console (Terminal.run world (completionLine x)) 1 notice.panel ∧
      (Terminal.run world (completionLine x)).session.world.around.disk = s.world.around.disk := by
  rw [run_completionLine h hx, ← hconsole]
  obtain ⟨hhands, hworld⟩ := hands_of_notice donePanel hs hn hscreen
  exact ⟨hhands, congrArg (fun w => w.around.disk) hworld⟩

lemma run_of_marked {s : Session} (hs : attempted settings x (begun world settings) = .ok t s)
    (hscreen : s.screen = []) (hconsole : s.world.console = world.console) :
    Hands world.console (Terminal.run world (completionLine x)) 0 (donePanel t) ∧
      (Terminal.run world (completionLine x)).session.world.around.disk = s.world.around.disk := by
  rw [run_completionLine h hx, ← hconsole]
  obtain ⟨hhands, hworld⟩ := hands_of_ok donePanel Notice.ofCompletion hs hscreen
  exact ⟨hhands, congrArg (fun w => w.around.disk) hworld⟩

end Reports

section Texts

variable {n m : ℤ} {t u : Task}

lemma ne_blank_of_mem_signed {c : Char} (h : c ∈ Number.signed n) : c ≠ ' ' := by
  cases n with
  | ofNat n => exact Decimals.ne_of_isDigit (Decimals.isDigit_of_mem_digits h) (by decide)
  | negSucc n =>
    rcases List.mem_cons.mp h with rfl | h
    · decide
    · exact Decimals.ne_of_isDigit (Decimals.isDigit_of_mem_digits h) (by decide)

lemma eq_of_written {before rest rest' : List Char}
    (h : before ++ ((Number.integerText n).toList ++ ' ' :: rest) =
      before ++ ((Number.integerText m).toList ++ ' ' :: rest')) : n = m := by
  -- The number ends where the first blank stands.
  have hword (k : ℤ) (rest : List Char) :
      ((Number.integerText k).toList ++ ' ' :: rest).takeWhile (· != ' ') = Number.signed k := by
    rw [Number.integerText, String.toList_ofList, List.takeWhile_append_of_pos]
    · simp
    · intro c hc
      simpa using ne_blank_of_mem_signed hc
  have hwords := congrArg (List.takeWhile (· != ' ')) (List.append_cancel_left h)
  rw [hword, hword] at hwords
  exact Decimals.signed_injective hwords

lemma completion_injective : Function.Injective completion := by
  intro n m h
  have hchars := congrArg String.toList h
  simp only [completion, String.toList_append, List.append_assoc] at hchars
  exact eq_of_written hchars

lemma eq_of_donePanel (ht : t.id = some n) (hu : u.id = some m) (h : donePanel t = donePanel u) : n = m := by
  have hchars := congrArg String.toList (Item.panel.inj h).1
  rw [ht, hu] at hchars
  simp only [Value.ofId, Value.plain, String.toList_append, List.append_assoc] at hchars
  exact eq_of_written hchars

end Texts

def Marked (report : Report) (n : ℤ) : Prop := ∃ t : Task, t.id = some n ∧ t.done = true ∧ Ends report 0 (donePanel t)

def Noticed (report : Report) (title : String) : Prop := ∃ text, Ends report 1 (Notice.panel ⟨text, title⟩)

structure Agree (report : Report) (reply : Response) : Prop where
  marked : reply.status = 200 ↔ ∃ n, Marked report n
  named : ∀ n, Marked report n ↔ reply = plainText 200 (completion n)
  refused : reply.status = 400 ↔ Noticed report "Błąd walidacji"
  missing : reply.status = 404 ↔ Noticed report "Nie znaleziono"
  answered : reply.status = 200 ∨ reply.status = 400 ∨ reply.status = 404
  reported : (∃ n, Marked report n) ∨ Noticed report "Błąd walidacji" ∨ Noticed report "Nie znaleziono"

inductive Matches : Response → ℕ → Item → Prop
  | marked {n : ℤ} {t : Task} (hid : t.id = some n) (hdone : t.done = true) :
      Matches (plainText 200 (completion n)) 0 (donePanel t)
  | refused {body text : String} : Matches (plainText 400 body) 1 (Notice.panel ⟨text, "Błąd walidacji"⟩)
  | missing {body text : String} : Matches (plainText 404 body) 1 (Notice.panel ⟨text, "Nie znaleziono"⟩)

section Agreeing

variable {report : Report} {n m : ℤ} {t : Task} {title text : String} {code code' : ℕ} {item item' : Item}

lemma Ends.unique (h : Ends report code item) (h' : Ends report code' item') : code = code' ∧ item = item' :=
  ⟨h.exitCode.symm.trans h'.exitCode, (List.cons.inj (h.screen.symm.trans h'.screen)).1⟩

lemma Ends.noticed_iff (h : Ends report 1 (Notice.panel ⟨text, title⟩)) {other : String} :
    Noticed report other ↔ other = title := by
  constructor
  · rintro ⟨text', h'⟩
    exact ((Item.panel.inj (h'.unique h).2).2.1)
  · rintro rfl
    exact ⟨text, h⟩

lemma Ends.not_marked (h : Ends report 1 item) : ¬ Marked report n := by
  rintro ⟨t, -, -, h'⟩
  exact absurd (h.unique h').1 (by decide)

lemma Ends.not_noticed (h : Ends report 0 item) : ¬ Noticed report title := by
  rintro ⟨text, h'⟩
  exact absurd (h.unique h').1 (by decide)

lemma agree_of_refused (h : Ends report 1 (Notice.panel ⟨text, "Błąd walidacji"⟩)) (body : String) :
    Agree report (plainText 400 body) := by
  have hmissing : ¬ Noticed report "Nie znaleziono" := fun hn => absurd (h.noticed_iff.mp hn) (by decide)
  have hrefused : Noticed report "Błąd walidacji" := ⟨_, h⟩
  exact ⟨by simp [plainText, h.not_marked], by simp [plainText, h.not_marked], by simp [plainText, hrefused],
    by simp [plainText, hmissing], Or.inr (Or.inl rfl), Or.inr (Or.inl hrefused)⟩

lemma agree_of_missing (h : Ends report 1 (Notice.panel ⟨text, "Nie znaleziono"⟩)) (body : String) :
    Agree report (plainText 404 body) := by
  have hrefused : ¬ Noticed report "Błąd walidacji" := fun hn => absurd (h.noticed_iff.mp hn) (by decide)
  have hmissing : Noticed report "Nie znaleziono" := ⟨_, h⟩
  exact ⟨by simp [plainText, h.not_marked], by simp [plainText, h.not_marked], by simp [plainText, hrefused],
    by simp [plainText, hmissing], Or.inr (Or.inr rfl), Or.inr (Or.inr hmissing)⟩

lemma agree_of_marked (ht : t.id = some n) (hdone : t.done = true) (h : Ends report 0 (donePanel t)) :
    Agree report (plainText 200 (completion n)) := by
  have hmarked : Marked report n := ⟨t, ht, hdone, h⟩
  refine ⟨by simpa [plainText] using ⟨n, hmarked⟩, fun m => ⟨?_, fun hm => ?_⟩, by simp [plainText, h.not_noticed],
    by simp [plainText, h.not_noticed], Or.inl rfl, Or.inl ⟨n, hmarked⟩⟩
  · rintro ⟨u, hu, -, h'⟩
    rw [eq_of_donePanel ht hu (h.unique h').2]
  · rw [← completion_injective (congrArg Response.body hm)]
    exact hmarked

lemma Matches.agree {reply : Response} (h : Matches reply code item) (hends : Ends report code item) :
    Agree report reply := by
  cases h with
  | marked hid hdone => exact agree_of_marked hid hdone hends
  | refused => exact agree_of_refused hends _
  | missing => exact agree_of_missing hends _

end Agreeing

section Bodies

variable {x : String} {chunks : List (List UInt8)} {m : Message}
  (hc : chunks.flatten = Text.Utf8.encode x) (hl : (Text.Utf8.encode x).length ≤ messageLimit)

include hl

lemma length_trim_le_of_encode : (Text.trim x.toList).length ≤ Number.digitLimit := by
  have hchars : x.toList.length ≤ (Text.Utf8.encode x).length := by
    have hdecode := length_decodeLossy_le (Text.Utf8.encode x)
    rwa [Text.Utf8.encode, Octets.Utf8.decodeLossy_encodeChars] at hdecode
  calc (Text.trim x.toList).length ≤ x.toList.length := length_trim_le _
    _ ≤ messageLimit := hchars.trans hl
    _ ≤ Number.digitLimit := by decide

include hc

lemma message_text_of_chunks (hm : Body.message ⟨chunks, false⟩ messageLimit = .ok m) : m.text = x := by
  rw [message_text hm, leadingText, hc, List.take_of_length_le hl, Text.Utf8.encode,
    Octets.Utf8.decodeLossy_encodeChars, String.ofList_toList]

end Bodies

def SameTable (x : Exchange) (report : Report) (location : Location) (disk : Disk) : Prop := ∃ d,
  x.after.store.backend = .sql d ∧ report.session.world.around.disk = disk.keep ⟨location, d⟩ ∧
    ∀ path, location = .file path → report.session.world.around.disk.databases.lookup path = some d

lemma sameTable {x : Exchange} {report : Report} {location : Location} {disk : Disk} {d : Database}
    (hx : x.after.store.backend = .sql d) (hr : report.session.world.around.disk = disk.keep ⟨location, d⟩) :
    SameTable x report location disk := by
  refine ⟨d, hx, hr, ?_⟩
  rintro path rfl
  rw [hr]
  exact lookup_assign_self path d disk.databases

section Results

variable {world : World} {settings : Settings} {location : Location} {d : Database} {disk : Disk} {x : String}
  {chunks : List (List UInt8)}

lemma completions_match (h : Opens world settings location d disk) (hd : Reached (.sql d))
    (hx : x.toList.head? ≠ some '-') (hl : (Text.Utf8.encode x).length ≤ 256)
    (hc : chunks.flatten = Text.Utf8.encode x) (convert : Conversion) (journal : List Log.Record) (clock : Clock) :
    ∃ code item, Matches (deletion convert ⟨⟨.sql d, journal⟩, clock⟩ ⟨chunks, false⟩).reply code item ∧
      Hands world.console (Terminal.run world (completionLine x)) code item ∧
      SameTable (deletion convert ⟨⟨.sql d, journal⟩, clock⟩ ⟨chunks, false⟩) (Terminal.run world (completionLine x))
        location disk := by
  obtain ⟨m, hm⟩ := exists_message chunks messageLimit
  have htext := message_text_of_chunks hc hl hm
  cases attempt_of_reached hd (length_trim_le_of_encode hl) with
  | refused hp =>
    obtain ⟨hhands, hdisk⟩ := run_of_crash h hx (attempted_of_error h hp) rfl rfl rfl
    obtain ⟨hreply, hafter⟩ := deletion_of_error convert (s := ⟨⟨.sql d, journal⟩, clock⟩)
      (deleteTask_of_refused hm (by rwa [htext])) rfl
    rw [hreply]
    exact ⟨1, _, .refused, hhands, sameTable hafter (hdisk.trans (keep_of_openUrl h.found).symm)⟩
  | @missing n hp hmodify =>
    have hmark := use_of_error (s := opened world settings disk) (o := ⟨.sql d, location⟩)
      (markDone_of_modify_error hmodify [] world.clock)
    obtain ⟨hhands, hdisk⟩ := run_of_crash h hx ((attempted_of_ok h hp).trans hmark) rfl rfl rfl
    obtain ⟨hreply, hafter⟩ := deletion_of_error convert
      (deleteTask_of_missing hm (by rwa [htext]) (markDone_of_modify_error hmodify journal clock)) rfl
    rw [hreply]
    exact ⟨1, _, .missing, hhands, sameTable hafter hdisk⟩
  | @marked n t d' hp hmodify ht hdone =>
    obtain ⟨journal', hmark'⟩ := markDone_of_modify_ok hmodify [] world.clock
    have hmark := use_of_ok (s := opened world settings disk) (o := ⟨.sql d, location⟩) hmark'
    obtain ⟨hhands, hdisk⟩ := run_of_marked h hx ((attempted_of_ok h hp).trans hmark) rfl rfl
    obtain ⟨_, hserved⟩ := markDone_of_modify_ok hmodify journal clock
    obtain ⟨s, hdelete, hafter⟩ := deleteTask_of_marked hm (by rwa [htext]) hserved
    have hhandle := handle_of_ok convert (r := ⟨"DELETE", "/", ⟨chunks, false⟩⟩) rfl rfl hdelete
    rw [Exchange.reply, deletion, hhandle]
    refine ⟨0, _, .marked ht hdone, hhands, sameTable ?_ hdisk⟩
    rw [Exchange.after, hhandle]
    exact hafter

end Results

def keeping (d : Database) : World where
  clock := .scripted .epoch []
  around :=
    { loader := fun _ => .error (.value "no key")
      remote := default
      disk := ⟨[("data/tasks.db", d)], ["data"]⟩ }
  console := fun _ => none
  collection := .caseless

lemma opens_keeping {d : Database} (h : Reached (.sql d)) :
    Opens (keeping d) { backend := .sql } (.file "data/tasks.db") d (keeping d).around.disk := by
  obtain ⟨tasks, hs⟩ := Reached.serves (s := ⟨⟨.sql d, []⟩, .scripted .epoch []⟩) h
  obtain ⟨rows⟩ := d
  obtain rfl : rows = some (Stores.InTable.rowsOf tasks) := hs.holds.stored.1
  exact ⟨rfl, rfl⟩

def gardenTable : Database where
  rows := some [(1, ⟨"water", "1970-01-01T00:00:00.000000Z", 0⟩), (2, ⟨"feed", "1970-01-01T00:00:00.000000Z", 0⟩)]

lemma reached_gardenTable : Reached (.sql gardenTable) :=
  ⟨.sql {}, [], _, [.create "water", .create "feed"], .sql, punctual_epoch, rfl⟩

end TaskBoard.Proofs.Terminal
