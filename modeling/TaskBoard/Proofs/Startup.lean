import TaskBoard.Proofs.Credentials.Endings
import TaskBoard.Startup

namespace TaskBoard.Proofs.Startup

open TaskBoard.Startup TaskBoard.Credentials Proofs.Credentials Credentials.Endings

section Classes

def bases : Reason → List String
  | .auth .general _ => []
  | .auth .malformed _ => ["DefaultCredentialsError", "GoogleAuthError", "ValueError"]
  | .auth _ _ => ["GoogleAuthError"]
  | .general .fileExists _ | .general .notFolder _ => ["OSError"]
  | .general .jsonSyntax _ | .general .base64 _ | .rejected _ _ => ["ValueError"]
  | .general .unicodeDecoding _ => ["UnicodeError", "ValueError"]
  | .general .key _ => ["LookupError"]
  | .general .overflow _ => ["ArithmeticError"]
  | .general .missingDriver _ => ["ImportError"]
  | .call _ _ => ["GoogleAPICallError", "GoogleAPIError"]
  | .retry _ => ["GoogleAPIError"]
  | .database .general _ => []
  | .database _ _ => ["SQLAlchemyError"]
  | .domain _ => []
  | .invalidTask _ _ | .taskNotFound _ | .store _ _ | .credentials _ => ["DomainError"]
  | .api _ | .general _ _ | .disconnected => []

def IsA (name : String) (f : Failure) : Prop := f.name = name ∨ name ∈ bases f.reason

def Answered (f : Failure) : Prop := IsA "GoogleAuthError" f ∨ IsA "OSError" f ∨ IsA "ValueError" f

lemma answered_iff {f : Failure} : Answered f ↔ (f.isAuth || f.isOs || f.isValue) = true := by
  obtain ⟨reason, cause⟩ := f
  simp only [Answered, IsA, Failure.name, Failure.isAuth, Failure.isOs, Failure.isValue, bases]
  cases reason with
  | call status args => cases status <;> simp [Reason.name, CallStatus.name]
  | auth kind args => cases kind <;> simp [Reason.name, AuthFault.name]
  | database kind args => cases kind <;> simp [Reason.name, DatabaseFault.name]
  | general kind args => cases kind <;> simp [Reason.name, GeneralFault.name]
  | _ => simp [Reason.name]

end Classes

section Paths

variable {settings : Settings} {around : Surroundings} {s : Startup} {f : Failure} {grant : Grant} {load : Load}
  {n : String} {info : Json.Members}

def parse (settings : Settings) (around : Surroundings) : Attempt :=
  Credentials.obtain around.loader settings.serviceName settings.vcapServices

def connected (grant : Grant) : Log.Record :=
  note Log.info ("connected to datastore project " ++ grant.project.plain)

def Granted (settings : Settings) (around : Surroundings) (grant : Grant) : Prop := ∃ n info,
  Decoded settings.serviceName settings.vcapServices n info ∧ around.loader info = .ok grant

inductive Path (settings : Settings) (around : Surroundings) : Startup → Prop
  | undecoded {f : Failure} (h : ∀ n info, ¬ Decoded settings.serviceName settings.vcapServices n info)
    (hf : (parse settings around).result = .error f) :
    Path settings around { result := .error f, disk := around.disk }
  | unloaded {n : String} {info : Json.Members} {f : Failure}
    (h : Decoded settings.serviceName settings.vcapServices n info) (hl : around.loader info = .error f)
    (hf : (parse settings around).result = .error (loaderFailure f)) :
    Path settings around { result := .error (loaderFailure f), loads := [⟨info, [scope]⟩], disk := around.disk }
  | refused {n : String} {info : Json.Members} {grant : Grant} {f : Failure}
    (h : Decoded settings.serviceName settings.vcapServices n info) (hl : around.loader info = .ok grant)
    (hf : around.refusal = some f) : Path settings around
      ⟨.error (clientFailure f), [⟨info, [scope]⟩], [grant], [loaded n grant], around.disk⟩
  | connected {n : String} {info : Json.Members} {grant : Grant}
    (h : Decoded settings.serviceName settings.vcapServices n info) (hl : around.loader info = .ok grant)
    (hf : around.refusal = none) : Path settings around
      ⟨.ok ⟨.datastore around.remote, .volatile⟩, [⟨info, [scope]⟩], [grant], [loaded n grant, connected grant],
        around.disk⟩

lemma path_openDatastore (settings : Settings) (around : Surroundings) :
    Path settings around (openDatastore settings around) := by
  cases hfind : find settings.serviceName settings.vcapServices with
  | error f =>
    have hparse : parse settings around = ⟨.error f, [], []⟩ := obtain_of_find_error hfind
    have hnone (n : String) (info : Json.Members) :
        ¬ Decoded settings.serviceName settings.vcapServices n info := fun h => by
      cases hfind.symm.trans (find_of_decoded h)
    rw [parse] at hparse
    simp only [openDatastore, hparse]
    exact .undecoded hnone (by rw [parse, hparse])
  | ok found =>
    obtain ⟨n, info⟩ := found
    have hdecoded := find_eq_ok_iff.mp hfind
    have hparse : parse settings around = _ := obtain_of_find_ok hfind
    rw [parse] at hparse
    cases hl : around.loader info with
    | error f =>
      rw [hl] at hparse
      simp only [openDatastore, hparse]
      exact .unloaded hdecoded hl (by rw [parse, hparse])
    | ok grant =>
      rw [hl] at hparse
      cases hf : around.refusal with
      | some f =>
        simp only [openDatastore, hparse, hf]
        exact .refused hdecoded hl hf
      | none =>
        simp only [openDatastore, hparse, hf]
        exact .connected hdecoded hl hf

lemma Granted.unique {other : Grant} (h : Granted settings around grant) (h' : Granted settings around other) :
    grant = other := by
  obtain ⟨n, info, hd, hl⟩ := h
  obtain ⟨n', info', hd', hl'⟩ := h'
  obtain ⟨rfl, rfl⟩ := Prod.mk.inj (Except.ok.inj ((find_of_decoded hd).symm.trans (find_of_decoded hd')))
  exact Except.ok.inj (hl.symm.trans hl')

lemma parse_eq_ok_iff : (parse settings around).result = .ok grant ↔ Granted settings around grant := by
  constructor
  · intro h
    cases hfind : find settings.serviceName settings.vcapServices with
    | error f =>
      rw [parse, obtain_of_find_error hfind] at h
      cases h
    | ok found =>
      obtain ⟨n, info⟩ := found
      refine ⟨n, info, find_eq_ok_iff.mp hfind, ?_⟩
      rw [parse, obtain_of_find_ok hfind] at h
      cases hl : around.loader info with
      | error f =>
        rw [hl] at h
        cases h
      | ok other =>
        rw [hl] at h
        exact h
  · rintro ⟨n, info, hd, hl⟩
    rw [parse, obtain_of_find_ok (find_of_decoded hd), hl]

def Tells (r : Log.Record) : Prop := ∃ project, r = note Log.info ("connected to datastore project " ++ project)

lemma not_tells_loaded (n : String) (grant : Grant) : ¬ Tells (loaded n grant) := by
  rintro ⟨project, h⟩
  have hlogger : Credentials.logger = Startup.logger := congrArg Log.Record.logger h
  exact absurd hlogger (by decide)

lemma not_tells_sql (url : String) : ¬ Tells (note Log.info ("using SQL store at " ++ url)) := by
  rintro ⟨project, h⟩
  have hhead := congrArg (fun r : Log.Record => r.message.toList.head?) h
  simp [note] at hhead

lemma not_tells_memory : ¬ Tells (note Log.warning "using in-memory store; tasks are lost on exit") := by
  rintro ⟨project, h⟩
  have hlevel : Log.warning = Log.info := congrArg Log.Record.level h
  exact absurd hlevel (by decide)

structure Remote (settings : Settings) (around : Surroundings) (s : Startup) : Prop where
  parsed : ∀ grant, (parse settings around).result = .ok grant ↔ Granted settings around grant
  loads : ∀ load, load ∈ s.loads ↔
    load.scopes = [scope] ∧ ∃ n, Decoded settings.serviceName settings.vcapServices n load.info
  connections : ∀ grant, grant ∈ s.connections ↔ Granted settings around grant
  rejected : ∀ f, (parse settings around).result = .error f → s.result = .error f
  answered : ∀ f, s.connections ≠ [] → around.refusal = some f → Answered f →
    s.result = .error ⟨.store (.text "create datastore client") (.text f.message), some f⟩
  escaped : ∀ f, s.connections ≠ [] → around.refusal = some f → ¬ Answered f → s.result = .error f
  opened : ∀ grant ∈ s.connections, around.refusal = none →
    s.result = .ok ⟨.datastore around.remote, .volatile⟩ ∧ connected grant ∈ s.journal
  disk : s.disk = around.disk

structure Careful (settings : Settings) (around : Surroundings) (s : Startup) : Prop where
  loads_le : s.loads.length ≤ 1
  connections_le : s.connections.length ≤ 1
  elsewhere : settings.backend ≠ .datastore → s.loads = [] ∧ s.connections = []
  told : (∃ r ∈ s.journal, Tells r) ↔ s.connections ≠ [] ∧ around.refusal = none
  remote : settings.backend = .datastore → Remote settings around s

lemma clientFailure_of_answered (h : Answered f) :
    clientFailure f = ⟨.store (.text "create datastore client") (.text f.message), some f⟩ := by
  rw [clientFailure, if_pos (answered_iff.mp h)]
  rfl

lemma clientFailure_of_not_answered (h : ¬ Answered f) : clientFailure f = f := by
  rw [clientFailure, if_neg (mt answered_iff.mpr h)]

lemma mem_loads_iff (h : Decoded settings.serviceName settings.vcapServices n info) :
    load ∈ [⟨info, [scope]⟩] ↔
      load.scopes = [scope] ∧ ∃ n, Decoded settings.serviceName settings.vcapServices n load.info := by
  rw [List.mem_singleton]
  constructor
  · rintro rfl
    exact ⟨rfl, n, h⟩
  · rintro ⟨hscopes, n', h'⟩
    obtain ⟨-, hinfo⟩ := Prod.mk.inj (Except.ok.inj ((find_of_decoded h').symm.trans (find_of_decoded h)))
    rw [← hinfo, ← hscopes]

lemma mem_connections_iff {other : Grant} (h : Granted settings around grant) :
    other ∈ [grant] ↔ Granted settings around other := by
  rw [List.mem_singleton]
  exact ⟨fun heq => heq ▸ h, fun h' => h'.unique h⟩

lemma Path.remote (h : Path settings around s) : Remote settings around s := by
  cases h with
  | undecoded h hf =>
    refine ⟨fun grant => parse_eq_ok_iff, fun load => ?_, fun grant => ?_, fun f hf' => ?_, nofun, nofun, nofun, rfl⟩
    · exact ⟨nofun, fun ⟨_, n, hd⟩ => absurd hd (h n load.info)⟩
    · exact ⟨nofun, fun ⟨n, info, hd, _⟩ => absurd hd (h n info)⟩
    · rw [Except.error.inj (hf.symm.trans hf')]
  | unloaded h hl hf =>
    refine ⟨fun grant => parse_eq_ok_iff, fun load => mem_loads_iff h, fun grant => ⟨nofun, fun hg => ?_⟩,
      fun f hf' => ?_, nofun, nofun, nofun, rfl⟩
    · cases hf.symm.trans (parse_eq_ok_iff.mpr hg)
    · rw [Except.error.inj (hf.symm.trans hf')]
  | @refused n info grant f h hl hf =>
    have hg : Granted settings around grant := ⟨n, info, h, hl⟩
    refine ⟨fun grant => parse_eq_ok_iff, fun load => mem_loads_iff h, fun other => mem_connections_iff hg,
      fun f hf' => ?_, fun f' _ hf' ha => ?_, fun f' _ hf' ha => ?_, fun other _ hf' => ?_, rfl⟩
    · cases hf'.symm.trans (parse_eq_ok_iff.mpr hg)
    · cases hf.symm.trans hf'
      rw [clientFailure_of_answered ha]
    · cases hf.symm.trans hf'
      rw [clientFailure_of_not_answered ha]
    · cases hf.symm.trans hf'
  | @connected n info grant h hl hf =>
    have hg : Granted settings around grant := ⟨n, info, h, hl⟩
    refine ⟨fun grant => parse_eq_ok_iff, fun load => mem_loads_iff h, fun other => mem_connections_iff hg,
      fun f hf' => ?_, fun f' _ hf' => ?_, fun f' _ hf' => ?_, fun other ho _ => ⟨rfl, ?_⟩, rfl⟩
    · cases hf'.symm.trans (parse_eq_ok_iff.mpr hg)
    · cases hf.symm.trans hf'
    · cases hf.symm.trans hf'
    · rw [List.mem_singleton.mp ho]
      simp

lemma Path.told (h : Path settings around s) :
    (∃ r ∈ s.journal, Tells r) ↔ s.connections ≠ [] ∧ around.refusal = none := by
  cases h with
  | undecoded => simp
  | unloaded => simp
  | refused h hl hf => simp [not_tells_loaded, hf]
  | @connected n info grant h hl hf =>
    have htells : Tells (Startup.connected grant) := ⟨grant.project.plain, rfl⟩
    simp [htells, hf]

lemma Path.careful (hb : settings.backend = .datastore) (h : Path settings around s) :
    Careful settings around s := by
  refine ⟨?_, ?_, fun hne => absurd hb hne, h.told, fun _ => h.remote⟩
  · cases h <;> simp
  · cases h <;> simp

/-- No more than one client is ever made, and that with what the loader granted, whatever becomes of it. -/
theorem run_careful (settings : Settings) (around : Surroundings) : Careful settings around (run settings around) := by
  cases hb : settings.backend with
  | datastore =>
    rw [run, hb]
    exact (path_openDatastore settings around).careful hb
  | sql =>
    rw [run, hb]
    refine ⟨by simp [openSql], by simp [openSql], fun _ => ⟨rfl, rfl⟩, ?_, fun hd => ?_⟩
    · simp [openSql, not_tells_sql]
    · cases hb.symm.trans hd
  | memory =>
    rw [run, hb]
    refine ⟨by simp [openMemory], by simp [openMemory], fun _ => ⟨rfl, rfl⟩, ?_, fun hd => ?_⟩
    · simp [openMemory, not_tells_memory]
    · cases hb.symm.trans hd

end Paths

def boundSettings : Settings where
  serviceName := some "tasks"
  vcapServices := some (Json.write .ascii (.map sampleServices))

def noProject : Failure := .ofReason (.auth .malformed [.text "no project"])

def refusing : Surroundings where
  loader := fun _ => .ok ⟨"token", .text "demo"⟩
  remote := default
  refusal := some noProject

theorem run_careful_refusing : boundSettings.backend = .datastore ∧
    Granted boundSettings refusing ⟨"token", .text "demo"⟩ ∧ Answered noProject ∧
    ⟨"token", .text "demo"⟩ ∈ (run boundSettings refusing).connections ∧
    (run boundSettings refusing).result =
      .error ⟨.store (.text "create datastore client") (.text "no project"), some noProject⟩ := by
  have hdecoded : Decoded boundSettings.serviceName boundSettings.vcapServices "tasks"
      (Json.Document.ofMembers sampleInfo) :=
    find_eq_ok_iff.mp (find_of_bound (by decide) faithful_sampleInfo writable_sampleServices Json.spaced_ascii
      Json.spaced_ascii bound_sampleServices)
  have hgranted : Granted boundSettings refusing ⟨"token", .text "demo"⟩ := ⟨_, _, hdecoded, rfl⟩
  have hanswered : Answered noProject := Or.inl (Or.inr (by decide))
  have hremote := (run_careful boundSettings refusing).remote rfl
  have hmem := (hremote.connections _).mpr hgranted
  refine ⟨rfl, hgranted, hanswered, hmem, ?_⟩
  exact hremote.answered noProject (List.ne_nil_of_mem hmem) rfl hanswered

end TaskBoard.Proofs.Startup
