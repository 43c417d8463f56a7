import TaskBoard.Proofs.Web.Requests

namespace TaskBoard.Proofs.Web

open TaskBoard.Web Outcome Stores Services

/-- What was logged from one state to a later one, none of it by the interface. -/
def Aside (before after : List Log.Record) : Prop :=
  ∃ added, after = before ++ added ∧ ∀ r ∈ added, r.logger ≠ logger

lemma Aside.refl (journal : List Log.Record) : Aside journal journal := ⟨[], (List.append_nil journal).symm, by simp⟩

lemma Aside.concat (journal : List Log.Record) {r : Log.Record} (h : r.logger ≠ logger) :
    Aside journal (journal ++ [r]) := ⟨[r], rfl, by simpa using h⟩

lemma Aside.trans {before mid after : List Log.Record} (h : Aside before mid) (h' : Aside mid after) :
    Aside before after := by
  obtain ⟨xs, rfl, hx⟩ := h
  obtain ⟨ys, rfl, hy⟩ := h'
  refine ⟨xs ++ ys, List.append_assoc _ _ _, fun r hr => ?_⟩
  exact (List.mem_append.mp hr).elim (hx r) (hy r)

section Discretion

variable {σ α β : Type} {journal : σ → List Log.Record}

def finalState : EStateM.Result Failure σ α → σ
  | .ok _ s => s
  | .error _ s => s

def Discreet (journal : σ → List Log.Record) (act : EStateM Failure σ α) : Prop :=
  ∀ s, Aside (journal s) (journal (finalState (act s)))

lemma Discreet.ok {act : EStateM Failure σ α} (h : Discreet journal act) {s s' : σ} {a : α} (hr : act s = .ok a s') :
    Aside (journal s) (journal s') := by
  have hs := h s
  rwa [hr] at hs

lemma Discreet.error {act : EStateM Failure σ α} (h : Discreet journal act) {s s' : σ} {f : Failure}
    (hr : act s = .error f s') : Aside (journal s) (journal s') := by
  have hs := h s
  rwa [hr] at hs

lemma Discreet.bind {act : EStateM Failure σ α} {next : α → EStateM Failure σ β} (h : Discreet journal act)
    (hnext : ∀ a, Discreet journal (next a)) : Discreet journal (act >>= next) := by
  intro s
  cases hr : (act >>= next) s with
  | ok b s' =>
    obtain ⟨a, s₁, ha, hb⟩ := run_bind_ok.mp hr
    exact (h.ok ha).trans ((hnext a).ok hb)
  | error f s' =>
    rcases run_bind_error.mp hr with ha | ⟨a, s₁, ha, hb⟩
    · exact h.error ha
    · exact (h.ok ha).trans ((hnext a).error hb)

lemma discreet_pure (a : α) : Discreet journal (pure a) := fun s => Aside.refl (journal s)

end Discretion

section Stores

abbrev StoreDiscreet {α : Type} (act : Store.Action α) : Prop := Discreet Store.journal act

lemma aside_settle {α : Type} (s : Store) (outcome : Except Failure (α × Backend)) :
    Aside s.journal (finalState (s.settle outcome)).journal := by
  cases outcome <;> exact Aside.refl s.journal

lemma aside_onClient {α : Type} (s : Store) (c : Datastore.Client) (act : Datastore.Action α) :
    Aside s.journal (finalState (s.onClient c act)).journal := by
  rw [Store.onClient]
  cases act c <;> exact Aside.refl s.journal

lemma discreet_lift {α : Type} (outcome : Except Failure α) : StoreDiscreet (Store.lift outcome) := by
  intro s
  cases outcome <;> exact Aside.refl s.journal

lemma discreet_add (t : Task) : StoreDiscreet (Store.add t) := by
  rintro ⟨b, journal⟩
  cases b with
  | memory m => exact Aside.refl journal
  | sql d => exact aside_settle ⟨.sql d, journal⟩ _
  | datastore c => exact aside_onClient ⟨.datastore c, journal⟩ c _

lemma discreet_modify (id : ℤ) (change : Change) : StoreDiscreet (Store.modify id change) := by
  rintro ⟨b, journal⟩
  cases b with
  | memory m => exact aside_settle ⟨.memory m, journal⟩ _
  | sql d => exact aside_settle ⟨.sql d, journal⟩ _
  | datastore c => exact aside_onClient ⟨.datastore c, journal⟩ c _

lemma discreet_list : StoreDiscreet Store.list := by
  rintro ⟨b, journal⟩
  cases b with
  | memory m => exact discreet_lift m.list ⟨.memory m, journal⟩
  | sql d => exact discreet_lift d.list ⟨.sql d, journal⟩
  | datastore c =>
    have hfetch : StoreDiscreet fun s => Store.onClient s c
        (Datastore.reported "read from datastore" (Datastore.fetch Datastore.taskKind "created")) :=
      fun s => aside_onClient s c _
    -- A remote store notes what it has fetched, but under its own name.
    have hnote (count : String) : StoreDiscreet (Store.log ⟨Store.datastoreLogger, Log.debug, count, {}, .none⟩) :=
      fun s => Aside.concat s.journal (by decide : Store.datastoreLogger ≠ logger)
    exact hfetch.bind (fun entities => (hnote _).bind fun _ => discreet_lift (Datastore.tasksInOrder entities))
      ⟨.datastore c, journal⟩

end Stores

section Services

abbrev ServiceDiscreet {α : Type} (act : Service.Action α) : Prop := Discreet (fun s => s.store.journal) act

lemma StoreDiscreet.onStore {α : Type} {act : Store.Action α} (h : StoreDiscreet act) :
    ServiceDiscreet (Service.onStore act) := by
  intro s
  rw [Service.onStore]
  cases hr : act s.store with
  | ok a store => exact h.ok hr
  | error f store => exact h.error hr

lemma discreet_outcome {α : Type} (outcome : Except Failure α) : ServiceDiscreet (Service.lift outcome) := by
  intro s
  cases outcome <;> exact Aside.refl s.store.journal

lemma discreet_now : ServiceDiscreet Service.now := by
  intro s
  rw [Service.now]
  cases s.clock.reading <;> exact Aside.refl s.store.journal

lemma discreet_noteTask (id : Value) (text : String) : ServiceDiscreet (Service.noteTask id text) :=
  fun s => Aside.concat s.store.journal (by decide : Service.logger ≠ logger)

lemma discreet_createTask (description : String) : ServiceDiscreet (Service.createTask description) :=
  discreet_now.bind fun _ => (discreet_add _).onStore.bind fun saved =>
    (discreet_noteTask _ _).bind fun _ => discreet_pure saved

lemma discreet_markDone (id : ℤ) : ServiceDiscreet (Service.markDone id) :=
  (discreet_modify id _).onStore.bind fun t => (discreet_noteTask _ _).bind fun _ => discreet_pure t

lemma discreet_getTasks (convert : Conversion) : ServiceDiscreet (getTasks convert) :=
  discreet_list.onStore.bind fun tasks => (discreet_outcome (listing convert tasks)).bind fun _ => discreet_pure _

end Services

section Methods

def Speaks (before after : List Log.Record) (r : Log.Record) : Prop :=
  r.logger = logger ∧ ∃ mid, Aside before mid ∧ after = mid ++ [r]

variable {convert : Conversion} {s s' : Service} {body : Body} {f : Failure} {reply : Response}

lemma add_named {t r : Task} {st st' : Store} (h : Store.add t st = .ok r st') : ∃ id, r.id = some id := by
  obtain ⟨b, journal⟩ := st
  cases b with
  | memory m =>
    cases h
    cases hid : t.id with
    | none => exact ⟨m.freeId, by rw [InMemory.add_new hid]⟩
    | some id => exact ⟨id, by rw [InMemory.add_own hid, hid]⟩
  | sql d =>
    obtain ⟨_, hadd, rfl, -⟩ := settle_ok.mp h
    obtain ⟨_, -, hrest⟩ := bind_eq_ok.mp hadd
    obtain ⟨⟨id, d'⟩, -, hpure⟩ := bind_eq_ok.mp hrest
    cases hpure
    exact ⟨id, rfl⟩
  | datastore c =>
    cases hp : c.faults .put with
    | some g => cases (onClient_of_error (Remote.add_of_fault hp t)).symm.trans h
    | none =>
      cases (onClient_of_ok (Remote.add_of_none hp t)).symm.trans h
      exact ⟨c.nextId, rfl⟩

lemma createTask_named {description : String} {t : Task} (h : Service.createTask description s = .ok t s') :
    ∃ id, t.id = some id := by
  cases hr : s.clock.reading with
  | error g => cases (createTask_of_clock hr description).symm.trans h
  | ok created =>
    cases ha : Store.add (newTask description created) s.store with
    | error g st => cases (createTask_of_error hr ha).symm.trans h
    | ok t' st =>
      obtain ⟨journal, ht⟩ := createTask_of_ok hr ha
      cases ht.symm.trans h
      exact add_named ha

lemma postTask_discreet (h : postTask body s = .error f s') : Aside s.store.journal s'.store.journal := by
  rcases run_bind_error.mp h with hm | ⟨m, s₁, hm, hrest⟩
  · exact (discreet_outcome _).error hm
  rcases run_bind_error.mp hrest with hc | ⟨t, s₂, hc, hlog⟩
  · exact ((discreet_outcome _).ok hm).trans ((discreet_createTask m.text).error hc)
  · cases hlog

lemma deleteTask_discreet (h : deleteTask body s = .error f s') : Aside s.store.journal s'.store.journal := by
  rcases run_bind_error.mp h with hm | ⟨m, s₁, hm, hparse⟩
  · exact (discreet_outcome _).error hm
  rcases run_bind_error.mp hparse with hp | ⟨id, s₂, hp, hmark⟩
  · exact ((discreet_outcome _).ok hm).trans ((discreet_outcome _).error hp)
  rcases run_bind_error.mp hmark with hd | ⟨t, s₃, hd, hlog⟩
  · exact (((discreet_outcome _).ok hm).trans ((discreet_outcome _).ok hp)).trans ((discreet_markDone id).error hd)
  · cases hlog

lemma action_discreet {method : String} {act : Service.Action Response} (ha : action? convert method body = some act)
    (h : act s = .error f s') : Aside s.store.journal s'.store.journal := by
  rcases action?_cases ha with ⟨-, rfl⟩ | ⟨-, rfl⟩ | ⟨-, rfl⟩
  · exact (discreet_getTasks convert).error h
  · exact postTask_discreet h
  · exact deleteTask_discreet h

lemma getTasks_status (h : getTasks convert s = .ok reply s') : reply.status = 200 := by
  obtain ⟨_, _, _, hrest⟩ := run_bind_ok.mp h
  obtain ⟨_, _, _, hpure⟩ := run_bind_ok.mp hrest
  cases hpure
  rfl

lemma postTask_speaks (h : postTask body s = .ok reply s') : ∃ id r, reply = plainText 200 (announcement id) ∧
    r.level = Log.info ∧ r.context.taskId = some (.int id) ∧ Speaks s.store.journal s'.store.journal r := by
  obtain ⟨m, _, hm, hcreate⟩ := run_bind_ok.mp h
  obtain ⟨_, rfl⟩ := lift_ok.mp hm
  obtain ⟨t, st, hc, hlog⟩ := run_bind_ok.mp hcreate
  obtain ⟨id, hid⟩ := createTask_named hc
  cases hlog
  rw [hid]
  exact ⟨id, _, rfl, rfl, rfl, rfl, _, (discreet_createTask m.text).ok hc, rfl⟩

lemma deleteTask_speaks (h : deleteTask body s = .ok reply s') : ∃ id r, reply = plainText 200 (completion id) ∧
    r.level = Log.info ∧ r.context.taskId = some (.int id) ∧ Speaks s.store.journal s'.store.journal r := by
  obtain ⟨m, _, hm, hparse⟩ := run_bind_ok.mp h
  obtain ⟨_, rfl⟩ := lift_ok.mp hm
  obtain ⟨id, _, hp, hmark⟩ := run_bind_ok.mp hparse
  obtain ⟨_, rfl⟩ := lift_ok.mp hp
  obtain ⟨t, st, hd, hlog⟩ := run_bind_ok.mp hmark
  cases hlog
  exact ⟨id, _, rfl, rfl, rfl, rfl, _, (discreet_markDone id).ok hd, rfl⟩

end Methods

section Answers

structure Admits (request : Request) (reply : Response) (f : Failure) (r : Log.Record) : Prop where
  status : r.context.status = some (.int reply.status)
  method : r.context.method = some (.text request.method)
  path : r.context.path = some (.text "/")
  task : r.context.taskId.isSome = true ↔ f.isTaskNotFound = true
  trouble : r.trouble ≠ .none ↔ reply.body = "internal server error"

lemma missingTask?_isSome (f : Failure) : (missingTask? f).isSome = f.isTaskNotFound := by
  obtain ⟨reason, cause⟩ := f
  cases reason <;> rfl

lemma failureResponse?_of_isTaskNotFound {f : Failure} (h : f.isTaskNotFound = true) :
    (failureResponse? f).isSome = true := by
  obtain ⟨reason, cause⟩ := f
  cases reason <;> first | rfl | cases h

lemma append_ne {c d : Char} (hne : c ≠ d) (cs ds : List Char) (text : String) :
    String.ofList (c :: cs) ++ text ≠ String.ofList (d :: ds) := by
  intro h
  have htext := congrArg String.toList h
  simp only [String.toList_append, String.toList_ofList, List.cons_append, List.cons.injEq] at htext
  exact hne htext.1

lemma failureResponse?_body {f : Failure} {reply : Response} (h : failureResponse? f = some reply) :
    reply.body ≠ "internal server error" := by
  rw [failureResponse?] at h
  split at h
  · cases h
    decide
  · cases h
    decide
  -- What the store could not do is only known when it fails, but the answer begins with another letter.
  · cases h
    exact append_ne (by decide : 'f' ≠ 'i') "ailed to ".toList "nternal server error".toList _
  · cases h
    decide
  · cases h

lemma urlPath_of_isOwnPath {request : Request} (hp : isOwnPath request.path = true) : request.urlPath = "/" := by
  have hpath := isOwnPath_iff.mp hp
  rw [List.mem_pair] at hpath
  rcases hpath with h | h <;> simp [Request.urlPath, h]

lemma answerFailure_speaks {request : Request} (hp : isOwnPath request.path = true) (f : Failure) (s : Service) :
    ∃ r, r.level = Log.error ∧ Admits request (answerFailure request f s).1 f r ∧
      Speaks s.store.journal (answerFailure request f s).2.store.journal r := by
  have hpath : some (Value.text request.urlPath) = some (.text "/") := by rw [urlPath_of_isOwnPath hp]
  rw [answerFailure]
  cases hf : failureResponse? f with
  | some reply =>
    refine ⟨failureRecord request reply.status f, rfl, ⟨rfl, rfl, hpath, ?_, ?_⟩, rfl, _, Aside.refl _, rfl⟩
    · rw [← missingTask?_isSome]
      exact Iff.rfl
    · exact iff_of_false (fun h => h rfl) (failureResponse?_body hf)
  | none =>
    refine ⟨unknownRecord request f, rfl, ⟨rfl, rfl, hpath, ?_, ?_⟩, rfl, _, Aside.refl _, rfl⟩
    · refine iff_of_false (by simp [unknownRecord]) fun h => ?_
      have hsome := failureResponse?_of_isTaskNotFound h
      rw [hf] at hsome
      cases hsome
    · exact iff_of_true (by simp [unknownRecord]) rfl

end Answers

section Requests

def Exchange.failure? (x : Exchange) : Option Failure :=
  (action? x.convert x.request.method x.request.body).bind fun act =>
    match act x.before with
    | .ok _ _ => none
    | .error f _ => some f

def voiced (level : ℤ) (records : List Log.Record) : List Log.Record :=
  records.filter fun r => r.logger == logger && r.level == level

lemma voiced_aside {records : List Log.Record} (h : ∀ r ∈ records, r.logger ≠ logger) (level : ℤ) :
    voiced level records = [] := by
  refine List.filter_eq_nil_iff.mpr fun r hr => ?_
  simp [h r hr]

lemma voiced_eq_nil_iff {level : ℤ} {records : List Log.Record} :
    voiced level records = [] ↔ ¬ ∃ r ∈ records, r.logger = logger ∧ r.level = level := by
  simp [voiced, List.filter_eq_nil_iff]

lemma Speaks.voiced {before after : List Log.Record} {r : Log.Record} (h : Speaks before after r) :
    ∃ records, after = before ++ records ∧ ∀ level, voiced level records = if r.level = level then [r] else [] := by
  obtain ⟨hr, _, ⟨added, rfl, hadded⟩, rfl⟩ := h
  refine ⟨added ++ [r], List.append_assoc _ _ _, fun level => ?_⟩
  have hone : Web.voiced level [r] = if r.level = level then [r] else [] := by
    by_cases hl : r.level = level <;> simp [Web.voiced, hr, hl]
  rw [Web.voiced, List.filter_append, ← Web.voiced, ← Web.voiced, voiced_aside hadded, List.nil_append, hone]

lemma Speaks.trans {before mid after : List Log.Record} {r : Log.Record} (h : Aside before mid)
    (h' : Speaks mid after r) : Speaks before after r := by
  obtain ⟨hr, _, hmid, rfl⟩ := h'
  exact ⟨hr, _, h.trans hmid, rfl⟩

def Reports (written : ℤ → String) (reply : Response) (records : List Log.Record) : Prop :=
  ∃ id r, reply.body = written id ∧ voiced Log.info records = [r] ∧ r.context.taskId = some (.int id)

structure Recorded (x : Exchange) (records : List Log.Record) : Prop where
  alarm : x.reply.status ≠ 200 ↔ ∃ r ∈ records, r.logger = logger ∧ r.level = Log.error
  failed : x.reply.status ≠ 200 → ∃ f r, x.failure? = some f ∧ voiced Log.error records = [r] ∧
    Admits x.request x.reply f r
  created : x.reply.status = 200 → x.request.method = "POST" → Reports announcement x.reply records
  completed : x.reply.status = 200 → x.request.method = "DELETE" → Reports completion x.reply records

variable {x : Exchange} {act : Service.Action Response} {records : List Log.Record}

lemma alarm_of_voiced {n : ℕ} (h : voiced Log.error records = [] ↔ n = 200) :
    n ≠ 200 ↔ ∃ r ∈ records, r.logger = logger ∧ r.level = Log.error := by
  rw [← not_iff_not, not_not, ← voiced_eq_nil_iff, h]

lemma recorded_error {f : Failure} {s' : Service} (hp : isOwnPath x.request.path = true)
    (ha : action? x.convert x.request.method x.request.body = some act) (h : act x.before = .error f s') :
    ∃ records, x.after.store.journal = x.before.store.journal ++ records ∧ Recorded x records := by
  have hhandle := handle_of_error hp ha h
  have hreply : x.reply = (answerFailure x.request f s').1 := congrArg Prod.fst hhandle
  have hafter : x.after = (answerFailure x.request f s').2 := congrArg Prod.snd hhandle
  have hstatus : x.reply.status ≠ 200 := hreply ▸ answerFailure_status _ _ _
  obtain ⟨r, hlevel, hadmits, hspeaks⟩ := answerFailure_speaks hp f s'
  rw [← hreply] at hadmits
  rw [← hafter] at hspeaks
  obtain ⟨records, hjournal, hvoiced⟩ := (hspeaks.trans (action_discreet ha h)).voiced
  have hone : voiced Log.error records = [r] := by rw [hvoiced, if_pos hlevel]
  refine ⟨records, hjournal, alarm_of_voiced ?_, fun _ => ⟨f, r, ?_, hone, hadmits⟩, ?_, ?_⟩
  · exact iff_of_false (by simp [hone]) hstatus
  · simp [Exchange.failure?, ha, h]
  · exact fun h => absurd h hstatus
  · exact fun h => absurd h hstatus

lemma recorded_read {s' : Service} {reply : Response} (hreply : x.reply.status = 200) (hm : x.request.method = "GET")
    (h : getTasks x.convert x.before = .ok reply s') (hafter : x.after = s') :
    ∃ records, x.after.store.journal = x.before.store.journal ++ records ∧ Recorded x records := by
  obtain ⟨records, hjournal, hadded⟩ := (discreet_getTasks x.convert).ok h
  refine ⟨records, hafter ▸ hjournal, alarm_of_voiced ?_, fun hne => absurd hreply hne, ?_, ?_⟩
  · exact iff_of_true (voiced_aside hadded _) hreply
  · simp [hm]
  · simp [hm]

lemma recorded_write {r : Log.Record} (hreply : x.reply.status = 200) (hlevel : r.level = Log.info)
    (hs : Speaks x.before.store.journal x.after.store.journal r)
    (hpost : ∀ records, voiced Log.info records = [r] → x.request.method = "POST" →
      Reports announcement x.reply records)
    (hdelete : ∀ records, voiced Log.info records = [r] → x.request.method = "DELETE" →
      Reports completion x.reply records) :
    ∃ records, x.after.store.journal = x.before.store.journal ++ records ∧ Recorded x records := by
  obtain ⟨records, hjournal, hvoiced⟩ := hs.voiced
  have hone : voiced Log.info records = [r] := by rw [hvoiced, if_pos hlevel]
  refine ⟨records, hjournal, alarm_of_voiced ?_, fun hne => absurd hreply hne, fun _ => hpost records hone,
    fun _ => hdelete records hone⟩
  refine iff_of_true ?_ hreply
  rw [hvoiced, hlevel]
  exact if_neg (by decide)

/--
A request whose answer is not a success is logged as an error by the interface, once and in agreement with the answer;
a success is not. A task that was created or marked done is logged once, under the id that is answered.
-/
theorem request_recorded (x : Exchange) (hpath : x.request.path ∈ ["/", "/\n"])
    (hm : x.request.method ∈ ["GET", "POST", "DELETE"]) :
    ∃ records, x.after.store.journal = x.before.store.journal ++ records ∧ Recorded x records := by
  have hp := isOwnPath_iff.mpr hpath
  obtain ⟨act, ha⟩ : ∃ act, action? x.convert x.request.method x.request.body = some act := by
    simp only [List.mem_cons, List.not_mem_nil, or_false] at hm
    rcases hm with h | h | h <;> exact ⟨_, by rw [h]; rfl⟩
  cases hr : act x.before with
  | error f s' => exact recorded_error hp ha hr
  | ok reply s' =>
    have hhandle := handle_of_ok _ hp ha hr
    have hreply : x.reply = reply := congrArg Prod.fst hhandle
    have hafter : x.after = s' := congrArg Prod.snd hhandle
    rcases action?_cases ha with ⟨hm, rfl⟩ | ⟨hm, rfl⟩ | ⟨hm, rfl⟩
    · exact recorded_read (hreply ▸ getTasks_status hr) hm hr hafter
    · obtain ⟨id, r, rfl, hlevel, hid, hspeaks⟩ := postTask_speaks hr
      refine recorded_write (by rw [hreply]; rfl) hlevel (hafter ▸ hspeaks) (fun records hone _ => ?_) (by simp [hm])
      exact ⟨id, r, by rw [hreply]; rfl, hone, hid⟩
    · obtain ⟨id, r, rfl, hlevel, hid, hspeaks⟩ := deleteTask_speaks hr
      refine recorded_write (by rw [hreply]; rfl) hlevel (hafter ▸ hspeaks) (by simp [hm]) (fun records hone _ => ?_)
      exact ⟨id, r, by rw [hreply]; rfl, hone, hid⟩

def brokenOff : Exchange :=
  let faults := fun kind => if kind = .commit then some (Failure.ofReason (.general .runtime [.text "gone"])) else none
  let entity := Datastore.ofTask { description := .text "water", created := .time .epoch }
  ⟨timesOnly,
    ⟨⟨.datastore { entities := [(Datastore.taskKey 7, entity)], nextId := 8, faults }, []⟩, .scripted .epoch []⟩,
    ⟨"DELETE", "/", ⟨[[0x37]], false⟩⟩⟩

theorem request_recorded_brokenOff : brokenOff.request.path ∈ ["/", "/\n"] ∧
    brokenOff.request.method ∈ ["GET", "POST", "DELETE"] ∧ brokenOff.reply.status = 500 ∧
      ∃ records, brokenOff.after.store.journal = brokenOff.before.store.journal ++ records ∧
        Recorded brokenOff records :=
  ⟨by decide, by decide, by decide +kernel, request_recorded brokenOff (by decide) (by decide)⟩

end Requests

end TaskBoard.Proofs.Web
