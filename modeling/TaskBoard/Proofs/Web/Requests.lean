import TaskBoard.Proofs.Stores.Runs
import TaskBoard.Proofs.Web.Handlers

/-! Runs of requests: no request loses a task, and what a reply says has happened to the store. -/

namespace TaskBoard.Proofs.Web

open TaskBoard.Web TaskBoard.Entries Proofs.Entries Stores Services

inductive Event where
  | request (r : Request)
  | setFaults (faults : Datastore.CallKind → Option Failure)

structure Exchange where
  convert : Conversion
  before : Service
  request : Request

namespace Exchange

def reply (x : Exchange) : Response := (handle x.convert x.request x.before).1

def after (x : Exchange) : Service := (handle x.convert x.request x.before).2

def old (x : Exchange) : List (ℤ × Kept) := contents x.before.store.backend

def new (x : Exchange) : List (ℤ × Kept) := contents x.after.store.backend

def creates (x : Exchange) : Bool := x.request.method == "POST" && x.reply.status == 200

end Exchange

def Event.perform (convert : Conversion) : Event → Service → Service
  | request r, s => (handle convert r s).2
  | setFaults faults, s => { s with store := Stores.setFaults faults s.store }

def after (convert : Conversion) (events : List Event) (s : Service) : Service :=
  events.foldl (fun s event => event.perform convert s) s

lemma after_append (convert : Conversion) (earlier events : List Event) (s : Service) :
    after convert (earlier ++ events) s = after convert events (after convert earlier s) := List.foldl_append

def exchanges (convert : Conversion) : List Event → Service → List Exchange
  | [], _ => []
  | .setFaults faults :: events, s => exchanges convert events (Event.perform convert (.setFaults faults) s)
  | .request r :: events, s => ⟨convert, s, r⟩ :: exchanges convert events (Event.perform convert (.request r) s)

def announced (convert : Conversion) (events : List Event) (s : Service) : List String :=
  ((exchanges convert events s).filter Exchange.creates).map fun x => x.reply.body

/-- What an answer says is what was done to the store. -/
structure Sound (x : Exchange) : Prop where
  failed : x.reply.status ≠ 200 → Untouched x.before.store.backend x.after.store.backend
  read : x.request.method = "GET" → Untouched x.before.store.backend x.after.store.backend
  foreign : x.request.path ∉ ["/", "/\n"] ∨ x.request.method ∉ ["GET", "POST", "DELETE"] → x.after = x.before
  created : x.request.method = "POST" → x.reply.status = 200 → ∃ id kept, x.reply.body = announcement id ∧
    id ∉ keys x.old ∧ x.new = x.old ++ [(id, kept)] ∧ kept.done = false ∧
      kept.description = .text (leadingText x.request.body messageLimit)
  completed : x.request.method = "DELETE" → x.reply.status = 200 → ∃ id, x.reply.body = completion id ∧
    id ∈ keys x.old ∧ x.new = x.old.map fun e => if e.1 = id then (e.1, { e.2 with done := true }) else e

structure Continues (old new : List (ℤ × Kept)) (ids : List ℤ) : Prop where
  keys_eq : keys new = keys old ++ ids
  kept : ∀ id k, (id, k) ∈ old → ∃ k', (id, k') ∈ new ∧ k'.description = k.description ∧ k'.created = k.created ∧
    (k.done = true → k'.done = true)

lemma Continues.refl (old : List (ℤ × Kept)) : Continues old old [] :=
  ⟨(List.append_nil _).symm, fun _ k hk => ⟨k, hk, rfl, rfl, fun hd => hd⟩⟩

lemma Continues.trans {old mid new : List (ℤ × Kept)} {xs ys : List ℤ} (h : Continues old mid xs)
    (h' : Continues mid new ys) : Continues old new (xs ++ ys) := by
  refine ⟨by rw [h'.keys_eq, h.keys_eq, List.append_assoc], fun id k hk => ?_⟩
  obtain ⟨k₁, hk₁, hd₁, hc₁, hdone₁⟩ := h.kept id k hk
  obtain ⟨k₂, hk₂, hd₂, hc₂, hdone₂⟩ := h'.kept id k₁ hk₁
  exact ⟨k₂, hk₂, hd₂.trans hd₁, hc₂.trans hc₁, fun hd => hdone₂ (hdone₁ hd)⟩

lemma Continues.concat (old : List (ℤ × Kept)) (id : ℤ) (k : Kept) : Continues old (old ++ [(id, k)]) [id] :=
  ⟨keys_append old [(id, k)], fun _ k hk => ⟨k, List.mem_append_left _ hk, rfl, rfl, fun hd => hd⟩⟩

lemma Continues.complete (old : List (ℤ × Kept)) (id : ℤ) :
    Continues old (old.map fun e => if e.1 = id then (e.1, { e.2 with done := true }) else e) [] := by
  constructor
  · rw [List.append_nil, keys, List.map_map]
    refine List.map_congr_left fun e _ => ?_
    rw [Function.comp_apply]
    split <;> rfl
  · intro i k hk
    by_cases hi : i = id
    · refine ⟨{ k with done := true }, List.mem_map.mpr ⟨(i, k), hk, if_pos hi⟩, rfl, rfl, fun _ => rfl⟩
    · exact ⟨k, List.mem_map.mpr ⟨(i, k), hk, if_neg hi⟩, rfl, rfl, fun hd => hd⟩

section Handling

variable {convert : Conversion} {x : Exchange} {tasks : List (ℤ × Task)}

def elsewhere (path : String) : Response :=
  if isOwnPath (otherEnding path) then redirection else plainText 404 "Not Found"

lemma elsewhere_status (path : String) : (elsewhere path).status ≠ 200 := by
  rw [elsewhere]
  split <;> simp [redirection, plainText]

lemma isOwnPath_iff {path : String} : isOwnPath path = true ↔ path ∈ ["/", "/\n"] := by simp [isOwnPath]

section Requests

variable {r : Request} {act : Service.Action Response} {s s' : Service}

lemma handle_of_path (h : ¬ isOwnPath r.path = true) (s : Service) : handle convert r s = (elsewhere r.path, s) := by
  rw [handle, if_neg h, elsewhere]
  split <;> rfl

lemma handle_of_error {f : Failure} (hp : isOwnPath r.path = true) (ha : action? convert r.method r.body = some act)
    (h : act s = .error f s') : handle convert r s = answerFailure r f s' := by
  rw [handle, if_pos hp, ha]
  simp only [h]

lemma handle_of_ok (convert : Conversion) {reply : Response} (hp : isOwnPath r.path = true)
    (ha : action? convert r.method r.body = some act) (h : act s = .ok reply s') :
    handle convert r s = (reply, s') := by
  rw [handle, if_pos hp, ha]
  simp only [h]

end Requests

lemma action?_cases {method : String} {body : Body} {act : Service.Action Response}
    (h : action? convert method body = some act) :
    method = "GET" ∧ act = getTasks convert ∨ method = "POST" ∧ act = postTask body ∨
      method = "DELETE" ∧ act = deleteTask body := by
  unfold action? at h
  split at h <;> cases h <;> simp

lemma exchange_cases (x : Exchange) : (x.after = x.before ∧ x.reply.status ≠ 200) ∨
    isOwnPath x.request.path = true ∧ ∃ act, action? x.convert x.request.method x.request.body = some act ∧
      ((∃ f s', act x.before = .error f s' ∧ x.after.store.backend = s'.store.backend ∧ x.reply.status ≠ 200) ∨
        act x.before = .ok x.reply x.after) := by
  by_cases hp : isOwnPath x.request.path = true
  · cases ha : action? x.convert x.request.method x.request.body with
    | none =>
      refine Or.inl ?_
      rw [Exchange.after, Exchange.reply, handle, if_pos hp, ha]
      exact ⟨rfl, by simp [plainText]⟩
    | some act =>
      refine Or.inr ⟨hp, act, rfl, ?_⟩
      rw [Exchange.after, Exchange.reply]
      cases hr : act x.before with
      | error f s' =>
        rw [handle_of_error hp ha hr]
        exact Or.inl ⟨f, s', rfl, answerFailure_backend _ _ _, answerFailure_status _ _ _⟩
      | ok reply s' =>
        rw [handle_of_ok _ hp ha hr]
        exact Or.inr rfl
  · refine Or.inl ?_
    rw [Exchange.after, Exchange.reply, handle_of_path hp]
    exact ⟨rfl, elsewhere_status _⟩

lemma action_error {method : String} {body : Body} {act : Service.Action Response} {s s' : Service} {f : Failure}
    (ha : action? convert method body = some act) (h : act s = .error f s') :
    Untouched s.store.backend s'.store.backend := by
  rcases action?_cases ha with ⟨_, rfl⟩ | ⟨_, rfl⟩ | ⟨_, rfl⟩
  · have hu := getTasks_untouched convert s
    rwa [h] at hu
  · exact postTask_error h
  · exact deleteTask_error h

lemma Exchange.new_eq (x : Exchange) {tasks' : List (ℤ × Task)}
    (hk : Kin x.before.store.backend x.after.store.backend) (h : Holds x.after.store.backend tasks') :
    x.new = tasks'.map (Prod.map id (written x.before.store.backend)) := by
  rw [Exchange.new, h.contents_eq, hk.written_eq]

lemma exchange_ok (h : Holds x.before.store.backend tasks) (hstatus : x.reply.status = 200) :
    x.request.method = "GET" ∧ Untouched x.before.store.backend x.after.store.backend ∨
    x.request.method = "POST" ∧ (∃ t kept, x.reply = plainText 200 (announcement (newId x.before.store.backend)) ∧
      t.description = .text (leadingText x.request.body messageLimit) ∧ t.done = false ∧
      Saves x.before.store.backend t kept ∧ Kin x.before.store.backend x.after.store.backend ∧
      Holds x.after.store.backend (tasks ++ [(newId x.before.store.backend, kept)])) ∨
    x.request.method = "DELETE" ∧ ∃ id t, x.reply = plainText 200 (completion id) ∧ (id, t) ∈ tasks ∧
      Kin x.before.store.backend x.after.store.backend ∧ Holds x.after.store.backend (assign id t.complete tasks) := by
  rcases exchange_cases x with ⟨_, hne⟩ | ⟨_, act, ha, ⟨f, s', hr, _, hne⟩ | hr⟩
  · exact absurd hstatus hne
  · exact absurd hstatus hne
  · rcases action?_cases ha with ⟨hm, rfl⟩ | ⟨hm, rfl⟩ | ⟨hm, rfl⟩
    · have hu := getTasks_untouched x.convert x.before
      rw [hr] at hu
      exact Or.inl ⟨hm, hu⟩
    · exact Or.inr (Or.inl ⟨hm, postTask_ok h hr⟩)
    · exact Or.inr (Or.inr ⟨hm, deleteTask_ok h hr⟩)

lemma untouched_of_failed (h : Holds x.before.store.backend tasks)
    (hx : x.request.method = "GET" ∨ x.reply.status ≠ 200) :
    Untouched x.before.store.backend x.after.store.backend := by
  rcases exchange_cases x with ⟨hsame, _⟩ | ⟨_, act, ha, ⟨f, s', hr, hb, _⟩ | hr⟩
  · rw [hsame]
    exact Untouched.refl _
  · rw [hb]
    exact action_error ha hr
  · rcases action?_cases ha with ⟨_, rfl⟩ | ⟨hm, rfl⟩ | ⟨hm, rfl⟩
    · have hu := getTasks_untouched x.convert x.before
      rwa [hr] at hu
    · obtain ⟨_, _, hreply, _⟩ := postTask_ok h hr
      simp [hm, hreply, plainText] at hx
    · obtain ⟨_, _, hreply, _⟩ := deleteTask_ok h hr
      simp [hm, hreply, plainText] at hx

lemma map_assign_complete (h : Holds x.before.store.backend tasks) {id : ℤ} {t : Task} (ht : (id, t) ∈ tasks) :
    (assign id t.complete tasks).map (Prod.map (fun i => i) (written x.before.store.backend)) =
      x.old.map fun e => if e.1 = id then (e.1, { e.2 with done := true }) else e := by
  rw [Exchange.old, h.contents_eq, assign_of_mem h.nodup ht, List.map_map, List.map_map]
  refine List.map_congr_left fun e he => ?_
  obtain ⟨i, u⟩ := e
  by_cases hi : i = id
  · subst hi
    have hu : u = t := Option.some.inj ((h.mem_iff.mp he).symm.trans (h.mem_iff.mp ht))
    simp [hu, written_complete]
  · simp [hi]

lemma sound_of_holds (h : Holds x.before.store.backend tasks) : Sound x where
  failed hstatus := untouched_of_failed h (Or.inr hstatus)
  read hm := untouched_of_failed h (Or.inl hm)
  foreign hf := by
    rcases exchange_cases x with ⟨hsame, _⟩ | ⟨hp, act, ha, _⟩
    · exact hsame
    · have hown := isOwnPath_iff.mp hp
      rcases action?_cases ha with ⟨hm, _⟩ | ⟨hm, _⟩ | ⟨hm, _⟩ <;> exact absurd hf (by simp [hown, hm])
  created hm hstatus := by
    rcases exchange_ok h hstatus with ⟨hm', _⟩ | ⟨_, t, kept, hreply, ht, hdone, hsave, hkin, hs'⟩ | ⟨hm', _⟩
    · simp [hm] at hm'
    · obtain ⟨hd, hk⟩ := hsave.written_description ht
      refine ⟨newId x.before.store.backend, written x.before.store.backend kept, ?_, ?_, ?_, hk.trans hdone, hd⟩
      · rw [hreply, plainText]
      · rw [Exchange.old, h.keys_contents]
        exact h.newId_notMem
      · rw [x.new_eq hkin hs', Exchange.old, h.contents_eq, List.map_append]
        rfl
    · simp [hm] at hm'
  completed hm hstatus := by
    rcases exchange_ok h hstatus with ⟨hm', _⟩ | ⟨hm', _⟩ | ⟨_, id, t, hreply, hmem, hkin, hs'⟩
    · simp [hm] at hm'
    · simp [hm] at hm'
    · refine ⟨id, by rw [hreply, plainText], ?_, ?_⟩
      · rw [Exchange.old, h.keys_contents]
        exact mem_keys_of_mem hmem
      · rw [x.new_eq hkin hs']
        exact map_assign_complete h hmem

lemma holds_after (h : Holds x.before.store.backend tasks) : ∃ tasks', Holds x.after.store.backend tasks' := by
  by_cases hstatus : x.reply.status = 200
  · rcases exchange_ok h hstatus with ⟨_, hu⟩ | ⟨_, _, _, _, _, _, _, _, hs'⟩ | ⟨_, _, _, _, _, _, hs'⟩
    · exact ⟨tasks, hu.holds h⟩
    · exact ⟨_, hs'⟩
    · exact ⟨_, hs'⟩
  · exact ⟨tasks, (untouched_of_failed h (Or.inr hstatus)).holds h⟩

lemma Sound.continues (h : Sound x) : ∃ ids : List ℤ,
    (if x.creates then [x.reply.body] else []) = ids.map announcement ∧ Continues x.old x.new ids := by
  have hquiet (hu : Untouched x.before.store.backend x.after.store.backend) : Continues x.old x.new [] := by
    rw [Exchange.new, hu.contents_eq]
    exact Continues.refl x.old
  by_cases hstatus : x.reply.status = 200
  · by_cases hm : x.request.method = "POST"
    · obtain ⟨id, kept, hbody, _, hnew, _⟩ := h.created hm hstatus
      refine ⟨[id], ?_, hnew ▸ Continues.concat x.old id kept⟩
      rw [if_pos (by simp [Exchange.creates, hm, hstatus]), hbody]
      rfl
    · refine ⟨[], if_neg (by simp [Exchange.creates, hm]), ?_⟩
      by_cases hd : x.request.method = "DELETE"
      · obtain ⟨id, _, _, hnew⟩ := h.completed hd hstatus
        rw [hnew]
        exact Continues.complete x.old id
      · by_cases hg : x.request.method = "GET"
        · exact hquiet (h.read hg)
        · rw [Exchange.new, h.foreign (Or.inr (by simp [hg, hm, hd]))]
          exact Continues.refl x.old
  · exact ⟨[], if_neg (by simp [Exchange.creates, hstatus]), hquiet (h.failed hstatus)⟩

end Handling

lemma contents_setFaults (faults : Datastore.CallKind → Option Failure) (s : Store) :
    contents (Stores.setFaults faults s).backend = contents s.backend := by
  obtain ⟨b, journal⟩ := s
  cases b <;> rfl

lemma announced_cons (convert : Conversion) (r : Request) (events : List Event) (s : Service) :
    announced convert (.request r :: events) s =
      (if (Exchange.mk convert s r).creates then [(Exchange.mk convert s r).reply.body] else []) ++
        announced convert events (handle convert r s).2 := by
  rw [announced, exchanges, List.filter_cons]
  split <;> rfl

lemma exchanges_spec {convert : Conversion} {s : Service} {tasks : List (ℤ × Task)} (h : Holds s.store.backend tasks)
    (events : List Event) :
    (∀ x ∈ exchanges convert events s, Sound x) ∧ (∃ tasks', Holds (after convert events s).store.backend tasks') ∧
      ∃ ids, announced convert events s = ids.map announcement ∧
        Continues (contents s.store.backend) (contents (after convert events s).store.backend) ids := by
  induction events generalizing s tasks with
  | nil => exact ⟨by simp [exchanges], ⟨tasks, h⟩, [], rfl, Continues.refl _⟩
  | cons event events ih =>
    cases event with
    | setFaults faults =>
      have hc := contents_setFaults faults s.store
      have hrec := ih (s := Event.perform convert (.setFaults faults) s) (setFaults_holds h faults)
      rw [Event.perform, hc] at hrec
      exact hrec
    | request r =>
      have hsound : Sound ⟨convert, s, r⟩ := sound_of_holds h
      obtain ⟨_, h'⟩ := holds_after (x := ⟨convert, s, r⟩) h
      obtain ⟨hall, hfinal, ids, hids, hcont⟩ := ih h'
      obtain ⟨first, hfirst, hstep⟩ := hsound.continues
      refine ⟨?_, hfinal, first ++ ids, ?_, hstep.trans hcont⟩
      · intro x hx
        rcases List.mem_cons.mp hx with rfl | hx
        · exact hsound
        · exact hall x hx
      · rw [announced_cons, hfirst, List.map_append]
        exact congrArg _ hids

lemma announcement_injective : Function.Injective announcement := by
  intro i j h
  have htext := (String.append_left_inj "\n").mp h
  exact Decimals.integerText_injective ((String.append_right_inj "created new task with ID ").mp htext)

def reached (convert : Conversion) (b : Backend) (journal : List Log.Record) (operations : List Operation)
    (clock : Clock) (events : List Event) : Service := after convert events ⟨Stores.run operations ⟨b, journal⟩, clock⟩

/-- Requests lose no task and announce no id twice, and each of them does to the store what its answer says. -/
theorem requests_sound (convert : Conversion) {b : Backend} (hb : Fresh b) (journal : List Log.Record)
    (operations : List Operation) (clock : Clock) (earlier events : List Event) :
    (∀ x ∈ exchanges convert events (reached convert b journal operations clock earlier), Sound x) ∧
      (announced convert events (reached convert b journal operations clock earlier)).Nodup ∧
      ∃ ids, announced convert events (reached convert b journal operations clock earlier) = ids.map announcement ∧
        Continues (contents (reached convert b journal operations clock earlier).store.backend)
          (contents (reached convert b journal operations clock (earlier ++ events)).store.backend) ids := by
  obtain ⟨_, h⟩ := run_holds (s := ⟨b, journal⟩) hb.holds operations
  obtain ⟨_, ⟨_, hearlier⟩, _⟩ := exchanges_spec (s := ⟨Stores.run operations ⟨b, journal⟩, clock⟩) h earlier
  obtain ⟨hall, ⟨_, hfinal⟩, ids, hids, hcont⟩ := exchanges_spec hearlier events
  have hnodup : ids.Nodup := by
    have hkeys := hfinal.nodup
    rw [← hfinal.keys_contents, hcont.keys_eq] at hkeys
    exact hkeys.of_append_right
  refine ⟨hall, ?_, ids, hids, ?_⟩
  · rw [reached, hids]
    exact hnodup.map announcement_injective
  · rw [reached, reached, after_append]
    exact hcont

def postings (texts : List String) : List Event :=
  texts.map fun text => .request ⟨"POST", "/", ⟨[Text.Utf8.encode text], false⟩⟩

def timesOnly : Conversion := fun v => .error ⟨["created"], "datetime_type", "Input should be a valid datetime", v⟩

theorem requests_sound_postings :
    let s := reached timesOnly (.datastore { nextId := 7 }) [] [.remove 7] (.scripted .epoch []) []
    announced timesOnly (postings ["water", "feed"]) s = [announcement 7, announcement 8] ∧
      (announced timesOnly (postings ["water", "feed"]) s).Nodup :=
  ⟨by decide +kernel, (requests_sound timesOnly (Fresh.datastore 7) [] _ _ [] _).2.1⟩

def straying : Request := ⟨"POST", "/\n", ⟨[Text.Utf8.encode "hello"], false⟩⟩

theorem not_only_own_path : ¬ ∀ (convert : Conversion) (b : Backend), Fresh b → ∀ (clock : Clock) (events : List Event),
    ∀ x ∈ exchanges convert events (reached convert b [] [] clock []), x.request.path ≠ "/" → x.after = x.before := by
  intro h
  let x : Exchange := ⟨timesOnly, reached timesOnly (.memory {}) [] [] (.scripted .epoch []) [], straying⟩
  have hsame : x.after = x.before :=
    h timesOnly (.memory {}) .memory (.scripted .epoch []) [.request straying] x (List.mem_singleton_self x) (by decide)
  have hnew : x.new = [(1, ⟨.text "hello", .time .epoch, false⟩)] := by rfl
  have hold : x.new = x.old := congrArg (fun s : Service => contents s.store.backend) hsame
  cases hnew.symm.trans hold

end TaskBoard.Proofs.Web
