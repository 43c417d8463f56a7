import TaskBoard.Proofs.Services.Runs
import TaskBoard.Proofs.Services.Serving

/-! Services over the three stores give the same answers, up to the ids of the tasks. -/

namespace TaskBoard.Proofs.Services

open TaskBoard.Entries Proofs.Entries Proofs.Order Stores

inductive Place where
  | memory
  | table
  | remote
deriving DecidableEq

instance : Fintype Place := ⟨{.memory, .table, .remote}, fun p => by cases p <;> decide⟩

abbrev Ids := Place → ℤ

def idsOf (memory table remote : ℤ) : Ids
  | .memory => memory
  | .table => table
  | .remote => remote

structure Shared where
  ids : Ids
  description : String
  created : Time.Timestamp
  done : Bool

def Shared.task (p : Place) (t : Shared) : Task := ⟨.text t.description, .time t.created, t.done, some (t.ids p)⟩

inductive SharedAnswer where
  | task (t : Shared)
  | tasks (listed : List Shared)
  | nothing

def SharedAnswer.view (p : Place) : SharedAnswer → Answer
  | task t => .task (t.task p)
  | tasks listed => .tasks (listed.map (Shared.task p))
  | nothing => .nothing

inductive Act where
  | create (description : String)
  | markDone (ids : Ids)
  | remove (ids : Ids)
  | list

def Act.call (p : Place) : Act → Call
  | create description => .create description
  | markDone ids => .markDone (ids p)
  | remove ids => .remove (ids p)
  | list => .list

structure Trio where
  services : Place → Service
  live : List Ids

namespace Trio

def newIds (act : Act) (s : Trio) : Ids := fun p => ((act.call p).issues (s.services p)).headI

def step (act : Act) (s : Trio) : Trio where
  services p := (act.call p).perform (s.services p)
  live :=
    match act with
    | .create _ => s.live ++ [s.newIds act]
    | .remove ids => s.live.filter fun i => i ≠ ids
    | .markDone _ | .list => s.live

/-- A live task. Its id in the table has 64 bits, as all ids of rows have; no other can be searched for. -/
def Present (s : Trio) (ids : Ids) : Prop := ids ∈ s.live ∧ TaskId.inRange (ids .table) = true

def Absent (s : Trio) (ids : Ids) : Prop := ∃ i, TaskId.inRange i = true ∧ (∀ p, ids p = i) ∧
  ∀ p, i ∉ keys (contents (s.services p).store.backend)

end Trio

def Act.Named (s : Trio) : Act → Prop
  | markDone ids | remove ids => s.Present ids ∨ s.Absent ids
  | create _ | list => True

def Admitted : List Act → Trio → Prop
  | [], _ => True
  | act :: acts, s => act.Named s ∧ Admitted acts (s.step act)

def Proper (live : List Ids) : Except Failure SharedAnswer → Prop
  | .ok (.task t) => t.ids ∈ live
  | .ok (.tasks listed) => (listed.map Shared.ids).Perm live
  | .ok .nothing => True
  | .error f => ∃ i, f = .taskNotFound i

def Alike (act : Act) (s : Trio) : Prop := ∃ o : Except Failure SharedAnswer,
  (∀ p, (act.call p).answer (s.services p) = o.map (SharedAnswer.view p)) ∧ Proper (s.step act).live o

def AllAlike : List Act → Trio → Prop
  | [], _ => True
  | act :: acts, s => Alike act s ∧ AllAlike acts (s.step act)

def Timely : Clock → Prop
  | .scripted next later => ∀ t ∈ next :: later, Dated t
  | .ticking _ _ _ => False

lemma Timely.reading {clock : Clock} (h : Timely clock) : ∃ t, clock.reading = .ok t ∧ Dated t := by
  cases clock with
  | ticking => exact h.elim
  | scripted next later => exact ⟨next, rfl, h next List.mem_cons_self⟩

lemma Timely.advance {clock : Clock} (h : Timely clock) : Timely clock.advance := by
  cases clock with
  | ticking => exact h.elim
  | scripted next later =>
    cases later with
    | nil => exact h
    | cons t later => exact fun u hu => h u (List.mem_cons_of_mem next hu)

def entries (p : Place) (shared : List Shared) : List (ℤ × Task) := shared.map fun t => (t.ids p, t.task p)

lemma keys_entries (p : Place) (shared : List Shared) : keys (entries p shared) = shared.map fun t => t.ids p := by
  rw [keys, entries, List.map_map]
  rfl

def Place.Names : Place → ℤ → Prop
  | table, id => TaskId.inRange id = true
  | memory, _ | remote, _ => True

structure Related (s : Trio) (shared : List Shared) (clock : Clock) : Prop where
  serves : ∀ p, Serves p.Names (s.services p) (entries p shared)
  clocks : ∀ p, (s.services p).clock = clock
  timely : Timely clock
  live : s.live = shared.map Shared.ids

section Entries

variable {p : Place} {shared : List Shared} {t u : Shared}

lemma ids_inj (h : (keys (entries p shared)).Nodup) (ht : t ∈ shared) (hu : u ∈ shared) (hi : u.ids p = t.ids p) :
    u = t := by
  rw [keys_entries] at h
  exact List.inj_on_of_nodup_map h hu ht hi

lemma ids_eq_iff (h : (keys (entries p shared)).Nodup) (ht : t ∈ shared) (hu : u ∈ shared) :
    u.ids p = t.ids p ↔ u.ids = t.ids := ⟨fun hi => by rw [ids_inj h ht hu hi], fun hi => by rw [hi]⟩

def complete (ids : Ids) (shared : List Shared) : List Shared :=
  shared.map fun t => if t.ids = ids then { t with done := true } else t

lemma assign_entries (h : (keys (entries p shared)).Nodup) (ht : t ∈ shared) :
    assign (t.ids p) (t.task p).complete (entries p shared) = entries p (complete t.ids shared) := by
  have hmem : (t.ids p, t.task p) ∈ entries p shared := List.mem_map_of_mem ht
  rw [assign_of_mem h hmem, entries, entries, complete, List.map_map, List.map_map]
  refine List.map_congr_left fun u hu => ?_
  by_cases hi : u.ids = t.ids
  · have hut : u = t := ids_inj h ht hu (congrFun hi p)
    simp [hut, Shared.task, Task.complete]
  · have hp : u.ids p ≠ t.ids p := fun he => hi ((ids_eq_iff h ht hu).mp he)
    simp [hi, hp]

lemma erase_entries (h : (keys (entries p shared)).Nodup) (ht : t ∈ shared) :
    erase (t.ids p) (entries p shared) = entries p (shared.filter fun u => u.ids ≠ t.ids) := by
  rw [erase, entries, List.filter_map, entries]
  congr 1
  refine List.filter_congr fun u hu => ?_
  rw [Bool.eq_iff_iff, Function.comp_apply, Bool.not_eq_true', beq_eq_false_iff_ne, decide_eq_true_eq, ne_eq,
    ids_eq_iff h ht hu]

end Entries

section Calls

variable {useful : ℤ → Prop} {s : Service} {tasks : List (ℤ × Task)} {id : ℤ} {t : Task}

lemma create_call (h : Serves useful s tasks) {created : Time.Timestamp} (hr : s.clock.reading = .ok created)
    (hd : Dated created) (description : String) :
    (Call.create description).answer s =
        .ok (.task { newTask description created with id := some (newId s.store.backend) }) ∧
      (Call.create description).issues s = [newId s.store.backend] ∧
      ((Call.create description).perform s).clock = s.clock.advance ∧
      Serves useful ((Call.create description).perform s) (tasks ++ [(newId s.store.backend,
        { newTask description created with id := some (newId s.store.backend) })]) := by
  obtain ⟨s', hclock, hc, hs'⟩ := createTask_spec h hr hd description
  rw [Call.answer, Call.issues, Call.perform, hc]
  exact ⟨rfl, rfl, hclock, hs'⟩

lemma markDone_call (h : Serves useful s tasks) (hid : useful id) (ht : (id, t) ∈ tasks) :
    (Call.markDone id).answer s = .ok (.task t.complete) ∧ ((Call.markDone id).perform s).clock = s.clock ∧
      Serves useful ((Call.markDone id).perform s) (assign id t.complete tasks) := by
  obtain ⟨s', hclock, hc, hs'⟩ := markDone_present h hid ht
  rw [Call.answer, Call.perform, hc]
  exact ⟨rfl, hclock, hs'⟩

lemma markDone_call_absent (h : Serves useful s tasks) (hid : useful id) (ht : id ∉ keys tasks) :
    (Call.markDone id).answer s = .error (.taskNotFound id) ∧ ((Call.markDone id).perform s).clock = s.clock ∧
      Serves useful ((Call.markDone id).perform s) tasks := by
  obtain ⟨s', hclock, hc, hs'⟩ := markDone_absent h hid ht
  rw [Call.answer, Call.perform, hc]
  exact ⟨rfl, hclock, hs'⟩

lemma remove_call (h : Serves useful s tasks) (hid : useful id) :
    (Call.remove id).answer s = .ok .nothing ∧ ((Call.remove id).perform s).clock = s.clock ∧
      Serves useful ((Call.remove id).perform s) (erase id tasks) := by
  obtain ⟨s', hclock, hc, hs'⟩ := removeTask_spec h hid
  rw [Call.answer, Call.perform, hc]
  exact ⟨rfl, hclock, hs'⟩

lemma list_call (h : Serves useful s tasks) :
    Call.list.answer s = .ok (.tasks ((values tasks).mergeSort Task.notAfter)) ∧
    (Call.list.perform s).clock = s.clock ∧ Serves useful (Call.list.perform s) tasks := by
  obtain ⟨s', hclock, hc, hs'⟩ := listTasks_spec h
  rw [Call.answer, Call.perform, hc]
  exact ⟨rfl, hclock, hs'⟩

end Calls

section Steps

variable {s : Trio} {shared : List Shared} {clock : Clock}

lemma create_alike (h : Related s shared clock) (description : String) : Alike (.create description) s ∧
    ∃ shared' clock', Related (s.step (.create description)) shared' clock' := by
  obtain ⟨created, hr, hd⟩ := h.timely.reading
  have hcall (p : Place) := create_call (h.serves p) ((congrArg Clock.reading (h.clocks p)).trans hr) hd description
  have hids : s.newIds (.create description) = fun p => newId (s.services p).store.backend := by
    funext p
    rw [Trio.newIds, Act.call, (hcall p).2.1]
    rfl
  let t : Shared := ⟨s.newIds (.create description), description, created, false⟩
  have ht (p : Place) : t.task p =
      { newTask description created with id := some (newId (s.services p).store.backend) } := by
    rw [← congrFun hids p]
    rfl
  refine ⟨⟨.ok (.task t), fun p => ?_, List.mem_append_right _ (List.mem_singleton_self _)⟩,
    shared ++ [t], clock.advance, fun p => ?_, fun p => ?_, h.timely.advance, ?_⟩
  · rw [Act.call, (hcall p).1, ← ht p]
    rfl
  · have hs := (hcall p).2.2.2
    rw [← ht p, ← congrFun hids p] at hs
    rw [entries, List.map_append]
    exact hs
  · rw [← h.clocks p]
    exact (hcall p).2.2.1
  · rw [List.map_append, ← h.live]
    rfl

lemma names_of_inRange {i : ℤ} (h : TaskId.inRange i = true) (p : Place) : p.Names i := by
  cases p <;> trivial

lemma Trio.Present.names {ids : Ids} (h : s.Present ids) (p : Place) : p.Names (ids p) := by
  cases p with
  | table => exact h.2
  | memory => trivial
  | remote => trivial

lemma Related.exists_shared (h : Related s shared clock) {ids : Ids} (hids : ids ∈ s.live) :
    ∃ t ∈ shared, t.ids = ids := by
  rw [h.live] at hids
  exact List.mem_map.mp hids

lemma Trio.Absent.notMem {ids : Ids} (ha : s.Absent ids) (h : Related s shared clock) : ids ∉ s.live ∧
    ∀ p, p.Names (ids p) ∧ ids p ∉ keys (entries p shared) := by
  obtain ⟨i, hi, hids, hno⟩ := ha
  have hkeys (p : Place) : ids p ∉ keys (entries p shared) := by
    rw [hids p, ← (h.serves p).holds.keys_contents]
    exact hno p
  refine ⟨fun hlive => ?_, fun p => ⟨?_, hkeys p⟩⟩
  · obtain ⟨t, ht, rfl⟩ := h.exists_shared hlive
    have hk := hkeys .memory
    rw [keys_entries] at hk
    exact hk (List.mem_map_of_mem ht)
  · rw [hids p]
    exact names_of_inRange hi p

lemma map_ids_complete (ids : Ids) (shared : List Shared) :
    (complete ids shared).map Shared.ids = shared.map Shared.ids := by
  rw [complete, List.map_map]
  refine List.map_congr_left fun t _ => ?_
  rw [Function.comp_apply]
  split <;> rfl

lemma markDone_alike (h : Related s shared clock) {ids : Ids} (hn : (Act.markDone ids).Named s) :
    Alike (.markDone ids) s ∧ ∃ shared' clock', Related (s.step (.markDone ids)) shared' clock' := by
  rcases hn with hp | ha
  · obtain ⟨t, ht, rfl⟩ := h.exists_shared hp.1
    have hcall (p : Place) := markDone_call (h.serves p) (hp.names p) (List.mem_map_of_mem ht)
    refine ⟨⟨.ok (.task { t with done := true }), fun p => (hcall p).1, hp.1⟩, complete t.ids shared,
      clock, fun p => ?_, fun p => (hcall p).2.1.trans (h.clocks p), h.timely, ?_⟩
    · rw [← assign_entries (h.serves p).holds.nodup ht]
      exact (hcall p).2.2
    · rw [map_ids_complete, ← h.live]
      rfl
  · obtain ⟨_, habsent⟩ := ha.notMem h
    obtain ⟨i, _, hids, _⟩ := ha
    have hcall (p : Place) := markDone_call_absent (h.serves p) (habsent p).1 (habsent p).2
    refine ⟨⟨.error (.taskNotFound i), fun p => ?_, i, rfl⟩, shared, clock, fun p => (hcall p).2.2,
      fun p => (hcall p).2.1.trans (h.clocks p), h.timely, h.live⟩
    have hp := (hcall p).1
    rw [hids p] at hp
    rw [Act.call, hids p, hp]
    rfl

lemma remove_alike (h : Related s shared clock) {ids : Ids} (hn : (Act.remove ids).Named s) :
    Alike (.remove ids) s ∧ ∃ shared' clock', Related (s.step (.remove ids)) shared' clock' := by
  have hnames (p : Place) : p.Names (ids p) := by
    rcases hn with hp | ha
    · exact hp.names p
    · exact ((ha.notMem h).2 p).1
  have hcall (p : Place) := remove_call (h.serves p) (hnames p)
  have herase (p : Place) : erase (ids p) (entries p shared) = entries p (shared.filter fun u => u.ids ≠ ids) := by
    rcases hn with hp | ha
    · obtain ⟨t, ht, rfl⟩ := h.exists_shared hp.1
      exact erase_entries (h.serves p).holds.nodup ht
    · obtain ⟨hlive, habsent⟩ := ha.notMem h
      have hall : shared.filter (fun u => u.ids ≠ ids) = shared := by
        rw [List.filter_eq_self]
        intro u hu
        rw [decide_eq_true_eq]
        rintro rfl
        rw [h.live] at hlive
        exact hlive (List.mem_map_of_mem hu)
      rw [erase_of_notMem (habsent p).2, hall]
  refine ⟨⟨.ok .nothing, fun p => (hcall p).1, trivial⟩, shared.filter fun u => u.ids ≠ ids, clock, fun p => ?_,
    fun p => (hcall p).2.1.trans (h.clocks p), h.timely, ?_⟩
  · rw [← herase p]
    exact (hcall p).2.2
  · rw [Trio.step, h.live, List.filter_map]
    rfl

lemma Related.ids_le_iff (h : Related s shared clock) {t u : Shared} (ht : t ∈ shared) (hu : u ∈ shared) (p q : Place) :
    t.ids p ≤ u.ids p ↔ t.ids q ≤ u.ids q := by
  have hrise (p : Place) : shared.Pairwise fun t u => t.ids p < u.ids p := by
    have hp := (h.serves p).rising
    rwa [keys_entries, List.pairwise_map] at hp
  have hsymm : Std.Symm fun t u : Shared =>
      (t.ids p < u.ids p ∧ t.ids q < u.ids q) ∨ (u.ids p < t.ids p ∧ u.ids q < t.ids q) :=
    ⟨fun _ _ => Or.symm⟩
  have hboth := (((hrise p).and (hrise q)).imp Or.inl).forall (R := fun t u : Shared =>
    (t.ids p < u.ids p ∧ t.ids q < u.ids q) ∨ (u.ids p < t.ids p ∧ u.ids q < t.ids q)) ht hu
  by_cases htu : t = u
  · rw [htu]
    simp
  · rcases hboth htu with hlt | hlt
    · exact iff_of_true hlt.1.le hlt.2.le
    · exact iff_of_false hlt.1.not_ge hlt.2.not_ge

lemma Related.isAware (h : Related s shared clock) {t : Shared} (ht : t ∈ shared) : t.created.isAware = true := by
  have hrec := (h.serves .memory).recorded (t.ids .memory, t.task .memory) (List.mem_map_of_mem ht)
  exact (timed_time.mp hrec.2).isAware

lemma rank_task_le (p : Place) (t u : Shared) : rank (t.task p) ≤ rank (u.task p) ↔
    t.created.instant < u.created.instant ∨ t.created.instant = u.created.instant ∧ t.ids p ≤ u.ids p := by
  rw [rank, rank, Prod.Lex.toLex_le_toLex]
  exact or_congr WithBot.coe_lt_coe (and_congr WithBot.coe_inj WithBot.coe_le_coe)

lemma Related.notAfter_eq (h : Related s shared clock) {t u : Shared} (ht : t ∈ shared) (hu : u ∈ shared) (p q : Place) :
    Task.notAfter (t.task p) (u.task p) = Task.notAfter (t.task q) (u.task q) := by
  have hcomp {t : Shared} (ht : t ∈ shared) (p : Place) : Comparable (t.task p) :=
    ⟨timed_time.mpr (h.isAware ht), t.ids p, rfl⟩
  rw [Proofs.Order.notAfter_eq (hcomp ht p) (hcomp hu p), Proofs.Order.notAfter_eq (hcomp ht q) (hcomp hu q)]
  apply decide_eq_decide.mpr
  rw [rank_task_le, rank_task_le, h.ids_le_iff ht hu p q]

lemma list_alike (h : Related s shared clock) : Alike .list s ∧
    ∃ shared' clock', Related (s.step .list) shared' clock' := by
  have hcall (p : Place) := list_call (h.serves p)
  have hsort (p : Place) : (values (entries p shared)).mergeSort Task.notAfter =
      (shared.mergeSort fun t u => Task.notAfter (t.task .memory) (u.task .memory)).map (Shared.task p) := by
    rw [List.map_mergeSort (s := Task.notAfter)]
    · rw [values, entries, List.map_map]
      rfl
    · intro t ht u hu
      exact h.notAfter_eq ht hu .memory p
  refine ⟨⟨.ok (.tasks (shared.mergeSort fun t u => Task.notAfter (t.task .memory) (u.task .memory))), fun p => ?_, ?_⟩,
    shared, clock, fun p => (hcall p).2.2, fun p => (hcall p).2.1.trans (h.clocks p), h.timely, h.live⟩
  · rw [Act.call, (hcall p).1, hsort p]
    rfl
  · rw [Proper, Trio.step, h.live]
    exact (List.mergeSort_perm shared _).map Shared.ids

lemma step_alike (h : Related s shared clock) {act : Act} (hn : act.Named s) :
    Alike act s ∧ ∃ shared' clock', Related (s.step act) shared' clock' := by
  cases act with
  | create description => exact create_alike h description
  | markDone ids => exact markDone_alike h hn
  | remove ids => exact remove_alike h hn
  | list => exact list_alike h

lemma allAlike_of_related (h : Related s shared clock) {acts : List Act} (ha : Admitted acts s) : AllAlike acts s := by
  induction acts generalizing s shared clock with
  | nil => trivial
  | cons act acts ih =>
    obtain ⟨halike, _, _, hnext⟩ := step_alike h ha.1
    exact ⟨halike, ih hnext ha.2⟩

end Steps

def emptyBackend (nextId : ℤ) : Place → Backend
  | .memory => .memory {}
  | .table => .sql {}
  | .remote => .datastore { nextId }

def emptyTrio (nextId : ℤ) (clock : Clock) : Trio := ⟨fun p => ⟨⟨emptyBackend nextId p, []⟩, clock⟩, []⟩

lemma related_empty (nextId : ℤ) {clock : Clock} (h : Timely clock) : Related (emptyTrio nextId clock) [] clock := by
  refine ⟨fun p => ?_, fun _ => rfl, h, rfl⟩
  have hfresh : Fresh (emptyBackend nextId p) := by
    cases p with
    | memory => exact .memory
    | table => exact .sql
    | remote => exact .datastore nextId
  refine ⟨hfresh.holds, hfresh.calm, fun id hid => ?_, by simp [entries], by simp [entries], by simp [entries]⟩
  cases p with
  | memory => trivial
  | table => exact hid
  | remote => trivial

/--
Whatever is done to tasks that are live or missing everywhere, the three services answer alike. Descriptions are texts
without halves of surrogate pairs, and the clock gives times with a fixed offset.
-/
theorem services_agree (nextId : ℤ) {next : Time.Timestamp} {later : List Time.Timestamp}
    (hclock : ∀ t ∈ next :: later, Dated t) {acts : List Act}
    (hacts : Admitted acts (emptyTrio nextId (.scripted next later))) :
    AllAlike acts (emptyTrio nextId (.scripted next later)) := by
  have htimely : Timely (.scripted next later) := hclock
  exact allAlike_of_related (related_empty nextId htimely) hacts

theorem services_agree_sample : AllAlike [.create "water", .create "feed", .markDone (idsOf 1 1 7),
    .remove (idsOf 2 2 8), .markDone fun _ => 2, .list] (emptyTrio 7 (.scripted .epoch [])) := by
  refine services_agree 7 ?_ ⟨trivial, trivial, Or.inl ?_, Or.inl ?_, Or.inr ⟨2, ?_, fun _ => rfl, ?_⟩,
    trivial, trivial⟩
  · rintro t ht
    rw [List.mem_singleton.mp ht]
    exact ⟨rfl, by decide⟩
  · exact ⟨by decide +kernel, by decide⟩
  · exact ⟨by decide +kernel, by decide⟩
  · decide
  · decide +kernel

end TaskBoard.Proofs.Services
