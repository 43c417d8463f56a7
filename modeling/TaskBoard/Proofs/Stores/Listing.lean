import TaskBoard.Proofs.Order
import TaskBoard.Proofs.Stamp.Order
import TaskBoard.Proofs.Stores.Runs

namespace TaskBoard.Proofs.Stores

open TaskBoard.Entries Proofs.Entries Proofs.Order

/-- Times on a UTC clock whose texts are ordered as they are. -/
def Dated (t : Time.Timestamp) : Prop := t.offset = some 0 ∧ 1000 ≤ t.date.year

lemma Dated.storable {t : Time.Timestamp} (h : Dated t) : Stamp.Storable t := by
  refine ⟨?_, t, Stamp.toUtc_spec (Stamp.toUtc_of_utc h.1), h.2⟩
  rw [Time.Timestamp.isAware, h.1]
  rfl

lemma Dated.instant_eq {t : Time.Timestamp} (h : Dated t) : t.instant = t.wall := by
  rw [Time.Timestamp.instant, h.1]
  exact Int.sub_zero _

lemma Dated.isAware {t : Time.Timestamp} (h : Dated t) : t.isAware = true := h.storable.1

lemma notAfter_row {a b : ℤ × Row} {s t : Task} {u v : Time.Timestamp} (hu : Dated u) (hv : Dated v)
    (hs : s.created = .time u) (ht : t.created = .time v) (ha : a.2.created = Stamp.stamp u)
    (hb : b.2.created = Stamp.stamp v) (hi : s.id = some a.1) (hj : t.id = some b.1) :
    Database.notAfter a b = Task.notAfter s t := by
  rw [notAfter_eq ⟨⟨u, hs, hu.isAware⟩, _, hi⟩ ⟨⟨v, ht, hv.isAware⟩, _, hj⟩, Bool.eq_iff_iff, decide_eq_true_eq, rank,
    rank, Prod.Lex.toLex_le_toLex, hs, ht, hi, hj]
  simp only [Database.notAfter, ha, hb, Bool.or_eq_true, Bool.and_eq_true, decide_eq_true_eq, beq_iff_eq,
    Stamp.stamp_lt_iff hu.2 hv.2, Stamp.stamp_eq_iff hu.2 hv.2]
  refine or_congr ?_ (and_congr ?_ WithBot.coe_le_coe.symm)
  · rw [instant?, instant?, WithBot.coe_lt_coe, hu.instant_eq, hv.instant_eq, Int.ofNat_lt]
  · rw [instant?, instant?, WithBot.coe_inj, hu.instant_eq, hv.instant_eq, Int.ofNat_inj]

lemma mapM_ok {α β : Type} {f : α → Except Failure β} {g : α → β} {xs : List α} (h : ∀ x ∈ xs, f x = .ok (g x)) :
    xs.mapM f = .ok (xs.map g) := by
  induction xs with
  | nil => rfl
  | cons x xs ih =>
    obtain ⟨hx, hrest⟩ := List.forall_mem_cons.mp h
    rw [List.mapM_cons, hx, ih hrest]
    rfl

lemma ids_values {tasks : List (ℤ × Task)} (h : ∀ e ∈ tasks, e.2.id = some e.1) :
    (values tasks).map Task.id = (keys tasks).map some := by
  rw [values, keys, List.map_map, List.map_map]
  exact List.map_congr_left h

lemma comparable_values {tasks : List (ℤ × Task)} (hn : ∀ e ∈ tasks, e.2.id = some e.1)
    (ha : ∀ e ∈ tasks, Timed (fun u => u.isAware = true) e.2.created) : ∀ t ∈ values tasks, Comparable t := by
  intro t ht
  obtain ⟨e, he, rfl⟩ := List.mem_map.mp ht
  exact ⟨ha e he, e.1, hn e he⟩

lemma pairwise_values {tasks : List (ℤ × Task)} (hn : (keys tasks).Nodup) (h : ∀ e ∈ tasks, e.2.id = some e.1)
    (ha : ∀ e ∈ tasks, Timed (fun u => u.isAware = true) e.2.created) :
    ((values tasks).mergeSort Task.notAfter).Pairwise fun t u => rank t < rank u := by
  apply pairwise_rank (comparable_values h ha)
  rw [ids_values h]
  exact hn.map (Option.some_injective ℤ)

section Backends

variable {tasks : List (ℤ × Task)}

lemma list_memory {m : Memory} (hc : ∀ t ∈ values m.tasks, Comparable t) (journal : List Log.Record) :
    ∃ s', Store.list ⟨.memory m, journal⟩ = .ok ((values m.tasks).mergeSort Task.notAfter) s' := by
  refine ⟨⟨.memory m, journal⟩, ?_⟩
  simp only [Store.list, Store.lift, Memory.list, inOrder_ok hc]

lemma list_table {d : Database} (h : Holds (.sql d) tasks) (hd : ∀ e ∈ tasks, Timed Dated e.2.created) :
    d.list = .ok ((values tasks).mergeSort Task.notAfter) := by
  have hsort : (InTable.rowsOf tasks).mergeSort Database.notAfter =
      InTable.rowsOf (tasks.mergeSort fun a b => Task.notAfter a.2 b.2) := by
    refine (List.map_mergeSort fun a ha b hb => ?_).symm
    obtain ⟨u, hu, hdu⟩ := hd a ha
    obtain ⟨v, hv, hdv⟩ := hd b hb
    exact (notAfter_row hdu hdv hu hv (by rw [Prod.map, InTable.row, hu]; rfl) (by rw [Prod.map, InTable.row, hv]; rfl)
      (h.named a ha) (h.named b hb)).symm
  have hread : ∀ e ∈ tasks.mergeSort fun a b => Task.notAfter a.2 b.2,
      Database.toTask e.1 (InTable.row e.2) = .ok e.2 := by
    intro e he
    rw [List.mem_mergeSort] at he
    exact InTable.toTask_row (h.stored.2 e he) (h.named e he) ((hd e he).imp fun _ h => h.2)
  rw [InTable.list_eq h.stored.1, hsort, InTable.rowsOf, List.mapM_map]
  exact (mapM_ok hread).trans (congrArg Except.ok (List.map_mergeSort fun _ _ _ _ => rfl))

lemma read_entities (hn : ∀ e ∈ tasks, e.2.id = some e.1) :
    ((Remote.entitiesOf tasks).filter fun e => e.1.kind == Datastore.taskKind).mapM
      (fun e => Datastore.toTask e.1 e.2) = .ok (values tasks) := by
  have hkind : (Remote.entitiesOf tasks).filter (fun e => e.1.kind == Datastore.taskKind) =
      Remote.entitiesOf tasks := by
    rw [List.filter_eq_self]
    intro e he
    obtain ⟨_, _, rfl⟩ := List.mem_map.mp he
    exact BEq.rfl
  have hread : ∀ e ∈ tasks, Datastore.toTask (Datastore.taskKey e.1) (Datastore.ofTask e.2) = .ok e.2 := by
    intro e he
    rw [Remote.toTask_ofTask, ← hn e he]
  rw [hkind, Remote.entitiesOf, List.mapM_map]
  exact mapM_ok hread

lemma list_client {c : Datastore.Client} {read : List Task} (hf : c.faults .fetch = none)
    (hr : (c.entities.filter fun e => e.1.kind == Datastore.taskKind).mapM (fun e => Datastore.toTask e.1 e.2) =
      .ok read) (hc : ∀ t ∈ read, Comparable t) (journal : List Log.Record) :
    ∃ s', Store.list ⟨.datastore c, journal⟩ = .ok (read.mergeSort Task.notAfter) s' := by
  have hfetch := Remote.fetch_of_none hf
  have hsorted : Datastore.tasksInOrder (c.entities.filter fun e => e.1.kind == Datastore.taskKind) =
      .ok (read.mergeSort Task.notAfter) := by
    rw [Datastore.tasksInOrder, hr]
    exact inOrder_ok hc
  simp [Store.list, bind, EStateM.bind, onClient_of_ok hfetch, Store.log, Store.lift, hsorted]

end Backends

lemma list_ok {s : Store} {tasks : List (ℤ × Task)} (h : Holds s.backend tasks) (hc : Calm s.backend)
    (hd : ∀ e ∈ tasks, Timed Dated e.2.created) :
    ∃ s', Store.list s = .ok ((values tasks).mergeSort Task.notAfter) s' := by
  have hcomparable := comparable_values h.named fun e he => (hd e he).imp fun _ h => h.isAware
  obtain ⟨b, journal⟩ := s
  cases b with
  | memory m =>
    obtain rfl : m.tasks = tasks := h.stored
    exact list_memory hcomparable journal
  | sql d =>
    refine ⟨⟨.sql d, journal⟩, ?_⟩
    simp only [Store.list, Store.lift, list_table h hd]
  | datastore c =>
    have hread := read_entities h.named
    rw [← h.stored.1] at hread
    exact list_client (hc .fetch) hread hcomparable journal

end TaskBoard.Proofs.Stores
