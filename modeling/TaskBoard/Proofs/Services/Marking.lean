import TaskBoard.Proofs.Services.Runs
import TaskBoard.Proofs.Stores.Marking

namespace TaskBoard.Proofs.Services

open TaskBoard.Entries Proofs.Entries Stores Stores.Sorting Stores.Marking

section Calls

variable {s : Service} {id : ℤ} {t : Task}

lemma markDone_stored (h : Markable s.store.backend) (ht : StoredAs s.store.backend id t) : ∃ s',
    Service.markDone id s = .ok t.complete s' ∧ Markable s'.store.backend ∧ Kin s.store.backend s'.store.backend ∧
      Marked [id] s.store.backend s'.store.backend := by
  obtain ⟨b', hm, hspec⟩ := modify_stored h ht
  obtain ⟨journal, hd⟩ := markDone_of_ok hm
  exact ⟨_, hd, hspec⟩

lemma markDone_missing (h : Markable s.store.backend) (ha : Addressable s.store.backend id)
    (hid : id ∉ keys (contents s.store.backend)) : ∃ s', Service.markDone id s = .error (.taskNotFound id) s' ∧
      Untouched s.store.backend s'.store.backend := by
  obtain ⟨st, hm, hu⟩ := modify_missing h ha hid
  exact ⟨_, markDone_of_error hm, hu⟩

lemma markDone_tooLarge (h : Markable s.store.backend) (ha : ¬ Addressable s.store.backend id) :
    Service.markDone id s = .error Database.tooLarge s := markDone_of_error (modify_tooLarge h.listable ha)

end Calls

section Marks

variable {s : Service} {b : Backend} {ids : List ℤ}

structure Settled (ids : List ℤ) (b b' : Backend) : Prop where
  markable : Markable b'
  kin : Kin b b'
  marked : Marked ids b b'

lemma settled_untouched (h : Markable s.store.backend) {id : ℤ} {b' : Backend} (hu : Untouched s.store.backend b')
    (hid : ∀ t, ¬ StoredAs s.store.backend id t) : Settled [id] s.store.backend b' := by
  have hmarked := marked_of_absent hid (untouched_storedAs hu)
  exact ⟨h.marked (untouched_listable hu h.listable) hu.kin hmarked, hu.kin, hmarked⟩

lemma perform_settled (h : Markable s.store.backend) (id : ℤ) :
    Settled [id] s.store.backend ((Call.markDone id).perform s).store.backend := by
  rw [Call.perform]
  by_cases ht : ∃ t, StoredAs s.store.backend id t
  · obtain ⟨t, ht⟩ := ht
    obtain ⟨s', hd, hmarkable, hkin, hmarked⟩ := markDone_stored h ht
    rw [hd]
    exact ⟨hmarkable, hkin, hmarked⟩
  · have hnone := not_exists.mp ht
    by_cases ha : Addressable s.store.backend id
    · obtain ⟨s', hd, hu⟩ := markDone_missing h ha (fun hid => ht ((mem_contents_iff h.listable).mp hid))
      rw [hd]
      exact settled_untouched h hu hnone
    · rw [markDone_tooLarge h ha]
      exact settled_untouched h (Untouched.refl _) hnone

lemma run_settled (h : Markable s.store.backend) (ids : List ℤ) :
    Settled ids s.store.backend (run (ids.map .markDone) s).store.backend := by
  induction ids generalizing s with
  | nil => exact ⟨h, (Untouched.refl _).kin, Marked.refl _⟩
  | cons id ids ih =>
    have hfirst := perform_settled h id
    have hrest := ih hfirst.markable
    exact ⟨hrest.markable, hfirst.kin.trans hrest.kin, hfirst.marked.trans hrest.marked⟩

lemma Settled.listTasks_eq {stock : List (ℤ × Task)} (h : Settled ids b s.store.backend) (hb : Stock b stock) : ∃ s',
    Service.listTasks s = .ok (((values stock).mergeSort Task.notAfter).map (completeAmong ids)) s' := by
  obtain ⟨stock', hstock'⟩ := h.markable.listable.stock
  obtain ⟨st, hlist⟩ := hstock'.list_ok s.store.journal
  rw [h.marked.sorted_eq hb hstock'] at hlist
  refine ⟨{ s with store := st }, ?_⟩
  simp only [Service.listTasks, Service.onStore, hlist]

lemma Settled.outcome_markDone (h : Settled ids b s.store.backend) (hb : Markable b) (id : ℤ) :
    (outcome (Service.markDone id s) = .error (.taskNotFound id) ↔ Addressable b id ∧ id ∉ keys (contents b)) ∧
      (∀ t, StoredAs b id t → outcome (Service.markDone id s) = .ok t.complete) ∧
        (¬ Addressable b id → outcome (Service.markDone id s) = .error Database.tooLarge) := by
  have hmem := h.marked.mem_contents_iff hb.listable h.markable.listable id
  have haddr := kin_addressable_iff h.kin id
  have hstored (t : Task) (ht : StoredAs b id t) : outcome (Service.markDone id s) = .ok t.complete := by
    obtain ⟨s', hd, -⟩ := markDone_stored h.markable ((h.marked id _).mpr ⟨t, ht, rfl⟩)
    rw [hd, complete_completeAmong]
    rfl
  have hlarge (ha : ¬ Addressable b id) : outcome (Service.markDone id s) = .error Database.tooLarge := by
    rw [markDone_tooLarge h.markable (by rwa [haddr])]
    rfl
  refine ⟨⟨fun hend => ⟨?_, fun hid => ?_⟩, ?_⟩, hstored, hlarge⟩
  · by_contra ha
    cases (hlarge ha).symm.trans hend
  · obtain ⟨t, ht⟩ := (mem_contents_iff hb.listable).mp hid
    cases (hstored t ht).symm.trans hend
  · rintro ⟨ha, hid⟩
    obtain ⟨s', hd, -⟩ := markDone_missing h.markable (haddr.mpr ha) (by rwa [hmem])
    rw [hd]
    rfl

def ending (earlier : List ℤ) (id : ℤ) (s : Service) : Except Failure Task :=
  outcome (Service.markDone id (run (earlier.map .markDone) s))

/--
After any calls that mark tasks, the listing is the first one with a mark at each task whose id was asked for, so it
depends on the set of ids only. Each call ends as it would have as the first one: with the task marked, without a task
of the id, or with an id that the store cannot be searched for.
-/
theorem marking_decided {s : Service} (h : Markable s.store.backend) : ∃ listed s₁,
    Service.listTasks s = .ok listed s₁ ∧
      (∀ ids, ∃ s₂, Service.listTasks (run (ids.map .markDone) s) = .ok (listed.map (completeAmong ids)) s₂) ∧
      (∀ ids ids' : List ℤ, (∀ id, id ∈ ids' ↔ id ∈ ids) →
        outcome (Service.listTasks (run (ids'.map .markDone) s)) =
          outcome (Service.listTasks (run (ids.map .markDone) s))) ∧
      (∀ id, id ∈ keys (contents s.store.backend) ↔ ∃ t ∈ listed, t.id = some id) ∧
      ∀ earlier id,
        (ending earlier id s = .error (.taskNotFound id) ↔
          Addressable s.store.backend id ∧ id ∉ keys (contents s.store.backend)) ∧
        (∀ t ∈ listed, t.id = some id → ending earlier id s = .ok t.complete) ∧
        (¬ Addressable s.store.backend id → ending earlier id s = .error Database.tooLarge) := by
  obtain ⟨stock, hstock⟩ := h.listable.stock
  have hlist (ids : List ℤ) := (run_settled h ids).listTasks_eq hstock
  have hunmarked : completeAmong [] = id := funext completeAmong_nil
  obtain ⟨s₁, hfirst⟩ := hlist []
  rw [hunmarked, List.map_id] at hfirst
  have hstored (id : ℤ) (t : Task) :
      StoredAs s.store.backend id t ↔ t ∈ (values stock).mergeSort Task.notAfter ∧ t.id = some id := by
    rw [hstock.mem_sorted]
    constructor
    · intro ht
      exact ⟨⟨id, ht⟩, storedAs_id ht⟩
    · rintro ⟨⟨j, ht⟩, hid⟩
      obtain rfl : j = id := Option.some.inj ((storedAs_id ht).symm.trans hid)
      exact ht
  refine ⟨_, s₁, hfirst, hlist, fun ids ids' hsame => ?_, fun id => ?_, fun earlier id => ?_⟩
  · obtain ⟨_, h₁⟩ := hlist ids'
    obtain ⟨_, h₂⟩ := hlist ids
    rw [h₁, h₂, completeAmong_congr hsame]
    rfl
  · rw [mem_contents_iff h.listable]
    exact exists_congr fun t => hstored id t
  · obtain ⟨hmissing, hends, hlarge⟩ := (run_settled h earlier).outcome_markDone h id
    exact ⟨hmissing, fun t ht hid => hends t ((hstored id t).mpr ⟨ht, hid⟩), hlarge⟩

def bare : Datastore.Entity := ⟨[("created", .time .epoch)], []⟩

def foreign : Service :=
  ⟨⟨.datastore { entities := [(Datastore.taskKey 7, bare)], nextId := 8 }, []⟩, .scripted .epoch []⟩

theorem marking_decided_foreign : Markable foreign.store.backend ∧
    ending [7, 3] 7 foreign = .ok ⟨.text "", .time .epoch, true, some 7⟩ ∧
      ending [7] 3 foreign = .error (.taskNotFound 3) ∧ ∃ listed s₁ s₂, Service.listTasks foreign = .ok listed s₁ ∧
        Service.listTasks (run [.markDone 7, .markDone 3, .markDone 7] foreign) =
          .ok (listed.map (completeAmong [7, 3, 7])) s₂ := by
  have hlistable : Listable foreign.store.backend := by
    refine .datastore rfl (List.nodup_singleton _) fun e he _ => ?_
    obtain rfl : e = (Datastore.taskKey 7, bare) := List.mem_singleton.mp he
    exact ⟨7, .epoch, rfl, rfl, rfl⟩
  have h : Markable foreign.store.backend := ⟨hlistable, fun _ => rfl, fun _ _ _ => trivial⟩
  obtain ⟨listed, s₁, hfirst, hlist, -, -, hends⟩ := marking_decided h
  obtain ⟨s₂, hlast⟩ := hlist [7, 3, 7]
  have hmissing := (hends [7] 3).1.mpr ⟨trivial, by decide⟩
  exact ⟨h, rfl, hmissing, listed, s₁, s₂, hfirst, hlast⟩

theorem not_always_missing : ¬ ∀ s : Service, Markable s.store.backend → ∀ earlier id,
    ending earlier id s = .error (.taskNotFound id) ↔ id ∉ keys (contents s.store.backend) := by
  intro h
  have hempty : Markable (.sql {}) := by
    refine ⟨.sql rfl List.nodup_nil (by simp), trivial, ?_⟩
    rintro id t (_ | ⟨⟨⟩, hr, -, -⟩)
    cases hr
  have hmissing := (h ⟨⟨.sql {}, []⟩, .scripted .epoch []⟩ hempty [] (2 ^ 63)).mpr (by simp [contents])
  have hlarge : ending [] (2 ^ 63) ⟨⟨.sql {}, []⟩, .scripted .epoch []⟩ = .error Database.tooLarge := rfl
  cases hlarge.symm.trans hmissing

end Marks

end TaskBoard.Proofs.Services
