import TaskBoard.Proofs.Outcome
import TaskBoard.Task

/-! Tasks with an offset and an id can be compared, so a list of them is put in order, and in one order only. -/

namespace TaskBoard.Proofs.Order

open TaskBoard.Task Outcome

def Timed (p : Time.Timestamp → Prop) (v : Value) : Prop := ∃ t, v = .time t ∧ p t

lemma Timed.imp {p q : Time.Timestamp → Prop} {v : Value} (h : Timed p v) (hpq : ∀ t, p t → q t) : Timed q v := by
  obtain ⟨t, hv, hp⟩ := h
  exact ⟨t, hv, hpq t hp⟩

lemma timed_time {p : Time.Timestamp → Prop} {t : Time.Timestamp} : Timed p (.time t) ↔ p t :=
  ⟨fun ⟨_, ht, hp⟩ => Value.time.inj ht ▸ hp, fun h => ⟨t, rfl, h⟩⟩

def Comparable (t : Task) : Prop := Timed (fun u => u.isAware = true) t.created ∧ ∃ id, t.id = some id

def instant? : Value → WithBot ℤ
  | .time t => t.instant
  | _ => ⊥

/-- By the instant of creation, then by id. -/
def rank (t : Task) : WithBot ℤ ×ₗ WithBot ℤ := toLex (instant? t.created, t.id)

section Comparisons

variable {s t : Task} {i j : ℤ}

lemma less_ofInt (i j : ℤ) : (Number.Binary64.ofInt i).less (.ofInt j) = decide (i < j) := by
  have hsize (n : ℤ) : (if n < 0 then -((n.natAbs * 1 * 1 : ℕ) : ℤ) else (n.natAbs * 1 * 1 : ℕ)) = n := by
    split <;> omega
  have h := congrArg₂ (fun m n : ℤ => decide (m < n)) (hsize i) (hsize j)
  simpa [Number.Binary64.ofInt, Number.Binary64.less, Number.Binary64.quotient, Number.twoTo] using h

lemma same_ofInt (i j : ℤ) : (Number.Binary64.ofInt i).same (.ofInt j) = decide (i = j) := by
  rw [Number.Binary64.same, less_ofInt, less_ofInt]
  have hfinite (n : ℤ) : (Number.Binary64.ofInt n != .nan) = true := rfl
  rw [hfinite, hfinite, Bool.eq_iff_iff]
  simp only [Bool.true_and, Bool.and_eq_true, Bool.not_eq_true', decide_eq_false_iff_not, decide_eq_true_eq]
  omega

lemma precedes?_eq (hs : Comparable s) (ht : Comparable t) : precedes? s t = .ok (decide (rank s < rank t)) := by
  obtain ⟨⟨u, hu, hau⟩, i, hi⟩ := hs
  obtain ⟨⟨v, hv, hav⟩, j, hj⟩ := ht
  have hrank : rank s < rank t ↔ u.instant < v.instant ∨ u.instant = v.instant ∧ i < j := by
    rw [rank, rank, Prod.Lex.toLex_lt_toLex, hu, hv, hi, hj]
    exact or_congr WithBot.coe_lt_coe (and_congr WithBot.coe_inj WithBot.coe_lt_coe)
  have hids : Value.itemsBefore? [.ofId s.id] [.ofId t.id] = .ok (decide (i < j)) := by
    rw [hi, hj]
    by_cases hij : i = j
    · simp [Value.itemsBefore?, Value.ofId, Value.same, Value.number?, same_ofInt, hij]
    · simp [Value.itemsBefore?, Value.ofId, Value.same, Value.before?, Value.number?, same_ofInt, less_ofInt, hij]
  have hitems :
      Value.itemsBefore? [s.created, .ofId s.id] [t.created, .ofId t.id] = .ok (decide (rank s < rank t)) := by
    rw [Value.itemsBefore?, hids, hu, hv, Value.same, Time.Timestamp.sameTime, hau, hav]
    by_cases h : u.instant = v.instant
    · simp [h, hrank]
    · simp [h, hrank, Value.before?, Time.Timestamp.earlier?, hau, hav]
  rw [precedes?, hitems]
  rfl

lemma precedes?_ok (hs : Comparable s) (ht : Comparable t) : ∃ b, precedes? s t = .ok b := ⟨_, precedes?_eq hs ht⟩

lemma notAfter_eq (hs : Comparable s) (ht : Comparable t) : notAfter s t = decide (rank s ≤ rank t) := by
  rw [notAfter, precedes?_eq ht hs]
  exact decide_not.symm.trans (decide_eq_decide.mpr not_lt)

end Comparisons

lemma followRun_ok (falling : Bool) {last : Task} {taken tasks : List Task} (hl : Comparable last)
    (ht : ∀ t ∈ taken, Comparable t) (h : ∀ t ∈ tasks, Comparable t) : ∃ run rest,
      followRun falling last taken tasks = .ok (run, rest) ∧ (∀ t ∈ run, Comparable t) ∧ ∀ t ∈ rest, Comparable t := by
  induction tasks generalizing last taken with
  | nil => exact ⟨taken, [], rfl, ht, h⟩
  | cons t tasks ih =>
    have hcons := List.forall_mem_cons.mp h
    obtain ⟨b, hb⟩ := precedes?_ok hcons.1 hl
    rw [followRun, hb]
    by_cases hf : b == falling
    · obtain ⟨run, rest, hrun, hall⟩ := ih hcons.1 (List.forall_mem_cons.mpr ⟨hcons.1, ht⟩) hcons.2
      refine ⟨run, rest, ?_, hall⟩
      simpa [bind, Except.bind, hf] using hrun
    · refine ⟨taken, t :: tasks, ?_, ht, h⟩
      simp [bind, Except.bind, hf, pure, Except.pure]

lemma firstRun_ok {tasks : List Task} (h : ∀ t ∈ tasks, Comparable t) : ∃ run rest,
    firstRun tasks = .ok (run, rest) ∧ (∀ t ∈ run, Comparable t) ∧ ∀ t ∈ rest, Comparable t := by
  rcases tasks with _ | ⟨s, _ | ⟨t, tasks⟩⟩
  · exact ⟨[], [], rfl, h, h⟩
  · exact ⟨[s], [], rfl, h, by simp⟩
  · obtain ⟨hs, ht, hrest⟩ := List.forall_mem_cons.mp h |>.imp_right List.forall_mem_cons.mp
    obtain ⟨b, hb⟩ := precedes?_ok ht hs
    have htaken : ∀ u ∈ [t, s], Comparable u := by simp [hs, ht]
    obtain ⟨run, rest, hrun, hall, hleft⟩ := followRun_ok b ht htaken hrest
    rw [firstRun, hb]
    refine ⟨if b then run else run.reverse, rest, ?_, ?_, hleft⟩
    · simp [bind, Except.bind, hrun, pure, Except.pure]
    · cases b with
      | true => exact hall
      | false => simpa using hall

lemma place_ok (fuel : ℕ) {t : Task} {sorted : List Task} (ht : Comparable t) (h : ∀ s ∈ sorted, Comparable s) :
    ∃ placed, place fuel t sorted = .ok placed ∧ ∀ s ∈ placed, Comparable s := by
  induction fuel generalizing sorted with
  | zero => exact ⟨t :: sorted, rfl, List.forall_mem_cons.mpr ⟨ht, h⟩⟩
  | succ fuel ih =>
    rw [place]
    have htake : ∀ s ∈ sorted.take (sorted.length / 2), Comparable s := fun s hs => h s (List.mem_of_mem_take hs)
    have hdrop : ∀ s ∈ sorted.drop (sorted.length / 2), Comparable s := fun s hs => h s (List.mem_of_mem_drop hs)
    split
    · exact ⟨[t], rfl, by simpa using ht⟩
    · rename_i middle upper heq
      rw [heq] at hdrop
      obtain ⟨hm, hu⟩ := List.forall_mem_cons.mp hdrop
      obtain ⟨b, hb⟩ := precedes?_ok ht hm
      cases b with
      | true =>
        obtain ⟨placed, hp, hall⟩ := ih htake
        refine ⟨placed ++ middle :: upper, ?_, List.forall_mem_append.mpr ⟨hall, hdrop⟩⟩
        simp [hb, bind, Except.bind, hp, pure, Except.pure]
      | false =>
        obtain ⟨placed, hp, hall⟩ := ih hu
        refine ⟨sorted.take (sorted.length / 2) ++ middle :: placed, ?_,
          List.forall_mem_append.mpr ⟨htake, List.forall_mem_cons.mpr ⟨hm, hall⟩⟩⟩
        simp [hb, bind, Except.bind, hp, pure, Except.pure]

lemma placeAll_ok {sorted tasks : List Task} (hs : ∀ t ∈ sorted, Comparable t) (h : ∀ t ∈ tasks, Comparable t) :
    placeAll sorted tasks = .ok () := by
  induction tasks generalizing sorted with
  | nil => rfl
  | cons t tasks ih =>
    obtain ⟨ht, hrest⟩ := List.forall_mem_cons.mp h
    obtain ⟨placed, hp, hall⟩ := place_ok sorted.length ht hs
    rw [placeAll, hp]
    exact ih hall hrest

lemma inOrder_ok {tasks : List Task} (h : ∀ t ∈ tasks, Comparable t) :
    inOrder tasks = .ok (tasks.mergeSort notAfter) := by
  obtain ⟨run, rest, hfirst, hrun, hrest⟩ := firstRun_ok h
  have hcheck : checkOrder tasks = .ok () := by
    rw [checkOrder, hfirst]
    exact placeAll_ok hrun hrest
  rw [inOrder, hcheck]
  rfl

section Ranks

variable {tasks xs ys : List Task}

lemma pairwise_notAfter (h : ∀ t ∈ tasks, Comparable t) :
    (tasks.mergeSort notAfter).Pairwise fun s t => rank s ≤ rank t := by
  -- Elsewhere the order need not be one, so the list is sorted by ranks first.
  have hsort : tasks.mergeSort notAfter = tasks.mergeSort fun s t => decide (rank s ≤ rank t) := by
    have hmap := List.map_mergeSort (f := fun t : Task => t) fun s hs t ht => notAfter_eq (h s hs) (h t ht)
    rwa [List.map_id', List.map_id'] at hmap
  rw [hsort]
  have hsorted : (tasks.mergeSort fun s t => decide (rank s ≤ rank t)).Pairwise fun s t => decide (rank s ≤ rank t) :=
    List.pairwise_mergeSort
      (fun s t u hst htu => decide_eq_true ((of_decide_eq_true hst).trans (of_decide_eq_true htu)))
      (fun s t => by simpa using le_total (rank s) (rank t)) tasks
  exact hsorted.imp of_decide_eq_true

lemma pairwise_rank (h : ∀ t ∈ tasks, Comparable t) (hn : (tasks.map Task.id).Nodup) :
    (tasks.mergeSort notAfter).Pairwise fun s t => rank s < rank t := by
  have hids : (tasks.mergeSort notAfter).Pairwise fun s t => s.id ≠ t.id := by
    apply List.pairwise_map.mp
    exact ((List.mergeSort_perm tasks notAfter).map Task.id).nodup_iff.mpr hn
  refine ((pairwise_notAfter h).and hids).imp ?_
  rintro s t ⟨hle, hne⟩
  refine lt_of_le_of_ne hle fun heq => hne ?_
  exact congrArg (fun r => (ofLex r).2) heq

lemma eq_of_pairwise_rank (hx : xs.Pairwise fun s t => rank s < rank t) (hy : ys.Pairwise fun s t => rank s < rank t)
    (h : ∀ t, t ∈ xs ↔ t ∈ ys) : xs = ys := by
  have hne {zs : List Task} (hz : zs.Pairwise fun s t => rank s < rank t) : zs.Nodup := by
    refine hz.imp ?_
    rintro s _ hlt rfl
    exact lt_irrefl _ hlt
  have hperm : xs.Perm ys := (List.perm_ext_iff_of_nodup (hne hx) (hne hy)).mpr h
  refine hperm.eq_of_pairwise ?_ hx hy
  intro s t _ _ hst hts
  exact absurd hts hst.asymm

end Ranks

end TaskBoard.Proofs.Order
