import TaskBoard.Proofs.Services.Runs

/-! When the table gives an id out a second time: once the row with the last id is gone. -/

namespace TaskBoard.Proofs.Services

open TaskBoard.Entries Proofs.Entries Stores

def firstIds (k : ℕ) : List ℤ := (List.range k).map fun (n : ℕ) => (n : ℤ) + 1

lemma mem_firstIds {k : ℕ} {i : ℤ} : i ∈ firstIds k ↔ 1 ≤ i ∧ i ≤ k := by
  simp only [firstIds, List.mem_map, List.mem_range]
  constructor
  · rintro ⟨n, hn, rfl⟩
    omega
  · rintro ⟨hlo, hhi⟩
    exact ⟨(i - 1).toNat, by omega, by omega⟩

lemma firstIds_succ (k : ℕ) : firstIds (k + 1) = firstIds k ++ [(k : ℤ) + 1] := by
  simp [firstIds, List.range_succ]

lemma getLast?_firstIds (k : ℕ) : (firstIds (k + 1)).getLast? = some ((k : ℤ) + 1) := by
  rw [firstIds_succ, List.getLast?_append]
  rfl

lemma newId_notMem_iff {b : Backend} {d : Database} (hd : b = .sql d) {tasks : List (ℤ × Task)} (h : Holds b tasks)
    {k : ℕ} (hk : keys tasks ⊆ firstIds k) :
    (newId b ∉ firstIds k ↔ ∀ i ∈ (firstIds k).getLast?, i ∈ keys tasks) ∧
      (newId b ∉ firstIds k → newId b = (k : ℤ) + 1) := by
  subst hd
  have hrows := h.stored.1
  have hlt (i : ℤ) (hi : i ∈ keys tasks) : i < newId (.sql d) := by
    rw [newId, hrows, Option.getD_some]
    exact InTable.lt_newId (by rwa [InTable.keys_rowsOf])
  have hcases : tasks = [] ∧ newId (.sql d) = 1 ∨ ∃ i ∈ keys tasks, newId (.sql d) = i + 1 := by
    rw [newId, hrows, Option.getD_some, ← InTable.keys_rowsOf tasks]
    exact (InTable.newId_cases (InTable.rowsOf tasks)).imp_left (And.imp_left List.map_eq_nil_iff.mp)
  cases k with
  | zero =>
    rcases hcases with ⟨_, hone⟩ | ⟨i, hi, _⟩
    · simp [firstIds, hone]
    · cases hk hi
  | succ k =>
    rw [getLast?_firstIds]
    simp only [Option.mem_def, Option.some.injEq, forall_eq', mem_firstIds]
    have hbound (i : ℤ) (hi : i ∈ keys tasks) : 1 ≤ i ∧ i ≤ (k + 1 : ℕ) := mem_firstIds.mp (hk hi)
    refine ⟨⟨fun hnew => ?_, fun hlast => ?_⟩, fun hnew => ?_⟩
    · rcases hcases with ⟨_, hone⟩ | ⟨i, hi, hnext⟩
      · omega
      · have := hbound i hi
        rwa [show (k : ℤ) + 1 = i by omega]
    · have := hlt _ hlast
      omega
    · rcases hcases with ⟨_, hone⟩ | ⟨i, hi, hnext⟩
      · omega
      · have := hbound i hi
        omega

def KeepsLast (calls : List Call) (s : Service) : Prop :=
  ∀ earlier call, earlier ++ [call] <+: calls → call.issues (run earlier s) ≠ [] →
    ∀ id ∈ (issued earlier s).getLast?, id ∈ keys (contents (run earlier s).store.backend)

lemma keepsLast_concat {calls : List Call} {call : Call} {s : Service} : KeepsLast (calls ++ [call]) s ↔
    KeepsLast calls s ∧ (call.issues (run calls s) ≠ [] →
      ∀ id ∈ (issued calls s).getLast?, id ∈ keys (contents (run calls s).store.backend)) := by
  constructor
  · intro h
    exact ⟨fun earlier c hc => h earlier c (hc.trans (List.prefix_append calls [call])), h calls call List.prefix_rfl⟩
  · rintro ⟨h, hlast⟩ earlier c hc
    rcases List.prefix_concat_iff.mp hc with heq | hc
    · obtain ⟨rfl, rfl⟩ := List.append_singleton_inj.mp heq
      exact hlast
    · exact h earlier c hc

section Table

variable (journal : List Log.Record) (clock : Clock) (calls : List Call)

def emptyTable : Service := ⟨⟨.sql {}, journal⟩, clock⟩

lemma run_table : ∃ d tasks, (run calls (emptyTable journal clock)).store.backend = .sql d ∧
    Holds (.sql d) tasks ∧ keys tasks ⊆ issued calls (emptyTable journal clock) := by
  obtain ⟨tasks, h, hkin, hsub⟩ := run_spec (s := emptyTable journal clock) Fresh.sql.holds calls
  cases hb : (run calls (emptyTable journal clock)).store.backend with
  | memory m => rw [hb] at hkin; exact hkin.elim
  | datastore c => rw [hb] at hkin; exact hkin.elim
  | sql d =>
    rw [hb] at h
    exact ⟨d, tasks, rfl, h, hsub⟩

lemma issued_spec : ((issued calls (emptyTable journal clock)).Nodup →
      issued calls (emptyTable journal clock) = firstIds (issued calls (emptyTable journal clock)).length) ∧
    ((issued calls (emptyTable journal clock)).Nodup ↔ KeepsLast calls (emptyTable journal clock)) := by
  induction calls using List.reverseRecOn with
  | nil =>
    refine ⟨fun _ => rfl, fun _ earlier call hc => ?_, fun _ => List.nodup_nil⟩
    simp at hc
  | append_singleton calls call ih =>
    obtain ⟨hfirst, hiff⟩ := ih
    obtain ⟨d, tasks, hd, h, hsub⟩ := run_table journal clock calls
    rw [← hd] at h
    rw [keepsLast_concat, issued_concat, ← hiff]
    rcases (perform_spec h call).1 with hnone | hsome
    · rw [hnone, List.append_nil]
      exact ⟨hfirst, by simp⟩
    · rw [hsome, List.nodup_append_comm, List.singleton_append, List.nodup_cons, h.keys_contents]
      refine ⟨fun hnew => ?_, ?_⟩
      · have hids := hfirst hnew.2
        rw [hids] at hsub hnew
        rw [List.length_append, List.length_singleton, firstIds_succ, ← hids,
          ((newId_notMem_iff hd h hsub).2 hnew.1)]
      · rw [and_comm]
        refine and_congr_right fun hnodup => ?_
        have hids := hfirst hnodup
        rw [hids] at hsub ⊢
        rw [(newId_notMem_iff hd h hsub).1]
        simp

/-- The ids that the table gives out are distinct just if a task that got the last id is not removed before the next. -/
theorem issued_nodup_iff :
    (issued calls (emptyTable journal clock)).Nodup ↔ KeepsLast calls (emptyTable journal clock) :=
  (issued_spec journal clock calls).2

end Table

theorem issued_not_nodup : ¬ (issued [.create "water", .remove 1, .create "feed"]
    (emptyTable [] (.scripted .epoch []))).Nodup := by
  have h : issued [.create "water", .remove 1, .create "feed"] (emptyTable [] (.scripted .epoch [])) = [1, 1] := rfl
  rw [h]
  decide

end TaskBoard.Proofs.Services
