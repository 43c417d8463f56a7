import TaskBoard.Proofs.Stores.Runs

namespace TaskBoard.Proofs.Stores

open TaskBoard.Entries Proofs.Entries

abbrev Ticket := ℤ × Store

def Operation.tickets : Operation → Store → List Ticket
  | add t, s =>
    match t.id, Store.add t s with
    | none, .ok r _ => r.id.toList.map (·, s)
    | _, _ => []
  | get _, _ | modify _ _, _ | remove _, _ | list, _ | setFaults _, _ => []

def tickets : List Operation → Store → List Ticket
  | [], _ => []
  | op :: operations, s => op.tickets s ++ tickets operations (op.perform s)

def seeded (seed : List Task) (journal : List Log.Record) : Store := ⟨.memory (Memory.ofTasks seed), journal⟩

def adds (seed : List Task) : List Operation := seed.map .add

lemma run_append (xs ys : List Operation) (s : Store) : run (xs ++ ys) s = run ys (run xs s) := List.foldl_append ..

lemma tickets_append (xs ys : List Operation) (s : Store) :
    tickets (xs ++ ys) s = tickets xs s ++ tickets ys (run xs s) := by
  induction xs generalizing s with
  | nil => rfl
  | cons op xs ih =>
    rw [List.cons_append, tickets, tickets, ih, List.append_assoc]
    rfl

section Memory

lemma run_adds (seed : List Task) (m : Memory) (journal : List Log.Record) :
    run (adds seed) ⟨.memory m, journal⟩ = ⟨.memory (seed.foldl (fun m t => (m.add t).2) m), journal⟩ := by
  induction seed generalizing m with
  | nil => rfl
  | cons t seed ih => exact ih (m.add t).2

lemma tickets_new {t : Task} (h : t.id = none) (m : Memory) (journal : List Log.Record) :
    (Operation.add t).tickets ⟨.memory m, journal⟩ = [((m.freeId : ℤ), ⟨.memory m, journal⟩)] := by
  simp only [Operation.tickets, Store.add, h, InMemory.add_new h, Option.toList_some, List.map_cons, List.map_nil]

lemma tickets_own {t : Task} {id : ℤ} (h : t.id = some id) (s : Store) : (Operation.add t).tickets s = [] := by
  rw [Operation.tickets, h]

lemma modify_memory (id : ℤ) (change : Change) (m : Memory) (journal : List Log.Record) : ∃ tasks,
    (Operation.modify id change).perform ⟨.memory m, journal⟩ = ⟨.memory { m with tasks }, journal⟩ := by
  simp only [Operation.perform, Store.modify]
  cases hl : m.tasks.lookup id with
  | none =>
    rw [InMemory.modify_of_absent (lookup_eq_none_iff.mp hl)]
    exact ⟨m.tasks, rfl⟩
  | some t =>
    rw [InMemory.modify_of_present hl]
    cases change t with
    | error f => exact ⟨m.tasks, rfl⟩
    | ok changed => exact ⟨_, rfl⟩

lemma perform_memory (op : Operation) (m : Memory) (journal : List Log.Record) : ∃ m' : Memory,
    op.perform ⟨.memory m, journal⟩ = ⟨.memory m', journal⟩ ∧ m.next ≤ m'.next ∧
      ∀ ticket ∈ op.tickets ⟨.memory m, journal⟩, (m.next : ℤ) ≤ ticket.1 ∧ ticket.1 < m'.next ∧
        ticket.1 ∉ keys m.tasks ∧ ticket.2 = ⟨.memory m, journal⟩ := by
  cases op with
  | add t =>
    refine ⟨(m.add t).2, rfl, ?_⟩
    cases ht : t.id with
    | none =>
      obtain ⟨hfree, hle, -⟩ := InMemory.freeId_spec m
      rw [InMemory.add_new ht, tickets_new ht]
      refine ⟨hle.trans m.freeId.le_succ, fun ticket h => ?_⟩
      rw [List.mem_singleton.mp h]
      exact ⟨Int.ofNat_le.mpr hle, Int.lt_succ _, hfree, rfl⟩
    | some id =>
      rw [InMemory.add_own ht, tickets_own ht]
      exact ⟨le_rfl, by simp⟩
  | modify id change =>
    obtain ⟨tasks, hm⟩ := modify_memory id change m journal
    exact ⟨{ m with tasks }, hm, le_rfl, by simp [Operation.tickets]⟩
  | remove id => exact ⟨m.remove id, rfl, le_rfl, by simp [Operation.tickets]⟩
  | get id => exact ⟨m, rfl, le_rfl, by simp [Operation.tickets]⟩
  | list =>
    refine ⟨m, ?_, le_rfl, by simp [Operation.tickets]⟩
    exact finalStore_lift m.list _
  | setFaults faults => exact ⟨m, rfl, le_rfl, by simp [Operation.tickets]⟩

lemma pairwise_tickets (op : Operation) (s : Store) : (op.tickets s).Pairwise fun a b => a.1 < b.1 := by
  cases op with
  | add t =>
    rw [Operation.tickets]
    split
    · rename_i r _ _ _
      cases r.id <;> simp
    · exact List.Pairwise.nil
  | get _ | modify _ _ | remove _ | list | setFaults _ => exact List.Pairwise.nil

lemma run_memory (operations : List Operation) (m : Memory) (journal : List Log.Record) :
    ∃ m', run operations ⟨.memory m, journal⟩ = ⟨.memory m', journal⟩ := by
  induction operations generalizing m with
  | nil => exact ⟨m, rfl⟩
  | cons op operations ih =>
    obtain ⟨m', hm', -⟩ := perform_memory op m journal
    obtain ⟨m'', h⟩ := ih m'
    exact ⟨m'', by rw [← h, ← hm']; rfl⟩

lemma keys_memory (m : Memory) : keys (contents (.memory m)) = keys m.tasks := by
  rw [contents, keys, List.map_map]
  rfl

lemma tickets_spec (operations : List Operation) (m : Memory) (journal : List Log.Record) :
    (tickets operations ⟨.memory m, journal⟩).Pairwise (fun a b => a.1 < b.1) ∧
      ∀ ticket ∈ tickets operations ⟨.memory m, journal⟩,
        (m.next : ℤ) ≤ ticket.1 ∧ ticket.1 ∉ keys (contents ticket.2.backend) := by
  induction operations generalizing m with
  | nil => simp [tickets]
  | cons op operations ih =>
    -- The counter after the first operation is above what that gave out and not above what is still to come.
    obtain ⟨m', hm', hle, hop⟩ := perform_memory op m journal
    obtain ⟨hrise, hlater⟩ := ih m'
    rw [tickets, hm', List.pairwise_append, List.forall_mem_append]
    refine ⟨⟨pairwise_tickets op _, hrise, fun a ha b hb => ?_⟩, fun ticket ht => ?_, fun ticket ht => ?_⟩
    · exact (hop a ha).2.1.trans_le (hlater b hb).1
    · obtain ⟨hnext, -, hfree, hstore⟩ := hop ticket ht
      rw [hstore, keys_memory]
      exact ⟨hnext, hfree⟩
    · obtain ⟨hnext, hfree⟩ := hlater ticket ht
      exact ⟨(Int.ofNat_le.mpr hle).trans hnext, hfree⟩

end Memory

lemma seeded_eq (seed : List Task) (journal : List Log.Record) :
    seeded seed journal = run (adds seed) ⟨.memory {}, journal⟩ := (run_adds seed {} journal).symm

lemma run_seeded (seed : List Task) (operations : List Operation) (journal : List Log.Record) :
    ∃ m, run operations (seeded seed journal) = ⟨.memory m, journal⟩ ∧ Holds (.memory m) m.tasks := by
  rw [seeded_eq, ← run_append]
  obtain ⟨m, hm⟩ := run_memory (adds seed ++ operations) {} journal
  obtain ⟨tasks, h⟩ := run_holds (s := ⟨.memory {}, journal⟩) Fresh.memory.holds (adds seed ++ operations)
  rw [hm] at h ⊢
  have hstored : m.tasks = tasks := h.stored
  exact ⟨m, rfl, hstored ▸ h⟩

/--
Under each key of a store in memory is a task with that id. The ids that the counter gives out, those for the seed
included, rise from 1 on, and none is a key when it is given out.
-/
theorem tickets_rise (seed : List Task) (operations : List Operation) (journal : List Log.Record) :
    run operations (seeded seed journal) = run (adds seed ++ operations) ⟨.memory {}, journal⟩ ∧
      (∃ m, run operations (seeded seed journal) = ⟨.memory m, journal⟩ ∧ (keys m.tasks).Nodup ∧
        ∀ e ∈ m.tasks, e.2.id = some e.1) ∧
      (tickets (adds seed ++ operations) ⟨.memory {}, journal⟩).Pairwise (fun a b => a.1 < b.1) ∧
      ∀ ticket ∈ tickets (adds seed ++ operations) ⟨.memory {}, journal⟩,
        1 ≤ ticket.1 ∧ ticket.1 ∉ keys (contents ticket.2.backend) := by
  have hrun : run operations (seeded seed journal) = run (adds seed ++ operations) ⟨.memory {}, journal⟩ := by
    rw [seeded_eq, run_append]
  obtain ⟨hrise, hfree⟩ := tickets_spec (adds seed ++ operations) {} journal
  obtain ⟨m, hm, h⟩ := run_seeded seed operations journal
  exact ⟨hrun, ⟨m, hm, h.nodup, h.named⟩, hrise, hfree⟩

end TaskBoard.Proofs.Stores
