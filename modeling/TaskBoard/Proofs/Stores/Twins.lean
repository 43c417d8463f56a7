import TaskBoard.Proofs.Stores.Runs

/-! Two remote stores that differ only in what their failures say: no operation tells one from the other. -/

namespace TaskBoard.Proofs.Stores

open TaskBoard.Datastore Outcome

def Foreign (f : Failure) : Prop :=
  match f.reason with
  | .domain _ | .credentials _ | .api _ | .retry _ | .auth _ _ | .database _ _ | .general _ _ | .rejected _ _ => True
  | .call _ _ | .invalidTask _ _ | .taskNotFound _ | .store _ _ | .disconnected => False

/-- Failures that an answer must not tell apart: of two calls, of foreign kinds, or of a store at one operation. -/
inductive Alike : Failure → Failure → Prop
  | same (f : Failure) : Alike f f
  | calls {f f' : Failure} (h : f.isCall = true) (h' : f'.isCall = true) : Alike f f'
  | foreign {f f' : Failure} (h : Foreign f) (h' : Foreign f') : Alike f f'
  | stores (operation : Value) {detail detail' : Value} {cause cause' : Option Failure} :
    Alike ⟨.store operation detail, cause⟩ ⟨.store operation detail', cause'⟩

section Failures

variable {f f' : Failure}

lemma Foreign.isCall_eq (h : Foreign f) : f.isCall = false := by
  obtain ⟨reason, cause⟩ := f
  cases reason <;> first | rfl | exact h.elim

lemma Alike.isCall_eq (h : Alike f f') : f.isCall = f'.isCall := by
  cases h with
  | same => rfl
  | calls h h' => rw [h, h']
  | foreign h h' => rw [h.isCall_eq, h'.isCall_eq]
  | stores => rfl

lemma Alike.mapped (h : Alike f f') (operation : String) :
    Alike (Remote.mapped operation f) (Remote.mapped operation f') := by
  rw [Remote.mapped, Remote.mapped, h.isCall_eq]
  split
  · exact .stores (.text operation)
  · exact h

end Failures

section Actions

variable {σ α β : Type} {R : σ → σ → Prop}

inductive Agree (R : σ → σ → Prop) : EStateM.Result Failure σ α → EStateM.Result Failure σ α → Prop
  | ok (a : α) {s s' : σ} (h : R s s') : Agree R (.ok a s) (.ok a s')
  | error {f f' : Failure} {s s' : σ} (hf : Alike f f') (h : R s s') : Agree R (.error f s) (.error f' s')

def Parallel (R : σ → σ → Prop) (act : EStateM Failure σ α) : Prop := ∀ s s', R s s' → Agree R (act s) (act s')

lemma Agree.bind (act act' : EStateM Failure σ α) {next : α → EStateM Failure σ β} {s s' : σ}
    (h : Agree R (act s) (act' s')) (hnext : ∀ a, Parallel R (next a)) :
    Agree R ((act >>= next) s) ((act' >>= next) s') := by
  simp only [Bind.bind, EStateM.bind]
  revert h
  cases act s <;> cases act' s' <;> rintro (⟨_, h⟩ | ⟨hf, h⟩)
  · exact hnext _ _ _ h
  · exact .error hf h

lemma Parallel.bind {act : EStateM Failure σ α} {next : α → EStateM Failure σ β} (h : Parallel R act)
    (hnext : ∀ a, Parallel R (next a)) : Parallel R (act >>= next) :=
  fun s s' hs => Agree.bind act act (h s s' hs) hnext

lemma parallel_pure (a : α) : Parallel R (pure a : EStateM Failure σ α) := fun _ _ hs => .ok a hs

lemma parallel_throw (f : Failure) : Parallel R (throw f : EStateM Failure σ α) := fun _ _ hs => .error (.same f) hs

lemma parallel_update {read : σ → α} {write : σ → σ} (hread : ∀ s s', R s s' → read s = read s')
    (hwrite : ∀ s s', R s s' → R (write s) (write s')) :
    Parallel R (fun s => .ok (read s) (write s) : EStateM Failure σ α) := by
  intro s s' hs
  change Agree R (.ok (read s) (write s)) (.ok (read s') (write s'))
  rw [hread s s' hs]
  exact .ok _ (hwrite s s' hs)

end Actions

def FaultsAlike (faults faults' : CallKind → Option Failure) : Prop :=
  ∀ kind, Option.Rel Alike (faults kind) (faults' kind)

structure Twins (c c' : Client) : Prop where
  entities : c.entities = c'.entities
  nextId : c.nextId = c'.nextId
  calls : c.calls = c'.calls
  faults : FaultsAlike c.faults c'.faults

section Clients

variable {α : Type}

lemma parallel_note (kind : CallKind) (detail : Value) (inTransaction : Bool) :
    Parallel Twins (note kind detail inTransaction) := by
  intro c c' h
  have hnoted : Twins (Remote.noted c [⟨kind, detail, inTransaction⟩])
      (Remote.noted c' [⟨kind, detail, inTransaction⟩]) :=
    ⟨h.entities, h.nextId, by simp [h.calls], h.faults⟩
  have hkind := h.faults kind
  cases hf : c.faults kind with
  | none =>
    rw [hf] at hkind
    cases hf' : c'.faults kind with
    | none =>
      rw [Remote.note_of_none hf, Remote.note_of_none hf']
      exact .ok () hnoted
    | some f' => rw [hf'] at hkind; cases hkind
  | some f =>
    rw [hf] at hkind
    cases hf' : c'.faults kind with
    | none => rw [hf'] at hkind; cases hkind
    | some f' =>
      rw [hf'] at hkind
      rw [Remote.note_of_fault hf, Remote.note_of_fault hf']
      cases hkind with
      | some hf => exact .error hf hnoted

lemma parallel_lift (outcome : Except Failure α) : Parallel Twins (lift outcome) := by
  intro c c' h
  cases outcome with
  | ok a => exact .ok a h
  | error f => exact .error (.same f) h

lemma parallel_assign (key : Key) (e : Entity) : Parallel Twins (Datastore.assign key e) :=
  parallel_update (fun _ _ _ => rfl) fun _ _ h => ⟨by rw [h.entities], h.nextId, h.calls, h.faults⟩

lemma parallel_takeId : Parallel Twins takeId :=
  parallel_update (fun _ _ h => h.nextId) fun _ _ h => ⟨h.entities, by rw [h.nextId], h.calls, h.faults⟩

lemma parallel_put (key : Key) (e : Entity) (inTransaction : Bool) : Parallel Twins (put key e inTransaction) :=
  (parallel_note _ _ _).bind fun _ => parallel_assign key e

lemma parallel_putNew (kind : String) (e : Entity) : Parallel Twins (putNew kind e) :=
  (parallel_note _ _ _).bind fun _ => parallel_takeId.bind fun id =>
    (parallel_assign ⟨kind, .number id⟩ e).bind fun _ => parallel_pure _

lemma parallel_get (key : Key) (inTransaction : Bool) : Parallel Twins (Datastore.get key inTransaction) :=
  (parallel_note _ _ _).bind fun _ => parallel_update (fun _ _ h => by rw [h.entities]) fun _ _ h => h

lemma parallel_fetch (kind order : String) : Parallel Twins (fetch kind order) :=
  (parallel_note _ _ _).bind fun _ => parallel_update (fun _ _ h => by rw [h.entities]) fun _ _ h => h

lemma parallel_reported (operation : String) {act : Datastore.Action α} (h : Parallel Twins act) :
    Parallel Twins (reported operation act) := by
  intro c c' hc
  simp only [reported]
  have hact := h c c' hc
  revert hact
  cases act c <;> cases act c' <;> rintro (⟨_, hs⟩ | ⟨hf, hs⟩)
  · exact .ok _ hs
  · exact .error (hf.mapped operation) hs

lemma parallel_transaction {body : Datastore.Action α} (h : Parallel Twins body) :
    Parallel Twins (transaction body) := by
  refine (parallel_note _ _ _).bind fun _ c c' hc => ?_
  have hbody : Parallel Twins (do let a ← body; note .commit .null true; pure a : Datastore.Action α) :=
    h.bind fun a => (parallel_note _ _ _).bind fun _ => parallel_pure a
  have hact := hbody c c' hc
  revert hact
  generalize (do let a ← body; note .commit .null true; pure a : Datastore.Action α) = act
  cases act c <;> cases act c' <;> rintro (⟨_, hs⟩ | ⟨hf, hs⟩)
  · exact .ok _ hs
  -- A failure brings back the entities from before, which are the same in both.
  · exact .error hf ⟨hc.entities, hs.nextId, by rw [rollBack, rollBack, hs.calls], hs.faults⟩

lemma parallel_rewrite (id : ℤ) (change : Change) : Parallel Twins (Remote.rewrite id change) := by
  refine (parallel_get _ _).bind fun found => ?_
  cases found with
  | none => exact parallel_throw _
  | some e =>
    exact (parallel_lift _).bind fun t => (parallel_lift (change t)).bind fun changed =>
      (parallel_put _ _ _).bind fun _ => parallel_pure changed

end Clients

def TwinStores (s s' : Store) : Prop :=
  ∃ c c', s.backend = .datastore c ∧ s'.backend = .datastore c' ∧ Twins c c'

section Stores

variable {α : Type}

lemma agree_onClient {s s' : Store} {c c' : Client} (hc : Twins c c') {act : Datastore.Action α}
    (h : Parallel Twins act) : Agree TwinStores (s.onClient c act) (s'.onClient c' act) := by
  rw [Store.onClient, Store.onClient]
  have hact := h c c' hc
  revert hact
  cases act c <;> cases act c' <;> rintro (⟨_, hs⟩ | ⟨hf, hs⟩)
  · exact .ok _ ⟨_, _, rfl, rfl, hs⟩
  · exact .error hf ⟨_, _, rfl, rfl, hs⟩

lemma parallel_add (t : Task) : Parallel TwinStores (Store.add t) := by
  rintro ⟨_, journal⟩ ⟨_, journal'⟩ ⟨c, c', rfl, rfl, hc⟩
  refine agree_onClient hc ((parallel_reported _ (parallel_putNew _ _)).bind fun key => ?_)
  exact parallel_lift _

lemma parallel_modify (id : ℤ) (change : Change) : Parallel TwinStores (Store.modify id change) := by
  rintro ⟨_, journal⟩ ⟨_, journal'⟩ ⟨c, c', rfl, rfl, hc⟩
  have hupdate : Parallel Twins (update id change) := parallel_transaction (parallel_rewrite id change)
  exact agree_onClient hc ((parallel_reported _ hupdate).bind fun changed => parallel_pure _)

lemma parallel_log (r : Log.Record) : Parallel TwinStores (Store.log r) :=
  parallel_update (fun _ _ _ => rfl) fun _ _ h => h

lemma parallel_outcome (outcome : Except Failure α) : Parallel TwinStores (Store.lift outcome) := by
  intro s s' hs
  cases outcome with
  | ok a => exact .ok a hs
  | error f => exact .error (.same f) hs

lemma parallel_list : Parallel TwinStores Store.list := by
  rintro ⟨_, journal⟩ ⟨_, journal'⟩ ⟨c, c', rfl, rfl, hc⟩
  have hfetch := parallel_reported "read from datastore" (parallel_fetch taskKind "created")
  exact Agree.bind (fun s => Store.onClient s c _) (fun s => Store.onClient s c' _) (agree_onClient hc hfetch)
    fun entities => (parallel_log _).bind fun _ => parallel_outcome (tasksInOrder entities)

end Stores

end TaskBoard.Proofs.Stores
