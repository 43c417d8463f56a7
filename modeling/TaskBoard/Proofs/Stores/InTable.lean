import TaskBoard.Proofs.Entries
import TaskBoard.Proofs.Order
import TaskBoard.Proofs.Stamp.Reading

/-! Rows of the table: which task a row stands for, and what each operation does to the rows. -/

namespace TaskBoard.Proofs.Stores.InTable

open TaskBoard.Entries Proofs.Entries Outcome Proofs.Order Stamp

def Plain (t : Task) : Prop := (∃ s, t.description = .text s) ∧ Timed (fun u => u.offset = some 0) t.created

def createdText : Value → String
  | .time u => stamp u
  | _ => ""

def row (t : Task) : Row := ⟨t.description.text?.getD "", createdText t.created, Database.ofBool t.done⟩

def rowsOf (tasks : List (ℤ × Task)) : List (ℤ × Row) := tasks.map (Prod.map id row)

lemma keys_rowsOf (tasks : List (ℤ × Task)) : keys (rowsOf tasks) = keys tasks := by
  rw [rowsOf, keys, List.map_map]
  rfl

lemma lookup_rowsOf (id : ℤ) (tasks : List (ℤ × Task)) : (rowsOf tasks).lookup id = (tasks.lookup id).map row :=
  lookup_image Function.injective_id row id tasks

lemma assign_rowsOf (id : ℤ) (t : Task) (tasks : List (ℤ × Task)) :
    assign id (row t) (rowsOf tasks) = rowsOf (assign id t tasks) := assign_image Function.injective_id row id t tasks

lemma erase_rowsOf (id : ℤ) (tasks : List (ℤ × Task)) : erase id (rowsOf tasks) = rowsOf (erase id tasks) :=
  erase_image Function.injective_id row id tasks

/-- What the table keeps of a task: numbers become texts, and a time moves to a UTC clock. -/
def Saves (t kept : Task) : Prop := ∃ s c u, Database.encodeDescription t.description = .ok s ∧
  t.created = .time c ∧ Database.toUtc c = .ok u ∧ kept = { t with description := .text s, created := .time u }

lemma Saves.plain {t kept : Task} (h : Saves t kept) : Plain kept := by
  obtain ⟨s, _, u, _, _, hu, rfl⟩ := h
  exact ⟨⟨s, rfl⟩, u, rfl, (toUtc?_spec (toUtc_spec hu)).1⟩

lemma Saves.eq_of_plain {t kept : Task} (h : Saves t kept) (hp : Plain t) : kept = t := by
  obtain ⟨s, c, u, hs, hc, hu, rfl⟩ := h
  obtain ⟨⟨text, htext⟩, hzero⟩ := hp
  rw [hc, timed_time] at hzero
  have hcreated : t.created = .time u := by
    rw [hc, Except.ok.inj ((toUtc_of_utc hzero).symm.trans hu)]
  have hdescription : t.description = .text s := by
    rw [htext, Database.encodeDescription] at hs
    rw [htext, Except.ok.inj hs]
  rw [← hcreated, ← hdescription]

lemma Plain.year_le {t : Task} (h : Plain t) (hs : Timed Storable t.created) :
    Timed (fun u => 1000 ≤ u.date.year) t.created := by
  obtain ⟨c, hc, _, u, hu, hy⟩ := hs
  have hzero := h.2
  rw [hc, timed_time] at hzero
  refine ⟨c, hc, ?_⟩
  rwa [Option.some.inj ((toUtc_spec (toUtc_of_utc hzero)).symm.trans hu)]

lemma ofBool_ne_zero (b : Bool) : (Database.ofBool b != 0) = b := by cases b <;> rfl

lemma toTask_eq_ok {t t' : Task} {id : ℤ} (hp : Plain t) (hid : t.id = some id)
    (h : Database.toTask id (row t) = .ok t') : t' = t := by
  obtain ⟨⟨s, hs⟩, c, hc, hzero⟩ := hp
  rw [Database.toTask] at h
  cases hd : Database.decodeTime (row t).created with
  | error f => rw [hd] at h; cases h
  | ok u =>
    rw [hd] at h
    cases h
    obtain ⟨description, created, done, tid⟩ := t
    subst hs hid hc
    simp [row, Value.text?, ofBool_ne_zero, decodeTime_eq_ok hzero hd]

lemma toTask_row {t : Task} {id : ℤ} (hp : Plain t) (hid : t.id = some id)
    (hy : Timed (fun u => 1000 ≤ u.date.year) t.created) : Database.toTask id (row t) = .ok t := by
  obtain ⟨c, hc, hle⟩ := hy
  have hzero := hp.2
  rw [hc, timed_time] at hzero
  have hd : Database.decodeTime (row t).created = .ok c := by
    rw [row, hc]
    exact decodeTime_of_le hzero hle
  cases h : Database.toTask id (row t) with
  | error f =>
    rw [Database.toTask, hd] at h
    cases h
  | ok t' => rw [toTask_eq_ok hp hid h]

lemma foldl_max (rest : List (ℤ × Row)) (n : ℤ) : n ≤ rest.foldl (fun n r => max n r.1) n ∧
    (∀ i ∈ keys rest, i ≤ rest.foldl (fun n r => max n r.1) n) ∧
    (rest.foldl (fun n r => max n r.1) n = n ∨ rest.foldl (fun n r => max n r.1) n ∈ keys rest) := by
  induction rest generalizing n with
  | nil => simp
  | cons e rest ih =>
    obtain ⟨hle, hall, hmem⟩ := ih (max n e.1)
    rw [List.foldl_cons, keys_cons]
    refine ⟨(le_max_left n e.1).trans hle, fun i hi => ?_, ?_⟩
    · rcases List.mem_cons.mp hi with rfl | hi
      · exact (le_max_right n _).trans hle
      · exact hall i hi
    · rcases hmem with hmem | hmem
      · rcases max_choice n e.1 with hmax | hmax
        · exact Or.inl (hmem.trans hmax)
        · exact Or.inr (List.mem_cons.mpr (Or.inl (hmem.trans hmax)))
      · exact Or.inr (List.mem_cons_of_mem _ hmem)

lemma lt_newId {rows : List (ℤ × Row)} {i : ℤ} (h : i ∈ keys rows) : i < Database.newId rows := by
  cases rows with
  | nil => cases h
  | cons e rest =>
    obtain ⟨hle, hall, _⟩ := foldl_max rest e.1
    rw [Database.newId]
    rcases List.mem_cons.mp h with rfl | h
    · exact Int.lt_add_one_of_le hle
    · exact Int.lt_add_one_of_le (hall i h)

lemma newId_cases (rows : List (ℤ × Row)) :
    rows = [] ∧ Database.newId rows = 1 ∨ ∃ i ∈ keys rows, Database.newId rows = i + 1 := by
  cases rows with
  | nil => exact Or.inl ⟨rfl, rfl⟩
  | cons e rest =>
    obtain ⟨_, _, hmem⟩ := foldl_max rest e.1
    refine Or.inr ⟨rest.foldl (fun n r => max n r.1) e.1, ?_, rfl⟩
    rcases hmem with hmem | hmem
    · exact List.mem_cons.mpr (Or.inl hmem)
    · exact List.mem_cons_of_mem _ hmem

lemma newId_notMem (rows : List (ℤ × Row)) : Database.newId rows ∉ keys rows := fun h => lt_irrefl _ (lt_newId h)

lemma saves_row {t kept : Task} (h : Saves t kept) : Database.encodeCreated t.created = .ok (row kept).created ∧
    Database.encodeDescription t.description = .ok (row kept).description ∧
      (row kept).done = Database.ofBool t.done := by
  obtain ⟨s, c, u, hs, hc, hu, rfl⟩ := h
  refine ⟨?_, hs, rfl⟩
  rw [hc, Database.encodeCreated, Database.encodeTime, hu]
  rfl

lemma saves_of_encode {t : Task} {created text : String} (hc : Database.encodeCreated t.created = .ok created)
    (ht : Database.encodeDescription t.description = .ok text) :
    ∃ kept, Saves t kept ∧ row kept = ⟨text, created, Database.ofBool t.done⟩ := by
  cases ht' : t.created with
  | time c =>
    rw [ht'] at hc
    obtain ⟨u, hu, hc⟩ := bind_eq_ok.mp hc
    cases hc
    exact ⟨_, ⟨text, c, u, ht, ht', hu, rfl⟩, rfl⟩
  | _ =>
    rw [ht'] at hc
    cases hc

lemma saves_of_storable {t : Task} {s : String} (hs : t.description = .text s) (ht : Timed Storable t.created) :
    ∃ kept, Saves t kept ∧ Timed (fun u => 1000 ≤ u.date.year) kept.created := by
  obtain ⟨c, hc, ht⟩ := ht
  obtain ⟨u, hu, hy, henc, _⟩ := encodeTime_of_storable ht
  obtain ⟨v, hv, _⟩ := bind_eq_ok.mp henc
  have hvu : v = u := Option.some.inj ((toUtc_spec hv).symm.trans hu)
  rw [hvu] at hv
  exact ⟨_, ⟨s, c, u, by rw [hs, Database.encodeDescription], hc, hv, rfl⟩, u, rfl, hy⟩

lemma reported_eq_ok {α : Type} {operation : String} {outcome : Except Failure α} {a : α} :
    Database.reported operation outcome = .ok a ↔ outcome = .ok a := by
  cases outcome <;> simp [Database.reported]

section Operations

variable {d : Database} {rows : List (ℤ × Row)}

lemma table_eq (h : d.rows = some rows) : d.table = .ok rows := by simp only [Database.table, h]

lemma searchable_eq (h : d.rows = some rows) (id : ℤ) :
    d.searchable id = if TaskId.inRange id then .ok rows else .error Database.tooLarge := by
  rw [Database.searchable, table_eq h, Database.checkId]
  cases TaskId.inRange id <;> rfl

lemma searchable_eq_ok (h : d.rows = some rows) {id : ℤ} {found : List (ℤ × Row)} :
    d.searchable id = .ok found ↔ TaskId.inRange id = true ∧ found = rows := by
  rw [searchable_eq h]
  cases TaskId.inRange id <;> simp [eq_comm]

lemma add_eq_ok (h : d.rows = some rows) {t : Task} {r : Task × Database} : d.add t = .ok r ↔ ∃ kept, Saves t kept ∧
    r = ({ t with id := some (Database.newId rows) }, ⟨some (rows ++ [(Database.newId rows, row kept)])⟩) := by
  simp only [Database.add, Database.insert, table_eq h, bind_eq_ok, reported_eq_ok, pure_eq_ok]
  constructor
  · rintro ⟨created, hc, _, ⟨_, ⟨⟩, text, ht, rfl⟩, rfl⟩
    obtain ⟨kept, hk, hrow⟩ := saves_of_encode hc ht
    exact ⟨kept, hk, by rw [hrow]⟩
  · rintro ⟨kept, hk, rfl⟩
    obtain ⟨hc, ht, hd⟩ := saves_row hk
    exact ⟨_, hc, _, ⟨_, rfl, _, ht, rfl⟩, by rw [← hd]⟩

lemma get_eq (h : d.rows = some rows) {id : ℤ} (hid : TaskId.inRange id = true) : d.get id =
    match rows.lookup id with
    | some r => (Database.toTask id r).map some
    | none => .ok none := by
  rw [Database.get, searchable_eq h, if_pos hid]
  cases hl : rows.lookup id with
  | none => simp [Database.reported, bind, Except.bind, pure, Except.pure, hl]
  | some r =>
    cases hr : Database.toTask id r <;>
      simp [Database.reported, bind, Except.bind, pure, Except.pure, hl, hr, Except.map]

lemma modify_eq_ok (h : d.rows = some rows) {id : ℤ} {change : Change} {r : Task × Database} :
    d.modify id change = .ok r ↔ TaskId.inRange id = true ∧ ∃ old, rows.lookup id = some old ∧ ∃ t changed kept,
      Database.toTask id old = .ok t ∧ change t = .ok changed ∧ Saves changed kept ∧
        r = ({ changed with id := some id }, ⟨some (assign id (row kept) rows)⟩) := by
  rw [Database.modify, reported_eq_ok, Database.update, bind_eq_ok]
  simp only [searchable_eq_ok h]
  constructor
  · rintro ⟨_, ⟨hid, hrows⟩, hr⟩
    rw [hrows] at hr
    cases hl : rows.lookup id with
    | none => rw [hl] at hr; cases hr
    | some old =>
      simp only [hl, bind_eq_ok, pure_eq_ok] at hr
      obtain ⟨t, ht, changed, hch, created, hc, text, hs, rfl⟩ := hr
      obtain ⟨kept, hk, hrow⟩ := saves_of_encode hc hs
      exact ⟨hid, old, rfl, t, changed, kept, ht, hch, hk, by rw [hrow]⟩
  · rintro ⟨hid, old, hl, t, changed, kept, ht, hch, hk, rfl⟩
    obtain ⟨hc, hs, hd⟩ := saves_row hk
    refine ⟨rows, ⟨hid, rfl⟩, ?_⟩
    simp only [hl, bind_eq_ok, pure_eq_ok]
    exact ⟨t, ht, changed, hch, _, hc, _, hs, by rw [← hd]⟩

lemma modify_of_absent (h : d.rows = some rows) {id : ℤ} (hid : TaskId.inRange id = true) (hl : id ∉ keys rows)
    (change : Change) : d.modify id change = .error (.taskNotFound id) := by
  rw [Database.modify, Database.update, searchable_eq h, if_pos hid]
  simp only [bind, Except.bind, lookup_eq_none_iff.mpr hl]
  rfl

lemma remove_eq_ok (h : d.rows = some rows) {id : ℤ} {d' : Database} :
    d.remove id = .ok d' ↔ TaskId.inRange id = true ∧ d' = ⟨some (erase id rows)⟩ := by
  rw [Database.remove, bind_eq_ok]
  simp only [reported_eq_ok, searchable_eq_ok h, pure_eq_ok]
  constructor
  · rintro ⟨_, ⟨hid, rfl⟩, rfl⟩
    exact ⟨hid, rfl⟩
  · rintro ⟨hid, rfl⟩
    exact ⟨rows, ⟨hid, rfl⟩, rfl⟩

lemma list_eq (h : d.rows = some rows) :
    d.list = (rows.mergeSort Database.notAfter).mapM fun e => Database.toTask e.1 e.2 := by
  rw [Database.list, table_eq h]
  rfl

end Operations

end TaskBoard.Proofs.Stores.InTable
