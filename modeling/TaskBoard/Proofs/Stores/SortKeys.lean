import TaskBoard.Proofs.Stamp.Order
import TaskBoard.Proofs.Stores.InTable

namespace TaskBoard.Proofs.Stores.SortKeys

open TaskBoard.Entries Proofs.Entries Outcome Stamp InTable Time

def sortKey (d : Database) (id : ℤ) : Option String := ((d.rows.getD []).lookup id).map Row.created

def KeepsTime (change : Change) : Prop := ∀ t changed, change t = .ok changed → changed.created = t.created

def StandsFor (s : String) (u : Timestamp) : Prop :=
  Database.decodeTime s = .ok u ∧ u.offset = some 0 ∧ Database.encodeTime u = .ok s

section Texts

variable {a b u v : Timestamp}

lemma encodeTime_of_utc (hu : u.offset = some 0) : Database.encodeTime u = .ok (stamp u) := by
  rw [Database.encodeTime, toUtc_of_utc hu]
  rfl

lemma standsFor_stamp (hu : u.offset = some 0) (hy : 1000 ≤ u.date.year) : StandsFor (stamp u) u :=
  ⟨decodeTime_of_le hu hy, hu, encodeTime_of_utc hu⟩

lemma wall_eq_instant (hu : u.offset = some 0) : (u.wall : ℤ) = u.instant := by
  rw [Timestamp.instant, hu, Option.getD_some, Int.sub_zero]

lemma stamp_lt_iff_instant (hu : u.offset = some 0) (hv : v.offset = some 0) (hyu : 1000 ≤ u.date.year)
    (hyv : 1000 ≤ v.date.year) : stamp u < stamp v ↔ u.instant < v.instant := by
  rw [stamp_lt_iff hyu hyv, ← wall_eq_instant hu, ← wall_eq_instant hv, Int.ofNat_lt]

lemma stamp_eq_iff_instant (hu : u.offset = some 0) (hv : v.offset = some 0) (hyu : 1000 ≤ u.date.year)
    (hyv : 1000 ≤ v.date.year) : stamp u = stamp v ↔ u.instant = v.instant := by
  rw [stamp_eq_iff hyu hyv, ← wall_eq_instant hu, ← wall_eq_instant hv, Int.ofNat_inj]

end Texts

section Rows

variable {d d' : Database} {id : ℤ} {s : String} {u : Timestamp} {change : Change} {r : Task}

lemma sortKey_eq_some (h : sortKey d id = some s) : ∃ rows old, d.rows = some rows ∧ rows.lookup id = some old ∧
    old.created = s := by
  obtain ⟨rows⟩ := d
  cases rows with
  | none => cases h
  | some rows =>
    obtain ⟨old, hold, hs⟩ := Option.map_eq_some_iff.mp h
    exact ⟨rows, old, rfl, hold, hs⟩

lemma created_of_toTask {old : Row} {t : Task} (ht : Database.toTask id old = .ok t) :
    ∃ u, Database.decodeTime old.created = .ok u ∧ t.created = .time u := by
  obtain ⟨created, hc, hpure⟩ := bind_eq_ok.mp ht
  cases hpure
  exact ⟨created, hc, rfl⟩

lemma sortKey_modify (hs : StandsFor s u) (hc : KeepsTime change) (hk : sortKey d id = some s)
    (h : d.modify id change = .ok (r, d')) : sortKey d' = sortKey d := by
  obtain ⟨rows, old, hrows, hold, rfl⟩ := sortKey_eq_some hk
  obtain ⟨-, old', hold', t, changed, kept, ht, hch, hsave, heq⟩ := (modify_eq_ok hrows).mp h
  cases hold.symm.trans hold'
  cases heq
  -- The change hands on the time that the old text stands for, and that time has no other text.
  have htime : changed.created = .time u := by
    obtain ⟨v, hv, hcreated⟩ := created_of_toTask ht
    rw [hc t changed hch, hcreated, Except.ok.inj (hv.symm.trans hs.1)]
  have hkept : (row kept).created = old.created := by
    have henc := (saves_row hsave).1
    rw [htime, Database.encodeCreated, hs.2.2] at henc
    exact (Except.ok.inj henc).symm
  funext i
  by_cases hi : i = id
  · subst hi
    rw [hk, sortKey, Option.getD_some, lookup_assign_self, Option.map_some, hkept]
  · rw [sortKey, sortKey, Option.getD_some, lookup_assign_of_ne hi, hrows, Option.getD_some]

end Rows

/--
The text of a time tells its instant to the microsecond, texts are ordered as the instants are, and what is read from
a text is written as that text. So a change that leaves the time of creation alone does not move any row.
-/
theorem stamps_faithful {a b : Timestamp} (ha : Storable a) (hb : Storable b) : ∃ s t,
    Database.encodeTime a = .ok s ∧ Database.encodeTime b = .ok t ∧
      (∃ u, Database.decodeTime s = .ok u ∧ u.offset = some 0 ∧ u.instant = a.instant ∧
        Database.encodeTime u = .ok s) ∧
      (s < t ↔ a.instant < b.instant) ∧ (s = t ↔ a.instant = b.instant) ∧
        ∀ (d d' : Database) (id : ℤ) (change : Change) (r : Task), sortKey d id = some s → KeepsTime change →
          d.modify id change = .ok (r, d') → sortKey d' = sortKey d := by
  obtain ⟨u, hu, hyu, hencu, -⟩ := encodeTime_of_storable ha
  obtain ⟨v, hv, hyv, hencv, -⟩ := encodeTime_of_storable hb
  obtain ⟨hzu, hiu⟩ := toUtc?_spec hu
  obtain ⟨hzv, hiv⟩ := toUtc?_spec hv
  have hstands : StandsFor (stamp u) u := standsFor_stamp hzu hyu
  refine ⟨stamp u, stamp v, hencu, hencv, ⟨u, hstands.1, hzu, hiu, hstands.2.2⟩, ?_, ?_, ?_⟩
  · rw [stamp_lt_iff_instant hzu hzv hyu hyv, hiu, hiv]
  · rw [stamp_eq_iff_instant hzu hzv hyu hyv, hiu, hiv]
  · exact fun d d' id change r hk hc h => sortKey_modify hstands hc hk h

def leapEve : Timestamp :=
  ⟨63844847999999999, some (-1800 * microsOfSecond), by decide, by rintro o ⟨⟩; decide⟩

def eastern : Timestamp :=
  ⟨63844896600000000, some (50400 * microsOfSecond), by decide, by rintro o ⟨⟩; decide⟩

theorem stamps_faithful_leapEve : Storable eastern ∧ Storable leapEve ∧ ∃ s t,
    Database.encodeTime eastern = .ok s ∧ Database.encodeTime leapEve = .ok t ∧ s < t := by
  have he : Storable eastern := ⟨rfl, _, rfl, by decide⟩
  have hl : Storable leapEve := ⟨rfl, _, rfl, by decide⟩
  obtain ⟨s, t, hs, ht, -, hlt, -⟩ := stamps_faithful he hl
  exact ⟨he, hl, s, t, hs, ht, hlt.mpr (by decide)⟩

end TaskBoard.Proofs.Stores.SortKeys
