import TaskBoard.Proofs.Stamp.Order
import TaskBoard.Web

namespace TaskBoard.Proofs.Rfc3339

open TaskBoard.Web Number Time Decimals Stamp

structure Field (w n : ℕ) (s : List Char) : Prop where
  length : s.length = w
  digit : ∀ c ∈ s, isDigit c = true
  value : ofDigits s = n

inductive Fraction : List Char → ℕ → Prop
  | none : Fraction [] 0
  | point {ds : List Char} {k : ℕ} (hne : ds ≠ []) (hd : ∀ c ∈ ds, isDigit c = true)
      (hk : k * 10 ^ ds.length = ofDigits ds * microsOfSecond) : Fraction ('.' :: ds) k

def zoneSize (h m : ℕ) : ℤ := ((h * 60 + m) * 60 * microsOfSecond : ℕ)

inductive Zone : List Char → ℤ → Prop
  | utc : Zone ['Z'] 0
  | ahead {hs ms : List Char} {h m : ℕ} (hour : Field 2 h hs) (minute : Field 2 m ms) (hh : h < 24) (hm : m < 60) :
      Zone ('+' :: (hs ++ ':' :: ms)) (zoneSize h m)
  | behind {hs ms : List Char} {h m : ℕ} (hour : Field 2 h hs) (minute : Field 2 m ms) (hh : h < 24) (hm : m < 60) :
      Zone ('-' :: (hs ++ ':' :: ms)) (-zoneSize h m)

/-- A date and time with a wall clock reading, in microseconds since the start of year 1, and an offset from UTC. -/
inductive Denotes : List Char → ℕ → ℤ → Prop
  | intro {d : Date} {h m s k : ℕ} {o : ℤ} {ys ns ds hs ms ss fs zs : List Char} (valid : d.isValid = true)
      (h_lt : h < 24) (m_lt : m < 60) (s_lt : s < 60) (year : Field 4 d.year ys) (month : Field 2 d.month ns)
      (day : Field 2 d.day ds) (hour : Field 2 h hs) (minute : Field 2 m ms) (second : Field 2 s ss)
      (fraction : Fraction fs k) (zone : Zone zs o) :
      Denotes (ys ++ '-' :: (ns ++ '-' :: (ds ++ 'T' :: (hs ++ ':' :: (ms ++ ':' :: (ss ++ (fs ++ zs)))))))
        (d.toDay * microsOfDay + ((h * 60 + m) * 60 + s) * microsOfSecond + k) o

section Writing

variable {t : Timestamp} {o : ℤ}

lemma field_padded {w n : ℕ} (hw : 0 < w) (h : n < 10 ^ w) : Field w n (padded w n) :=
  ⟨length_padded_of_lt hw h, fun _ => isDigit_of_mem_padded, ofDigits_padded w n⟩

lemma fraction_chars (t : Timestamp) : Fraction (Timestamp.fractionChars t.micros) t.micros := by
  rw [Timestamp.fractionChars]
  split
  · rename_i h
    rw [beq_iff_eq.mp h]
    exact .none
  · have hf := field_padded (by decide : 0 < 6) (micros_lt t)
    refine .point (List.ne_nil_of_length_pos (by rw [hf.length]; decide)) hf.digit ?_
    rw [hf.length, hf.value]
    rfl

lemma zoneChars_minutes (n : ℤ) : zoneChars (60 * microsOfSecond * n) =
    if n = 0 then ['Z']
    else (if n < 0 then '-' else '+') :: padded 2 (n.natAbs / 60) ++ ':' :: padded 2 (n.natAbs % 60) := by
  have hs : 60 * (microsOfSecond : ℤ) * n / microsOfSecond = 60 * n := by
    simp only [microsOfSecond]
    omega
  have hm : (60 * n).natAbs / 60 = n.natAbs := by omega
  rw [zoneChars, hs, hm]
  have hz : (60 * n == 0) = decide (n = 0) := by
    rw [Bool.eq_iff_iff, beq_iff_eq, decide_eq_true_eq]
    omega
  have hneg : (60 * n < 0) = (n < 0) := by
    rw [eq_iff_iff]
    omega
  simp only [hz, hneg, decide_eq_true_eq]

lemma zone_chars (ho : t.offset = some o) (hd : (60 * microsOfSecond : ℤ) ∣ o) : Zone (zoneChars o) o := by
  have hlt := t.offset_lt o ho
  obtain ⟨n, rfl⟩ := hd
  have hn : n.natAbs < 24 * 60 := by
    simp only [microsOfSecond, microsOfDay] at hlt
    omega
  have hour := field_padded (by decide : 0 < 2) (by omega : n.natAbs / 60 < 10 ^ 2)
  have minute := field_padded (by decide : 0 < 2) (by omega : n.natAbs % 60 < 10 ^ 2)
  have hsize : zoneSize (n.natAbs / 60) (n.natAbs % 60) = 60 * microsOfSecond * n.natAbs := by
    rw [zoneSize, Nat.div_add_mod']
    push_cast
    ring
  rw [zoneChars_minutes]
  split_ifs with hz hneg
  · rw [hz, mul_zero]
    exact .utc
  · have h := Zone.behind hour minute (by omega) (by omega)
    rwa [hsize, Int.ofNat_natAbs_of_nonpos hneg.le, mul_neg, neg_neg] at h
  · have h := Zone.ahead hour minute (by omega) (by omega)
    rwa [hsize, Int.natAbs_of_nonneg (not_lt.mp hneg)] at h

theorem denotes_createdChars (ho : t.offset = some o) (hd : (60 * microsOfSecond : ℤ) ∣ o) :
    Denotes (createdChars t) t.wall o := by
  obtain ⟨_, _, _, _, _, _, _⟩ := date_bounds t
  have hh := hour_lt t
  have hm := minute_lt t
  have hs := second_lt t
  have h := Denotes.intro (date_isValid t) hh hm hs (field_padded (by decide) (by omega))
    (field_padded (by decide) (by omega)) (field_padded (by decide) (by omega)) (field_padded (by decide) (by omega))
    (field_padded (by decide) (by omega)) (field_padded (by decide) (by omega)) (fraction_chars t) (zone_chars ho hd)
  rw [wall_eq] at h
  simpa [createdChars, Timestamp.dateChars, Timestamp.clockChars, ho] using h

end Writing

section Reading

variable {w n n' k k' : ℕ} {o o' : ℤ} {s s' rest rest' : List Char}

lemma Field.unique (h : Field w n s) (h' : Field w n' s') (he : s ++ rest = s' ++ rest') : n = n' ∧ rest = rest' := by
  obtain ⟨rfl, hr⟩ := List.append_inj he (h.length.trans h'.length.symm)
  exact ⟨h.value.symm.trans h'.value, hr⟩

lemma Field.unique_cons {c : Char} (h : Field w n s) (h' : Field w n' s') (he : s ++ c :: rest = s' ++ c :: rest') :
    n = n' ∧ rest = rest' := by
  obtain ⟨hn, hr⟩ := h.unique h' he
  exact ⟨hn, (List.cons.inj hr).2⟩

lemma Zone.unique (h : Zone s o) (h' : Zone s' o') (he : s = s') : o = o' := by
  cases h with
  | utc =>
    cases h' with
    | utc => rfl
    | ahead => simp at he
    | behind => simp at he
  | ahead hour minute =>
    cases h' with
    | utc => simp at he
    | ahead hour' minute' =>
      obtain ⟨rfl, hr⟩ := hour.unique_cons hour' (List.cons.inj he).2
      obtain ⟨rfl, -⟩ := minute.unique minute' (congrArg (· ++ []) hr)
      rfl
    | behind => simp at he
  | behind hour minute =>
    cases h' with
    | utc => simp at he
    | ahead => simp at he
    | behind hour' minute' =>
      obtain ⟨rfl, hr⟩ := hour.unique_cons hour' (List.cons.inj he).2
      obtain ⟨rfl, -⟩ := minute.unique minute' (congrArg (· ++ []) hr)
      rfl

lemma Zone.head (h : Zone s o) : ∃ c cs, s = c :: cs ∧ isDigit c = false ∧ c ≠ '.' := by
  cases h with
  | utc => exact ⟨'Z', _, rfl, by decide⟩
  | ahead => exact ⟨'+', _, rfl, by decide⟩
  | behind => exact ⟨'-', _, rfl, by decide⟩

lemma Zone.takeWhile (h : Zone s o) {ds : List Char} (hd : ∀ c ∈ ds, isDigit c = true) :
    (ds ++ s).takeWhile isDigit = ds := by
  obtain ⟨c, cs, rfl, hc, -⟩ := h.head
  exact takeWhile_isDigit hd (by rintro c ⟨⟩; exact hc)

lemma Fraction.unique {fs fs' : List Char} (h : Fraction fs k) (h' : Fraction fs' k') (hz : Zone s o) (hz' : Zone s' o')
    (he : fs ++ s = fs' ++ s') : k = k' ∧ s = s' := by
  obtain ⟨c, cs, hc, -, hp⟩ := hz.head
  obtain ⟨c', cs', hc', -, hp'⟩ := hz'.head
  cases h with
  | none =>
    cases h' with
    | none => exact ⟨rfl, he⟩
    | point => exact absurd (List.cons.inj (hc.symm.trans he)).1 hp
  | @point ds _ _ hd hk =>
    cases h' with
    | none => exact absurd (List.cons.inj (hc'.symm.trans he.symm)).1 hp'
    | @point ds' _ _ hd' hk' =>
      have hr : ds ++ s = ds' ++ s' := (List.cons.inj he).2
      have hds : ds = ds' := by rw [← hz.takeWhile hd, hr, hz'.takeWhile hd']
      subst hds
      exact ⟨Nat.eq_of_mul_eq_mul_right (by positivity) (hk.trans hk'.symm), List.append_cancel_left hr⟩

theorem Denotes.unique {w' : ℕ} (h : Denotes s w o) (h' : Denotes s w' o') : w = w' ∧ o = o' := by
  generalize he : s = text at h'
  cases h with
  | @intro d _ _ _ _ _ _ _ _ _ _ _ _ _ _ _ _ _ year month day hour minute second fraction zone =>
    cases h' with
    | @intro d' _ _ _ _ _ _ _ _ _ _ _ _ _ _ _ _ _ year' month' day' hour' minute' second' fraction' zone' =>
      obtain ⟨hy, he⟩ := year.unique_cons year' he
      obtain ⟨hn, he⟩ := month.unique_cons month' he
      obtain ⟨hd, he⟩ := day.unique_cons day' he
      obtain ⟨rfl, he⟩ := hour.unique_cons hour' he
      obtain ⟨rfl, he⟩ := minute.unique_cons minute' he
      obtain ⟨rfl, he⟩ := second.unique second' he
      obtain ⟨rfl, he⟩ := fraction.unique fraction' zone zone' he
      obtain rfl : d = d' := by
        cases d
        cases d'
        simp_all
      exact ⟨rfl, zone.unique zone' he⟩

end Reading

end TaskBoard.Proofs.Rfc3339
