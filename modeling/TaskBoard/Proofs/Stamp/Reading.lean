import TaskBoard.Proofs.Stamp.Order

/-! The text of a time reads back as that time from year 1000 on, and does not read before. -/

namespace TaskBoard.Proofs.Stamp

open Number Time Decimals

lemma takeDigits_append {w : ℕ} {ds : List Char} (hl : ds.length = w) (hd : ∀ c ∈ ds, isDigit c = true)
    (rest : List Char) : Iso.takeDigits w (ds ++ rest) = some (ofDigits ds, rest) := by
  simp [Iso.takeDigits, List.take_left' hl, List.drop_left' hl, hl]
  exact hd

lemma takeDigits_padded {w n : ℕ} (hw : 0 < w) (hn : n < 10 ^ w) (rest : List Char) :
    Iso.takeDigits w (padded w n ++ rest) = some (n, rest) := by
  rw [takeDigits_append (length_padded_of_lt hw hn) (fun _ h => isDigit_of_mem_padded h), ofDigits_padded]

lemma readPairs_colon {i fuel n : ℕ} (hn : n < 10 ^ 2) (c : Iso.Clock) (after : Option Char) {rest : List Char}
    (hr : rest ≠ []) : Iso.readPairs true c after i (fuel + 1) (padded 2 n ++ ':' :: rest) =
      Iso.readPairs true (c.set i n) after (i + 1) fuel rest := by
  rw [Iso.readPairs, takeDigits_padded (by decide) hn]
  obtain ⟨d, rest, rfl⟩ := List.exists_cons_of_ne_nil hr
  simp

lemma readPairs_point {fuel n k : ℕ} (hn : n < 10 ^ 2) (hk : k < 10 ^ 6) (c : Iso.Clock) (after : Option Char) :
    Iso.readPairs true c after 2 (fuel + 1) (padded 2 n ++ '.' :: padded 6 k) =
      some ({ c.set 2 n with micros := k }, after.isSome) := by
  rw [Iso.readPairs, takeDigits_padded (by decide) hn]
  have hlen := length_padded_of_lt (by decide : 0 < 6) hk
  have hread := takeDigits_padded (by decide : 0 < 6) hk []
  obtain ⟨d, rest, hd⟩ := List.exists_cons_of_ne_nil (List.ne_nil_of_length_pos (by omega : 0 < (padded 6 k).length))
  rw [List.append_nil] at hread
  simp [hd] at hlen hread ⊢
  simp [Iso.readFraction, hlen, hread, tenTo]

lemma not_mem_digits {n : ℕ} {c : Char} (hc : isDigit c = false) : c ∉ digits n := by
  intro h
  rw [isDigit_of_mem_digits h] at hc
  cases hc

lemma not_mem_padded {w n : ℕ} {c : Char} (hc : isDigit c = false) : c ∉ padded w n := by
  intro h
  rw [isDigit_of_mem_padded h] at hc
  cases hc

lemma zone_not_mem_body (u : Timestamp) : 'Z' ∉ body u := by
  have hz : isDigit 'Z' = false := by decide
  simp [body, Timestamp.clockChars, not_mem_digits hz, not_mem_padded hz]

abbrev utc : List Char := "+00:00".toList

lemma flatMap_zone {s : List Char} (h : 'Z' ∉ s) :
    (s ++ ['Z']).flatMap (fun c => if c == 'Z' then utc else [c]) = s ++ utc := by
  rw [List.flatMap_append]
  congr 1
  induction s with
  | nil => rfl
  | cons c s ih =>
    rw [List.mem_cons, not_or] at h
    rw [List.flatMap_cons, ih h.2, if_neg (by simpa using Ne.symm h.1)]
    rfl

lemma decodeTime_stamp (u : Timestamp) :
    (∀ t, Timestamp.read (String.ofList (body u ++ utc)) = .ok t → Database.decodeTime (stamp u) = Database.toUtc t) ∧
      ∀ e, Timestamp.read (String.ofList (body u ++ utc)) = .error e →
        Database.decodeTime (stamp u) = .error (.value e.message) := by
  have hs : (stamp u).toList = body u ++ ['Z'] := String.toList_ofList
  constructor
  · intro t h
    simp only [Database.decodeTime, hs, flatMap_zone (zone_not_mem_body u), h]
  · intro e h
    simp only [Database.decodeTime, hs, flatMap_zone (zone_not_mem_body u), h]

lemma readTime_clock (u : Timestamp) : Iso.readTime (u.clockChars ++ '.' :: padded 6 u.micros ++ utc) =
    some (⟨u.hour, u.minute, u.second, u.micros⟩, some 0) := by
  have hplain : ∀ c ∈ u.clockChars ++ '.' :: padded 6 u.micros, (!(c == '+' || c == '-' || c == 'Z')) = true := by
    intro c hc
    have hd : isDigit c = true ∨ c = ':' ∨ c = '.' := by
      simp only [Timestamp.clockChars, List.mem_append, List.mem_cons] at hc
      rcases hc with (((h | rfl | h) | rfl | h) | rfl | h)
      · exact Or.inl (isDigit_of_mem_padded h)
      · simp
      · exact Or.inl (isDigit_of_mem_padded h)
      · simp
      · exact Or.inl (isDigit_of_mem_padded h)
      · simp
      · exact Or.inl (isDigit_of_mem_padded h)
    rcases hd with h | rfl | rfl
    · have hne {d : Char} (hd : isDigit d = false) : c ≠ d := by
        rintro rfl
        rw [h] at hd
        cases hd
      simp [hne (d := '+') (by decide), hne (d := '-') (by decide), hne (d := 'Z') (by decide)]
    · decide
    · decide
  have hread : Iso.readClock (u.clockChars ++ '.' :: padded 6 u.micros) (some '+') =
      some (⟨u.hour, u.minute, u.second, u.micros⟩, true) := by
    have := hour_lt u
    have := minute_lt u
    have := second_lt u
    rw [Iso.readClock, Timestamp.clockChars, List.append_assoc, List.append_assoc, List.cons_append,
      readPairs_colon (by omega) _ _ (by simp), List.cons_append, readPairs_colon (by omega) _ _ (by simp),
      readPairs_point (by omega) (micros_lt u)]
    rfl
  have hzero : Iso.readClock ['0', '0', ':', '0', '0'] none = some (⟨0, 0, 0, 0⟩, false) := rfl
  rw [Iso.readTime]
  simp only [List.takeWhile_append_of_pos hplain, List.dropWhile_append_of_pos hplain]
  have ht : utc.takeWhile (fun c => !(c == '+' || c == '-' || c == 'Z')) = [] := by decide
  have hd : utc.dropWhile (fun c => !(c == '+' || c == '-' || c == 'Z')) = ['+', '0', '0', ':', '0', '0'] := by decide
  rw [ht, hd, List.append_nil]
  simp [hread, hzero]

lemma padded_eq_cons {w n : ℕ} (hw : 0 < w) (hn : n < 10 ^ w) : ∃ c cs, padded w n = c :: cs ∧ isDigit c = true := by
  have hlen := length_padded_of_lt hw hn
  obtain ⟨c, cs, hc⟩ := List.exists_cons_of_ne_nil (List.ne_nil_of_length_pos (by omega : 0 < (padded w n).length))
  exact ⟨c, cs, hc, isDigit_of_mem_padded (by rw [hc]; exact List.mem_cons_self)⟩

lemma readDate_dashed {y m d n : ℕ} (hy : y < 10 ^ 4) (hm : m < 10 ^ 2) (hd : d < 10 ^ 2) (rest : List Char) :
    Iso.readDate n (padded 4 y ++ '-' :: (padded 2 m ++ '-' :: (padded 2 d ++ rest))) = some ⟨y, m, d⟩ := by
  have hmonth := takeDigits_padded (by decide : 0 < 2) hm ('-' :: (padded 2 d ++ rest))
  have hday := takeDigits_padded (by decide : 0 < 2) hd rest
  -- A month does not start with the letter of a week date.
  have hweek : (padded 2 m).head?.getD '-' ≠ 'W' := by
    obtain ⟨c, cs, hc, hdig⟩ := padded_eq_cons (by decide : 0 < 2) hm
    rw [hc]
    exact ne_of_isDigit hdig (by decide)
  rw [Iso.readDate, takeDigits_padded (by decide) hy]
  simp [hweek, hmonth, hday]

lemma readDate_short {y n : ℕ} (hy : y < 1000) (rest : List Char) :
    Iso.readDate n (digits y ++ '-' :: rest) = none := by
  have hlen := length_digits_le (by decide : 0 < 3) (by omega : y < 10 ^ 3)
  have hmem : '-' ∈ (digits y ++ '-' :: rest).take 4 := by
    apply List.mem_of_getElem? (i := (digits y).length)
    rw [List.getElem?_take_of_lt (by omega), List.getElem?_append_right (le_refl _), Nat.sub_self]
    rfl
  have htake : Iso.takeDigits 4 (digits y ++ '-' :: rest) = none := by
    rw [Iso.takeDigits, if_neg]
    rw [Bool.and_eq_true, List.all_eq_true]
    rintro ⟨_, hall⟩
    exact absurd (hall '-' hmem) (by decide)
  rw [Iso.readDate, htake]
  rfl

lemma dateLength_dashed {y m : ℕ} (hy : y < 10 ^ 4) (hm : m < 10 ^ 2) {rest : List Char} (hr : rest ≠ []) :
    Iso.dateLength (padded 4 y ++ '-' :: (padded 2 m ++ rest)) = 10 := by
  have hly := length_padded_of_lt (by decide : 0 < 4) hy
  have hlm := length_padded_of_lt (by decide : 0 < 2) hm
  have hlr := List.length_pos_of_ne_nil hr
  obtain ⟨c, cs, hc, hdig⟩ := padded_eq_cons (by decide : 0 < 2) hm
  have h4 : (padded 4 y ++ '-' :: (padded 2 m ++ rest))[4]? = some '-' := by
    rw [List.getElem?_append_right (by omega), hly]
    rfl
  have h5 : (padded 4 y ++ '-' :: (padded 2 m ++ rest))[5]? = some c := by
    rw [List.getElem?_append_right (by omega), hly, hc]
    rfl
  simp [Iso.dateLength, h4, h5, ne_of_isDigit hdig (by decide : isDigit 'W' = false)]
  omega

lemma readParts_of {s time : List Char} {c : Char} {date : Date} {clock : Iso.Clock} {offset : Option ℤ}
    (hl : 7 ≤ s.length) (hdate : Iso.readDate (Iso.dateLength s) s = some date)
    (hdrop : s.drop (Iso.dateLength s) = c :: time) (htime : Iso.readTime time = some (clock, offset)) :
    Iso.readParts s = some (date, clock, offset) := by
  rw [Iso.readParts, if_neg (by omega)]
  simp [hdate, hdrop, htime]

lemma drop_date {y m d : ℕ} (hy : y < 10 ^ 4) (hm : m < 10 ^ 2) (hd : d < 10 ^ 2) (rest : List Char) :
    (padded 4 y ++ '-' :: (padded 2 m ++ '-' :: (padded 2 d ++ rest))).drop 10 = rest := by
  have hly := length_padded_of_lt (by decide : 0 < 4) hy
  have hlm := length_padded_of_lt (by decide : 0 < 2) hm
  have hld := length_padded_of_lt (by decide : 0 < 2) hd
  rw [show padded 4 y ++ '-' :: (padded 2 m ++ '-' :: (padded 2 d ++ rest)) =
    (padded 4 y ++ '-' :: (padded 2 m ++ '-' :: padded 2 d)) ++ rest by simp]
  apply List.drop_left'
  simp only [List.length_append, List.length_cons]
  omega

lemma readParts_body {u : Timestamp} (hy : 1000 ≤ u.date.year) : Iso.readParts (body u ++ utc) =
    some (u.date, ⟨u.hour, u.minute, u.second, u.micros⟩, some 0) := by
  obtain ⟨_, _, _, _, _, _, _⟩ := date_bounds u
  have hy' : u.date.year < 10 ^ 4 := by omega
  have hm : u.date.month < 10 ^ 2 := by omega
  have hd : u.date.day < 10 ^ 2 := by omega
  have htime := readTime_clock u
  rw [body, digits_four hy hy']
  simp only [List.append_assoc, List.cons_append] at htime ⊢
  have hl := dateLength_dashed hy' hm
    (List.cons_ne_nil '-' (padded 2 u.date.day ++ 'T' :: (u.clockChars ++ '.' :: (padded 6 u.micros ++ utc))))
  refine readParts_of ?_ (readDate_dashed hy' hm hd _) (by rw [hl]; exact drop_date hy' hm hd _) htime
  rw [List.length_append, length_padded_of_lt (by decide) hy', List.length_cons, List.length_append,
    length_padded_of_lt (by decide) hm, List.length_cons]
  omega

lemma read_body {u : Timestamp} (hu : u.offset = some 0) (hy : 1000 ≤ u.date.year) :
    Timestamp.read (String.ofList (body u ++ utc)) = .ok u := by
  obtain ⟨_, _, _, _, _, _, _⟩ := date_bounds u
  have := hour_lt u
  have := minute_lt u
  have := second_lt u
  have hw := wall_eq u
  have ho : ∀ o ∈ some (0 : ℤ), -(microsOfDay : ℤ) < o ∧ o < microsOfDay := by
    rintro o ⟨⟩
    decide
  rw [Timestamp.read, String.toList_ofList, readParts_body hy]
  simp only [dif_pos ho, hw, dif_pos u.wall_lt, Bool.or_eq_true, decide_eq_true_eq]
  rw [if_neg (by omega), if_neg (by omega), if_neg (by omega), if_neg (by omega), if_neg (by omega), if_neg (by omega)]
  obtain ⟨wall, offset, hwall, hoff⟩ := u
  subst hu
  rfl

lemma toUtc_of_utc {u : Timestamp} (hu : u.offset = some 0) : Database.toUtc u = .ok u := by
  obtain ⟨wall, offset, hwall, hoff⟩ := u
  subst hu
  have hi : Timestamp.instant ⟨wall, some 0, hwall, hoff⟩ = wall := by simp [Timestamp.instant]
  have hu : Timestamp.toUtc? ⟨wall, some 0, hwall, hoff⟩ = some ⟨wall, some 0, hwall, hoff⟩ := by
    rw [Timestamp.toUtc?, hi, Timestamp.ofWall?, dif_pos ⟨by omega, by simpa using hwall⟩, dif_pos hoff]
    simp
  simp [Database.toUtc, Timestamp.isAware, hu]

lemma decodeTime_of_le {u : Timestamp} (hu : u.offset = some 0) (hy : 1000 ≤ u.date.year) :
    Database.decodeTime (stamp u) = .ok u := by
  rw [(decodeTime_stamp u).1 u (read_body hu hy)]
  exact toUtc_of_utc hu

lemma decodeTime_of_lt {u : Timestamp} (hy : u.date.year < 1000) :
    ∃ text, Database.decodeTime (stamp u) = .error (.value text) := by
  have hr : Iso.readParts (body u ++ utc) = none := by
    rw [body]
    simp only [List.append_assoc, List.cons_append]
    rw [Iso.readParts]
    simp [readDate_short hy]
  have hread : ∃ e, Timestamp.read (String.ofList (body u ++ utc)) = .error e := by
    rw [Timestamp.read, String.toList_ofList, hr]
    exact ⟨_, rfl⟩
  obtain ⟨e, he⟩ := hread
  exact ⟨e.message, (decodeTime_stamp u).2 e he⟩

/-- Times that the table keeps: they have an offset, and on a UTC clock they fall into the years 1000 to 9999. -/
def Storable (t : Timestamp) : Prop := t.isAware = true ∧ ∃ u, t.toUtc? = some u ∧ 1000 ≤ u.date.year

lemma toUtc?_spec {t u : Timestamp} (h : t.toUtc? = some u) : u.offset = some 0 ∧ u.instant = t.instant := by
  rw [Timestamp.toUtc?, Timestamp.ofWall?] at h
  split at h
  · rename_i hw
    split at h
    · cases h
      refine ⟨rfl, ?_⟩
      simpa [Timestamp.instant] using hw.1
    · cases h
  · cases h

lemma toUtc_spec {t u : Timestamp} (h : Database.toUtc t = .ok u) : t.toUtc? = some u := by
  rw [Database.toUtc] at h
  split at h
  · cases h
  · split at h
    · cases h
      assumption
    · cases h

lemma encodeTime_of_storable {t : Timestamp} (h : Storable t) : ∃ u, t.toUtc? = some u ∧ 1000 ≤ u.date.year ∧
    Database.encodeTime t = .ok (stamp u) ∧ Database.decodeTime (stamp u) = .ok u := by
  obtain ⟨ha, u, hu, hy⟩ := h
  have ht : Database.toUtc t = .ok u := by simp [Database.toUtc, ha, hu]
  refine ⟨u, hu, hy, ?_, decodeTime_of_le (toUtc?_spec hu).1 hy⟩
  rw [Database.encodeTime, ht]
  rfl

lemma decodeTime_eq_ok {u v : Timestamp} (hu : u.offset = some 0) (h : Database.decodeTime (stamp u) = .ok v) :
    v = u := by
  rcases Nat.lt_or_ge u.date.year 1000 with hy | hy
  · obtain ⟨text, ht⟩ := decodeTime_of_lt hy
    rw [ht] at h
    cases h
  · rw [decodeTime_of_le hu hy] at h
    cases h
    rfl

end TaskBoard.Proofs.Stamp
