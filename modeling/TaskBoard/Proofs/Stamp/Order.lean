import TaskBoard.Proofs.Calendar
import TaskBoard.Proofs.Decimals
import TaskBoard.Store.Database

namespace TaskBoard.Proofs.Stamp

open Number Time Decimals

def stamp (u : Timestamp) : String := String.ofList (Database.stampChars u)

lemma digits_four {n : ℕ} (hlo : 1000 ≤ n) (hhi : n < 10 ^ 4) : digits n = padded 4 n := by
  have hlen : ¬ (digits n).length ≤ 3 := by
    rw [digits, Nat.length_toDigits_le_iff (by decide) (by decide)]
    omega
  have hle := length_digits_le (by decide) hhi
  rw [padded, List.leftpad, show 4 - (digits n).length = 0 by omega]
  rfl

def body (u : Timestamp) : List Char :=
  digits u.date.year ++ '-' :: padded 2 u.date.month ++ '-' :: padded 2 u.date.day ++ 'T' :: u.clockChars ++
    '.' :: padded 6 u.micros

lemma stampChars_eq (u : Timestamp) : Database.stampChars u = body u ++ ['Z'] := rfl

lemma hour_lt (u : Timestamp) : u.hour < 24 := by
  simp only [Timestamp.hour, Timestamp.seconds, Timestamp.timeOfDay, microsOfSecond, microsOfDay]
  omega

lemma minute_lt (u : Timestamp) : u.minute < 60 := Nat.mod_lt _ (by decide)

lemma second_lt (u : Timestamp) : u.second < 60 := Nat.mod_lt _ (by decide)

lemma micros_lt (u : Timestamp) : u.micros < 10 ^ 6 := Nat.mod_lt _ (by decide)

lemma date_isValid (u : Timestamp) : u.date.isValid = true :=
  Calendar.ofDay_isValid _ (Nat.div_lt_of_lt_mul (by rw [Nat.mul_comm]; exact u.wall_lt))

lemma date_bounds (u : Timestamp) : 1 ≤ u.date.year ∧ u.date.year ≤ 9999 ∧ 1 ≤ u.date.month ∧ u.date.month ≤ 12 ∧
    1 ≤ u.date.day ∧ u.date.day ≤ daysInMonth u.date.year u.date.month ∧ u.date.day ≤ 31 := by
  have h := date_isValid u
  simp only [Date.isValid, Bool.and_eq_true, decide_eq_true_eq] at h
  have hlong (y m : ℕ) : daysInMonth y m ≤ 31 := by
    rcases m with _ | m
    · simp [daysInMonth]
    · rw [daysInMonth]
      cases isLeap y <;> rcases m with _ | _ | _ | _ | _ | _ | _ | _ | _ | _ | _ | _ | m <;> simp [monthLengths]
  have := hlong u.date.year u.date.month
  omega

lemma wall_eq (u : Timestamp) : u.date.toDay * microsOfDay +
    ((u.hour * 60 + u.minute) * 60 + u.second) * microsOfSecond + u.micros = u.wall := by
  rw [Timestamp.date, Calendar.toDay_ofDay]
  simp only [Timestamp.hour, Timestamp.minute, Timestamp.second, Timestamp.seconds, Timestamp.timeOfDay,
    Timestamp.micros, microsOfDay, microsOfSecond]
  omega

lemma cons_lt {x y : List Char} (c : Char) (h : x < y) : c :: x < c :: y := by
  rw [List.cons_lt_cons_iff]
  exact Or.inr ⟨rfl, h⟩

lemma field_lt {w m n : ℕ} (h : m < n) (hn : n < 10 ^ (w + 1)) (x y : List Char) :
    padded (w + 1) m ++ x < padded (w + 1) n ++ y := by
  refine append_lt (padded_lt h hn) ?_ x y
  rw [length_padded_of_lt (by omega) (h.trans hn), length_padded_of_lt (by omega) hn]

lemma field_le {w m n : ℕ} {x y : List Char} (h : m < n ∨ m = n ∧ x < y) (hn : n < 10 ^ (w + 1)) :
    padded (w + 1) m ++ x < padded (w + 1) n ++ y := by
  rcases h with h | ⟨rfl, h⟩
  · exact field_lt h hn x y
  · exact List.append_left_lt h

lemma date_lt {u v : Timestamp} (h : Calendar.Before u.date v.date) (x y : List Char) :
    padded 4 u.date.year ++ '-' :: (padded 2 u.date.month ++ '-' :: (padded 2 u.date.day ++ x)) <
      padded 4 v.date.year ++ '-' :: (padded 2 v.date.month ++ '-' :: (padded 2 v.date.day ++ y)) := by
  obtain ⟨_, _, _, _, _, _, _⟩ := date_bounds v
  refine field_le (h.imp_right (And.imp_right fun hm => cons_lt '-' ?_)) (by omega)
  exact field_le (hm.imp_right (And.imp_right fun hd => cons_lt '-' (field_lt hd (by omega) x y))) (by omega)

lemma clock_before {u v : Timestamp} (hd : u.wall / microsOfDay = v.wall / microsOfDay) (h : u.wall < v.wall) :
    u.hour < v.hour ∨ u.hour = v.hour ∧ (u.minute < v.minute ∨ u.minute = v.minute ∧
      (u.second < v.second ∨ u.second = v.second ∧ u.micros < v.micros)) := by
  simp only [Timestamp.hour, Timestamp.minute, Timestamp.second, Timestamp.seconds, Timestamp.timeOfDay,
    Timestamp.micros, microsOfDay, microsOfSecond] at *
  omega

lemma clock_lt {u v : Timestamp} (hd : u.wall / microsOfDay = v.wall / microsOfDay) (h : u.wall < v.wall)
    (x y : List Char) :
    u.clockChars ++ '.' :: (padded 6 u.micros ++ x) < v.clockChars ++ '.' :: (padded 6 v.micros ++ y) := by
  have := hour_lt v
  have := minute_lt v
  have := second_lt v
  simp only [Timestamp.clockChars, List.append_assoc, List.cons_append]
  refine field_le ((clock_before hd h).imp_right (And.imp_right fun hm => cons_lt ':' ?_)) (by omega)
  refine field_le (hm.imp_right (And.imp_right fun hs => cons_lt ':' ?_)) (by omega)
  exact field_le (hs.imp_right (And.imp_right fun hk => cons_lt '.' (field_lt hk (micros_lt v) x y))) (by omega)

lemma stamp_lt_of_lt {u v : Timestamp} (hu : 1000 ≤ u.date.year) (hv : 1000 ≤ v.date.year) (h : u.wall < v.wall) :
    stamp u < stamp v := by
  obtain ⟨_, _, _⟩ := date_bounds u
  obtain ⟨_, _, _⟩ := date_bounds v
  change (stamp u).toList < (stamp v).toList
  simp only [stamp, String.toList_ofList, stampChars_eq, body, digits_four hu (by omega), digits_four hv (by omega),
    List.append_assoc, List.cons_append]
  rcases Nat.lt_or_eq_of_le (Nat.div_le_div_right (c := microsOfDay) h.le) with hlt | heq
  · exact date_lt (Calendar.before_of_lt hlt) _ _
  · have hd : u.date = v.date := congrArg Date.ofDay heq
    rw [hd]
    exact List.append_left_lt (cons_lt _ (List.append_left_lt (cons_lt _ (List.append_left_lt
      (cons_lt _ (clock_lt heq h _ _))))))

lemma stamp_congr {u v : Timestamp} (h : u.wall = v.wall) : stamp u = stamp v := by
  simp only [stamp, Database.stampChars, Timestamp.date, Timestamp.clockChars, Timestamp.hour, Timestamp.minute,
    Timestamp.second, Timestamp.seconds, Timestamp.timeOfDay, Timestamp.micros, h]

lemma stamp_lt_iff {u v : Timestamp} (hu : 1000 ≤ u.date.year) (hv : 1000 ≤ v.date.year) :
    stamp u < stamp v ↔ u.wall < v.wall := by
  refine ⟨fun h => ?_, stamp_lt_of_lt hu hv⟩
  rcases Nat.lt_trichotomy u.wall v.wall with hlt | heq | hlt
  · exact hlt
  · rw [stamp_congr heq] at h
    exact (String.lt_irrefl _ h).elim
  · exact (String.lt_asymm h (stamp_lt_of_lt hv hu hlt)).elim

lemma stamp_eq_iff {u v : Timestamp} (hu : 1000 ≤ u.date.year) (hv : 1000 ≤ v.date.year) :
    stamp u = stamp v ↔ u.wall = v.wall := by
  refine ⟨fun h => ?_, stamp_congr⟩
  rcases Nat.lt_trichotomy u.wall v.wall with hlt | heq | hlt
  · exact (String.lt_irrefl _ (h ▸ stamp_lt_of_lt hu hv hlt)).elim
  · exact heq
  · exact (String.lt_irrefl _ (h ▸ stamp_lt_of_lt hv hu hlt)).elim

end TaskBoard.Proofs.Stamp
