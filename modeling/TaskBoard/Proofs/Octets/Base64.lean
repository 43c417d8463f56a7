import Mathlib.Tactic
import TaskBoard.Proofs.Outcome
import TaskBoard.Text.Base64

namespace TaskBoard.Proofs.Octets.Base64

open TaskBoard.Text.Base64 Outcome

lemma value?_digit : ∀ n < 64, value? (digit n) = some n := by decide +kernel

lemma alphabet_lt {c : Char} (h : c ∈ alphabet) : c.toNat < 0x80 := by
  have hall : (alphabet.all fun c => c.toNat < 0x80) = true := by decide +kernel
  exact of_decide_eq_true (List.all_eq_true.mp hall c h)

lemma digit_lt (n : ℕ) : (digit n).toNat < 0x80 := by
  rw [digit]
  cases h : alphabet[n]? with
  | none => decide
  | some c => exact alphabet_lt (List.mem_of_getElem? h)

lemma ne_of_value? {c : Char} {n : ℕ} (h : value? c = some n) : c ≠ '=' := by
  rintro rfl
  cases h

section Steps

variable {bits pads octets n : ℕ} {c : Char} {o : UInt8} {rest : List Char} {more : List UInt8}

lemma ofNat_of_toNat (h : n = o.toNat) : UInt8.ofNat n = o := by rw [h, UInt8.ofNat_toNat]

lemma decodeFrom_first (hc : value? c = some n) (h : decodeFrom ⟨1, n, 0, false, octets⟩ rest = .ok more) :
    decodeFrom ⟨0, bits, pads, false, octets⟩ (c :: rest) = .ok more := by
  simpa [decodeFrom, ne_of_value? hc, hc] using h

lemma decodeFrom_second (hc : value? c = some n) (ho : bits * 4 + n / 16 = o.toNat)
    (h : decodeFrom ⟨2, n % 16, 0, false, octets + 1⟩ rest = .ok more) :
    decodeFrom ⟨1, bits, pads, false, octets⟩ (c :: rest) = .ok (o :: more) := by
  simp [decodeFrom, ne_of_value? hc, hc, h, ofNat_of_toNat ho]

lemma decodeFrom_third (hc : value? c = some n) (ho : bits * 16 + n / 4 = o.toNat)
    (h : decodeFrom ⟨3, n % 4, 0, false, octets + 1⟩ rest = .ok more) :
    decodeFrom ⟨2, bits, pads, false, octets⟩ (c :: rest) = .ok (o :: more) := by
  simp [decodeFrom, ne_of_value? hc, hc, h, ofNat_of_toNat ho]

lemma decodeFrom_fourth (hc : value? c = some n) (ho : bits * 64 + n = o.toNat)
    (h : decodeFrom ⟨0, 0, 0, false, octets + 1⟩ rest = .ok more) :
    decodeFrom ⟨3, bits, pads, false, octets⟩ (c :: rest) = .ok (o :: more) := by
  simp [decodeFrom, ne_of_value? hc, hc, h, ofNat_of_toNat ho]

end Steps

lemma decodeFrom_encode (bits pads octets : ℕ) (os : List UInt8) :
    decodeFrom ⟨0, bits, pads, false, octets⟩ (encode os) = .ok os := by
  fun_induction encode os generalizing bits pads octets with
  | case1 => rfl
  | case2 a =>
    have ha := a.toNat_lt
    refine decodeFrom_first (value?_digit _ (by omega)) ?_
    exact decodeFrom_second (value?_digit _ (by omega)) (by omega) rfl
  | case3 a b =>
    have ha := a.toNat_lt
    have hb := b.toNat_lt
    refine decodeFrom_first (value?_digit _ (by omega)) ?_
    refine decodeFrom_second (value?_digit _ (by omega)) (by omega) ?_
    exact decodeFrom_third (value?_digit _ (by omega)) (by omega) rfl
  | case4 a b c rest ih =>
    have ha := a.toNat_lt
    have hb := b.toNat_lt
    have hc := c.toNat_lt
    -- The first digit of a group only leaves bits behind; each later one completes an octet with them.
    refine decodeFrom_first (value?_digit _ (by omega)) ?_
    refine decodeFrom_second (value?_digit _ (by omega)) (by omega) ?_
    refine decodeFrom_third (value?_digit _ (by omega)) (by omega) ?_
    exact decodeFrom_fourth (value?_digit _ (by omega)) (by omega) (ih _ _ _)

lemma head?_encode (os : List UInt8) : (encode os).head? ≠ some '=' := by
  have hne (n : ℕ) (hn : n < 64) : some (digit n) ≠ some '=' :=
    fun h => ne_of_value? (value?_digit n hn) (Option.some.inj h)
  fun_cases encode os with
  | case1 => exact nofun
  | case2 a => exact hne _ (by have := a.toNat_lt; omega)
  | case3 a => exact hne _ (by have := a.toNat_lt; omega)
  | case4 a => exact hne _ (by have := a.toNat_lt; omega)

theorem decode_encode (os : List UInt8) : decode (encode os) = .ok os := by
  rw [decode, if_neg (by simpa using head?_encode os)]
  exact decodeFrom_encode 0 0 0 os

lemma encode_lt (os : List UInt8) : ∀ c ∈ encode os, c.toNat < 0x80 := by
  fun_induction encode os with
  | case1 => exact nofun
  | case2 a => simp [digit_lt]
  | case3 a b => simp [digit_lt]
  | case4 a b c rest ih => simpa [digit_lt] using ih

lemma lt_of_value? {c : Char} {n : ℕ} (h : value? c = some n) : c.toNat < 0x80 := by
  have hle {d : Char} (hc : c ≤ d) : c.toNat ≤ d.toNat := UInt32.le_iff_toNat_le.mp hc
  simp only [value?] at h
  split_ifs at h with hupper hlower hdigit hplus hslash
  · exact (hle hupper.2).trans_lt (by decide)
  · exact (hle hlower.2).trans_lt (by decide)
  · exact (hle hdigit.2).trans_lt (by decide)
  · rw [hplus]
    decide
  · rw [hslash]
    decide

lemma lt_of_decodeFrom {state : State} {s : List Char} {os : List UInt8} (h : decodeFrom state s = .ok os) :
    ∀ c ∈ s, c.toNat < 0x80 := by
  induction s generalizing state os with
  | nil => exact nofun
  | cons c rest ih =>
    have hrest (state' : State) (os' : List UInt8) (hc : c.toNat < 0x80) (h : decodeFrom state' rest = .ok os') :
        ∀ c' ∈ c :: rest, c'.toNat < 0x80 := List.forall_mem_cons.mpr ⟨hc, ih h⟩
    rw [decodeFrom] at h
    by_cases hpad : c = '='
    · subst hpad
      rw [if_pos (beq_self_eq_true '=')] at h
      generalize (if state.place ≥ 2 then state.pads + 1 else state.pads) = pads at h
      dsimp only at h
      split at h
      · split at h
        · rename_i hempty
          rw [List.isEmpty_iff.mp hempty]
          simp
        · cases h
      · exact hrest _ _ (by decide) h
    · rw [if_neg (by simpa using hpad)] at h
      split at h
      · cases h
      · rename_i v hv
        have hc := lt_of_value? hv
        split at h
        · cases h
        · split at h
          · exact hrest _ _ hc h
          · obtain ⟨more, hmore, -⟩ := bind_eq_ok.mp h
            exact hrest _ _ hc hmore
          · obtain ⟨more, hmore, -⟩ := bind_eq_ok.mp h
            exact hrest _ _ hc hmore
          · obtain ⟨more, hmore, -⟩ := bind_eq_ok.mp h
            exact hrest _ _ hc hmore

lemma lt_of_decode {s : List Char} {os : List UInt8} (h : decode s = .ok os) : ∀ c ∈ s, c.toNat < 0x80 := by
  rw [decode] at h
  split at h
  · cases h
  · exact lt_of_decodeFrom h

end TaskBoard.Proofs.Octets.Base64
