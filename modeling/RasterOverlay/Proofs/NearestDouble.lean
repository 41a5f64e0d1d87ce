import Mathlib
import RasterOverlay.Number.Reading
import RasterOverlay.Proofs.DoubleValues

/-!
Products, quotients and numbers in decimal are rounded to the nearest double. The arithmetic of the
library shifts digits out of a mantissa and remembers two bits of them, which is all that rounding
asks for.
-/

namespace RasterOverlay

namespace Binary64

open Float.Model Float.Model.UnpackedFloat

variable {x y : Float} {m k r : ℕ} {e f : ℤ} {q : ℚ}

/-! ## Rounded numbers -/

/-- The number `q` is `r` units of `2 ^ e`, rounded to a whole number of them and to an even one
from halfway, and the unit is that of the doubles around `q`. -/
structure IsRounded (q : ℚ) (r : ℕ) (e : ℤ) : Prop where
  near : |q / 2 ^ e - r| ≤ 1 / 2
  tie : |q / 2 ^ e - r| = 1 / 2 → Even r
  least_le : -1074 ≤ e
  full : 2 ^ 52 ≤ q / 2 ^ e ∨ e = -1074
  lt : q / 2 ^ e < 2 ^ 53

theorem IsRounded.near_whole (h : IsRounded q r e) (j : ℕ) :
    |q / 2 ^ e - r| ≤ |q / 2 ^ e - j| ∧
      (|q / 2 ^ e - r| = |q / 2 ^ e - j| → r = j ∨ Even r) := by
  by_cases hrj : r = j
  · exact hrj ▸ ⟨le_rfl, fun _ => .inl rfl⟩
  have hone : (1 : ℚ) ≤ |(r : ℚ) - j| := by
    have : (1 : ℤ) ≤ |(r : ℤ) - j| := Int.one_le_abs (by omega)
    exact_mod_cast this
  have htriangle : |(r : ℚ) - j| ≤ |q / 2 ^ e - r| + |q / 2 ^ e - j| := by
    rw [abs_sub_comm _ (r : ℚ)]
    exact abs_sub_le (r : ℚ) (q / 2 ^ e) j
  have hnear := h.near
  exact ⟨by linarith, fun heq => .inr (h.tie (by linarith))⟩

theorem abs_sub_scaled (q : ℚ) (r : ℕ) (e : ℤ) :
    |q - scaled r e| = |q / 2 ^ e - r| * 2 ^ e := by
  have hpos : (0 : ℚ) < 2 ^ e := by positivity
  rw [← abs_of_pos hpos, ← abs_mul, abs_of_pos hpos, sub_mul, div_mul_cancel₀ _ hpos.ne', scaled]

theorem IsRounded.near_multiple (h : IsRounded q r e) (j : ℕ) :
    |q - scaled r e| ≤ |q - scaled j e| ∧
      (|q - scaled r e| = |q - scaled j e| → r = j ∨ Even r) := by
  have hpos : (0 : ℚ) < 2 ^ e := by positivity
  rw [abs_sub_scaled, abs_sub_scaled, mul_le_mul_iff_left₀ hpos, mul_left_inj' hpos.ne']
  exact h.near_whole j

theorem IsRounded.full_le (h : IsRounded q r e) (he : -1074 < e) : scaled (2 ^ 52) e ≤ q := by
  have hfull := h.full.resolve_right he.ne'
  rw [le_div_iff₀ (by positivity)] at hfull
  rwa [scaled, Nat.cast_pow, Nat.cast_ofNat]

/-- A double of a smaller unit lies below the full significands, which `q` has reached. -/
theorem IsRounded.nearer_than_smaller (h : IsRounded q r e) (hk : IsShape k f) (hfe : f < e) :
    |q - scaled r e| < |q - scaled k f| := by
  have hfull := h.full_le (hk.least_le.trans_lt hfe)
  have hbelow := hk.scaled_lt hfe
  calc |q - scaled r e| ≤ |q - scaled (2 ^ 52) e| := (h.near_multiple _).1
    _ = q - scaled (2 ^ 52) e := abs_of_nonneg (by linarith)
    _ < q - scaled k f := by linarith
    _ ≤ |q - scaled k f| := le_abs_self _

theorem IsRounded.near_shape (h : IsRounded q r e) (hk : IsShape k f) :
    |q - scaled r e| ≤ |q - scaled k f| ∧
      (|q - scaled r e| = |q - scaled k f| → scaled r e = scaled k f ∨ Even r) := by
  by_cases hfe : f < e
  · have hlt := h.nearer_than_smaller hk hfe
    exact ⟨hlt.le, fun heq => absurd heq hlt.ne⟩
  · obtain ⟨n, rfl⟩ : ∃ n : ℕ, f = e + n := ⟨(f - e).toNat, by omega⟩
    rw [← scaled_mul_two_pow]
    obtain ⟨hle, heq⟩ := h.near_multiple (k * 2 ^ n)
    exact ⟨hle, fun h => (heq h).imp_left fun hr => by rw [hr]⟩

/-- A double that stands for the rounded number is the nearest one. -/
theorem IsRounded.isNearest (h : IsRounded q r e) (hx : Stands x m f)
    (hvalue : scaled m f = scaled r e) (heven : Even r → Even m) : IsNearest q x := by
  refine ⟨m, f, hx, fun y k g hy => ?_⟩
  rw [hvalue]
  obtain ⟨hle, heq⟩ := h.near_shape hy.isShape
  exact ⟨hle, fun htie => (heq htie).imp
    (fun hk => hx.eq_of_scaled_eq hy (hvalue.trans hk)) heven⟩

/-- Infinity is nearest to what no other double reaches. -/
theorem isNearest_infinity (hx : Stands x (2 ^ 52) 972) (hq : scaled (2 ^ 52) 972 ≤ q) :
    IsNearest q x := by
  refine ⟨_, _, hx, fun y k f hy => ?_⟩
  have hle : scaled k f ≤ scaled (2 ^ 52) 972 := by
    obtain hlt | ⟨rfl, rfl⟩ := hy.isShape.inRange
    · exact (hy.isShape.scaled_lt hlt).le
    · exact le_rfl
  rw [abs_of_nonneg (by linarith), abs_of_nonneg (by linarith)]
  exact ⟨by linarith, fun _ => .inr (by decide)⟩

/-! ## The two bits of a mantissa -/

/-- A mantissa with its two bits stands for the number `t`: behind the bit for the half there is a
rest below a half, and the other bit tells whether there is any. -/
def Represents (em : ExtendedMantissa) (t : ℚ) : Prop :=
  ∃ rest : ℚ, t = em.mantissa + em.roundBit.toNat / 2 + rest ∧ 0 ≤ rest ∧ rest < 1 / 2 ∧
    (em.stickyBit = false ↔ rest = 0)

theorem represents_exact (m : ℕ) : Represents (.ofMantissaAndAccuracy m .exact) m :=
  ⟨0, by simp [ExtendedMantissa.ofMantissaAndAccuracy], by norm_num, by norm_num,
    by simp [ExtendedMantissa.ofMantissaAndAccuracy]⟩

/-- The remainder of a division tells the two bits. -/
theorem represents_quotient (n : ℕ) {d : ℕ} (hd : 0 < d) :
    Represents (.ofMantissaAndAccuracy (n / d) (accuracyOfFraction (n % d) d)) (n / d) := by
  have hdq : (0 : ℚ) < d := by exact_mod_cast hd
  have hvalue : (n : ℚ) / d = (n / d : ℕ) + (n % d : ℕ) / d := by
    have : (n : ℚ) = d * (n / d : ℕ) + (n % d : ℕ) := by
      exact_mod_cast (Nat.div_add_mod n d).symm
    field_simp
    linarith
  have hmod := Nat.mod_lt n hd
  rw [hvalue, accuracyOfFraction]
  generalize n % d = p at hmod
  split_ifs with hp
  · subst hp
    simpa using represents_exact (n / d)
  have hpq : (0 : ℚ) < p := by exact_mod_cast Nat.pos_of_ne_zero hp
  cases hhalf : compare (2 * p) d with
  | lt =>
    have hlt : (2 : ℚ) * p < d := by exact_mod_cast compare_lt_iff_lt.mp hhalf
    have hbelow : (p : ℚ) / d < 1 / 2 := by
      rw [div_lt_iff₀ hdq]
      linarith
    refine ⟨p / d, ?_, by positivity, hbelow, ?_⟩
    · simp [ExtendedMantissa.ofMantissaAndAccuracy]
    · simp [ExtendedMantissa.ofMantissaAndAccuracy, hd.ne', hp]
  | eq =>
    have heq : (2 : ℚ) * p = d := by exact_mod_cast compare_eq_iff_eq.mp hhalf
    have hmiddle : (p : ℚ) / d = 1 / 2 := by
      rw [← heq]
      field_simp
    refine ⟨0, ?_, le_rfl, by norm_num, ?_⟩
    · simp [ExtendedMantissa.ofMantissaAndAccuracy, hmiddle]
    · simp [ExtendedMantissa.ofMantissaAndAccuracy]
  | gt =>
    have hlt : (d : ℚ) < 2 * p := by exact_mod_cast compare_gt_iff_gt.mp hhalf
    have habove : 1 / 2 < (p : ℚ) / d := by
      rw [lt_div_iff₀ hdq]
      linarith
    have hone : (p : ℚ) / d < 1 := by
      rw [div_lt_one hdq]
      exact_mod_cast hmod
    have hrest : (p : ℚ) / d - 1 / 2 ≠ 0 := by linarith
    refine ⟨p / d - 1 / 2, ?_, by linarith, by linarith, ?_⟩
    · simp [ExtendedMantissa.ofMantissaAndAccuracy]
    · simpa [ExtendedMantissa.ofMantissaAndAccuracy] using hrest

theorem Represents.shiftRightOne {em : ExtendedMantissa} {t : ℚ} (h : Represents em t) :
    Represents em.shiftRightOne (t / 2) := by
  obtain ⟨rest, ht, hnonneg, hlt, hsticky⟩ := h
  have hbit : (em.roundBit.toNat : ℚ) ≤ 1 := by exact_mod_cast em.roundBit.toNat_le
  have hparity : (em.mantissa % 2 != 0).toNat = em.mantissa % 2 := by
    obtain h | h := Nat.mod_two_eq_zero_or_one em.mantissa <;> simp [h]
  have hmantissa : (em.mantissa : ℚ) =
      2 * (em.mantissa / 2 : ℕ) + (em.mantissa % 2 != 0).toNat := by
    rw [hparity]
    exact_mod_cast (Nat.div_add_mod em.mantissa 2).symm
  refine ⟨em.roundBit.toNat / 4 + rest / 2, ?_, by positivity, by linarith, ?_⟩
  · rw [ht, hmantissa]
    simp only [ExtendedMantissa.shiftRightOne]
    ring
  · cases hround : em.roundBit with
    | false => simpa [ExtendedMantissa.shiftRightOne, hround] using hsticky
    | true =>
      have hne : (4 : ℚ)⁻¹ + rest / 2 ≠ 0 := by positivity
      simpa [ExtendedMantissa.shiftRightOne, hround] using hne

theorem Represents.shiftRight {em : ExtendedMantissa} {t : ℚ} (h : Represents em t) (n : ℕ) :
    Represents (em >>> n) (t / 2 ^ n) := by
  change Represents (n.repeat ExtendedMantissa.shiftRightOne em) _
  induction n with
  | zero => simpa [Nat.repeat] using h
  | succ n ih =>
    rw [Nat.repeat, pow_succ, ← div_div]
    exact ih.shiftRightOne

/-- The two bits are enough to round to the nearest whole number, and to the even one from
halfway. -/
theorem Represents.roundedMantissa {em : ExtendedMantissa} {t : ℚ} (h : Represents em t) :
    |t - em.roundedMantissa| ≤ 1 / 2 ∧
      (|t - em.roundedMantissa| = 1 / 2 → Even em.roundedMantissa) := by
  obtain ⟨n, round, sticky⟩ := em
  obtain ⟨rest, rfl, hnonneg, hlt, hsticky⟩ := h
  cases round <;> cases sticky <;>
    simp only [ExtendedMantissa.roundedMantissa, ExtendedMantissa.accuracy,
      Accuracy.roundToNearestEven]
  case false.false =>
    obtain rfl : rest = 0 := by simpa using hsticky
    simp
  case false.true =>
    have habs : |(n : ℚ) + Bool.false.toNat / 2 + rest - n| = rest := by
      simpa using hnonneg
    rw [habs]
    exact ⟨hlt.le, fun h => absurd h hlt.ne⟩
  case true.false =>
    obtain rfl : rest = 0 := by simpa using hsticky
    obtain h | h := Nat.mod_two_eq_zero_or_one n
    · simp [h, Nat.even_iff]
    · have habs : |(n : ℚ) + Bool.true.toNat / 2 + 0 - (n + 1 : ℕ)| = 1 / 2 := by
        rw [← abs_neg, ← abs_of_pos (a := (1 / 2 : ℚ)) (by norm_num)]
        congr 1
        push_cast [Bool.toNat_true]
        ring
      rw [h, habs]
      exact ⟨le_rfl, fun _ => Nat.even_add_one.mpr (by simpa [Nat.even_iff] using h)⟩
  case true.true =>
    have hrest : 0 < rest := lt_of_le_of_ne hnonneg (by simpa [eq_comm] using hsticky)
    have habs : |(n : ℚ) + Bool.true.toNat / 2 + rest - (n + 1 : ℕ)| = 1 / 2 - rest := by
      rw [← abs_neg, ← abs_of_pos (a := 1 / 2 - rest) (by linarith)]
      congr 1
      push_cast [Bool.toNat_true]
      ring
    rw [habs]
    exact ⟨by linarith, fun h => absurd h (by linarith)⟩

theorem mantissa_ofMantissaAndAccuracy (m : ℕ) (acc : Accuracy) :
    (ExtendedMantissa.ofMantissaAndAccuracy m acc).mantissa = m := by
  match acc with
  | .exact => rfl
  | .inexact .lt => rfl
  | .inexact .eq => rfl
  | .inexact .gt => rfl

theorem Represents.mantissa_le {em : ExtendedMantissa} {t : ℚ} (h : Represents em t) :
    (em.mantissa : ℚ) ≤ t ∧ t < em.mantissa + 1 := by
  obtain ⟨rest, ht, hnonneg, hlt, -⟩ := h
  have hone : (em.roundBit.toNat : ℚ) ≤ 1 := by exact_mod_cast em.roundBit.toNat_le
  have hzero : (0 : ℚ) ≤ em.roundBit.toNat := Nat.cast_nonneg _
  constructor <;> linarith

/-! ## Rounding to a double -/

theorem targetExponent_eq (m : ℕ) (e : ℤ) :
    Format.binary64.targetExponent (totalExponent m e) = max (m.log2 + 1 + e - 53) (-1074) :=
  rfl

/-- Shifted to the exponent of its size, a number is rounded to a whole number of units. -/
theorem Represents.isRounded {acc : Accuracy} {t : ℚ} {n : ℕ}
    (h : Represents (.ofMantissaAndAccuracy m acc) t)
    (hn : e + n = Format.binary64.targetExponent (totalExponent m e)) :
    IsRounded (t * 2 ^ e) (ExtendedMantissa.ofMantissaAndAccuracy m acc >>> n).roundedMantissa
      (e + n) := by
  have hunits : t * 2 ^ e / 2 ^ (e + n) = t / 2 ^ n := by
    rw [zpow_add₀ two_ne_zero, zpow_natCast]
    field_simp
  obtain ⟨hnear, htie⟩ := (h.shiftRight n).roundedMantissa
  obtain ⟨hle, hlt⟩ := h.mantissa_le
  rw [mantissa_ofMantissaAndAccuracy] at hle hlt
  rw [targetExponent_eq] at hn
  refine ⟨by rwa [hunits], by rwa [hunits], by omega, ?_, ?_⟩
  · rw [hunits, le_div_iff₀ (by positivity)]
    obtain hlog | hleast : m.log2 = 52 + n ∨ e + n = -1074 := by omega
    · left
      have hm : m ≠ 0 := by
        rintro rfl
        rw [Nat.log2_zero] at hlog
        omega
      have : ((2 ^ (52 + n) : ℕ) : ℚ) ≤ m := by exact_mod_cast hlog ▸ Nat.log2_self_le hm
      rw [← pow_add]
      push_cast at this
      linarith
    · exact .inr hleast
  · rw [hunits, div_lt_iff₀ (by positivity), ← pow_add]
    have hsucc : m + 1 ≤ 2 ^ (53 + n) :=
      Nat.lt_log2_self.trans_le (Nat.pow_le_pow_right two_pos (by omega))
    have : ((m : ℚ) + 1) ≤ 2 ^ (53 + n) := by exact_mod_cast hsucc
    linarith

theorem IsRounded.le (h : IsRounded q r e) : r ≤ 2 ^ 53 := by
  have hnear := (abs_le.mp h.near).1
  have hlt := h.lt
  have : (r : ℚ) < (2 ^ 53 + 1 : ℕ) := by push_cast; linarith
  exact Nat.lt_succ_iff.mp (by exact_mod_cast this)

theorem IsRounded.full_or (h : IsRounded q r e) : 2 ^ 52 ≤ r ∨ e = -1074 := by
  refine h.full.imp_left fun hfull => ?_
  have hnear := (abs_le.mp h.near).2
  have : ((2 ^ 52 : ℕ) : ℚ) < r + 1 := by push_cast; linarith
  exact Nat.lt_succ_iff.mp (by exact_mod_cast this)

theorem log2_le_of_lt {m : ℕ} (hm : m < 2 ^ 53) : m.log2 ≤ 52 := by
  by_cases h : m = 0
  · simp [h]
  · have := (Nat.log2_lt h).mpr hm
    omega

theorem shiftToTargetExponent_eq {n : ℕ} {acc : Accuracy}
    (hn : (Format.binary64.targetExponent (totalExponent m e) - e).toNat = n) :
    shiftToTargetExponent Format.binary64 m e acc =
      (ExtendedMantissa.ofMantissaAndAccuracy m acc >>> n, e + n) := by
  rw [shiftToTargetExponent, shiftToExponent, hn]

/-- A significand that fits stays as it is, and the one that rounding has made too long is
halved. -/
theorem IsRounded.shift (h : IsRounded q r e) :
    shiftToTargetExponent Format.binary64 r e .exact =
      if r < 2 ^ 53 then (⟨r, false, false⟩, e) else (⟨2 ^ 52, false, false⟩, e + 1) := by
  have hle := h.le
  have hleast := h.least_le
  split_ifs with hlt
  · have hlog := log2_le_of_lt hlt
    rw [shiftToTargetExponent_eq (n := 0) (by rw [targetExponent_eq]; omega)]
    exact congrArg (Prod.mk _) (add_zero e)
  · obtain rfl : r = 2 ^ 53 := by omega
    rw [shiftToTargetExponent_eq (n := 1) (by rw [targetExponent_eq, Nat.log2_two_pow]; omega)]
    rfl

theorem roundWithAccuracy_eq {acc : Accuracy} {n : ℕ}
    (hn : e + n = Format.binary64.targetExponent (totalExponent m e))
    (hr : r = (ExtendedMantissa.ofMantissaAndAccuracy m acc >>> n).roundedMantissa)
    (h : IsRounded q r (e + n)) :
    roundWithAccuracy Format.binary64 .positive m e acc =
      if hzero : r = 0 then .zero .positive
      else if r < 2 ^ 53 then .finite .positive r (e + n) (Nat.pos_of_ne_zero hzero)
      else .finite .positive (2 ^ 52) (e + n + 1) (by decide) := by
  rw [roundWithAccuracy, shiftToTargetExponent_eq (n := n) (by omega)]
  dsimp only
  rw [← hr, h.shift]
  by_cases hzero : r = 0
  · subst hzero
    rfl
  · by_cases hlt : r < 2 ^ 53
    · simp only [hlt, hzero, ↓reduceIte, ↓reduceDIte]
    · simp only [hlt, hzero, ↓reduceIte, ↓reduceDIte]
      rfl

/-- Where the exponent is too great for doubles, infinity is packed. -/
theorem stands_pack_of_great (hm : 0 < m) (he : 972 ≤ e) :
    Stands (.ofModel (.pack (.finite .positive m e hm))) (2 ^ 52) 972 := by
  have hword : UnpackedFloat.pack Format.binary64 (.finite .positive m e hm) =
      UnpackedFloat.pack Format.binary64 (.finite .positive (2 ^ 52) 972 (by decide)) := by
    rw [pack_finite, pack_finite, if_pos (by omega), if_pos (by omega)]
  have hmodel : Float.Model.pack (.finite .positive m e hm) =
      .pack (.finite .positive (2 ^ 52) 972 (by decide)) := by
    simp only [Float.Model.pack, hword]
  rw [hmodel]
  exact stands_pack ⟨by decide, by decide, by decide, by decide⟩ (by decide)

theorem stands_zero : Stands (.ofModel (.pack (.zero .positive))) 0 (-1074) :=
  .finite (by decide)

theorem IsRounded.infinity_le (h : IsRounded q r e) (he : 972 ≤ e) :
    scaled (2 ^ 52) 972 ≤ q := by
  refine le_trans ?_ (h.full_le (by omega))
  rw [scaled, scaled]
  gcongr
  norm_num

/-- What rounding packs is the nearest double. -/
theorem Represents.isNearest_round {acc : Accuracy} {t : ℚ}
    (h : Represents (.ofMantissaAndAccuracy m acc) t)
    (he : e ≤ Format.binary64.targetExponent (totalExponent m e)) :
    IsNearest (t * 2 ^ e)
      (.ofModel (.pack (roundWithAccuracy Format.binary64 .positive m e acc))) := by
  obtain ⟨n, hn⟩ := Int.le.dest he
  have hrounded := h.isRounded hn
  generalize hr : (ExtendedMantissa.ofMantissaAndAccuracy m acc >>> n).roundedMantissa = r
    at hrounded
  rw [roundWithAccuracy_eq hn hr.symm hrounded]
  have hfull := hrounded.full_or
  have hleast := hrounded.least_le
  generalize e + (n : ℤ) = e' at *
  generalize t * 2 ^ e = q at *
  by_cases hgreat : 972 ≤ e'
  · refine isNearest_infinity ?_ (hrounded.infinity_le hgreat)
    rw [dif_neg (by omega)]
    split_ifs
    · exact stands_pack_of_great _ hgreat
    · exact stands_pack_of_great _ (by omega)
  · split_ifs with hzero hlt
    · subst hzero
      obtain rfl : e' = -1074 := by omega
      exact hrounded.isNearest stands_zero rfl id
    · exact hrounded.isNearest (stands_pack ⟨hlt, hleast, hfull, by omega⟩ _) rfl id
    · obtain rfl : r = 2 ^ 53 := by have := hrounded.le; omega
      refine hrounded.isNearest (stands_pack ⟨by decide, by omega, .inl le_rfl, by omega⟩ _) ?_
        fun _ => by decide
      exact (scaled_mul_two_pow (2 ^ 52) 1 e').symm

/-! ## Products and quotients -/

theorem isNearest_mul (hm : 0 < m) (hk : 0 < k) (hfull : 2 ^ 52 ≤ m * k) :
    IsNearest (scaled m e * scaled k f)
      (.ofModel (.pack (UnpackedFloat.mul Format.binary64 (.finite .positive m e hm)
        (.finite .positive k f hk)))) := by
  have hlog := (Nat.le_log2 (by omega)).mpr hfull
  have h := (represents_exact (m * k)).isNearest_round (e := e + f)
    (by rw [targetExponent_eq]; omega)
  rwa [Nat.cast_mul, zpow_add₀ two_ne_zero, mul_mul_mul_comm] at h

/-- Enough digits in front make a quotient that fills a significand. -/
theorem le_log2_div {s : ℕ} (hm : 0 < m) (hk : 0 < k) (h : k.log2 + 53 ≤ m.log2 + s) :
    52 ≤ (m <<< s / k).log2 := by
  have hquotient : 2 ^ 52 ≤ m <<< s / k := by
    rw [Nat.le_div_iff_mul_le hk, Nat.shiftLeft_eq]
    calc 2 ^ 52 * k ≤ 2 ^ 52 * 2 ^ (k.log2 + 1) := by
          gcongr
          exact Nat.lt_log2_self.le
      _ = 2 ^ (k.log2 + 53) := by rw [← pow_add]; congr 1; omega
      _ ≤ 2 ^ (m.log2 + s) := Nat.pow_le_pow_right two_pos h
      _ = 2 ^ m.log2 * 2 ^ s := pow_add ..
      _ ≤ m * 2 ^ s := by
          gcongr
          exact Nat.log2_self_le hm.ne'
  exact (Nat.le_log2 (by omega)).mpr hquotient

theorem isNearest_div (hm : 0 < m) (hk : 0 < k) :
    IsNearest (scaled m e / scaled k f)
      (.ofModel (.pack (UnpackedFloat.div Format.binary64 (.finite .positive m e hm)
        (.finite .positive k f hk)))) := by
  obtain ⟨g, hg⟩ : ∃ g, g = min (e - f) (Format.binary64.targetExponent
    (totalExponent m e - totalExponent k f)) := ⟨_, rfl⟩
  obtain ⟨s, hs⟩ : ∃ s : ℕ, g + s = e - f := Int.le.dest (hg ▸ min_le_left ..)
  have hcore : divCore Format.binary64 m e k f =
      (m <<< s / k, g, accuracyOfFraction (m <<< s % k) k) := by
    rw [divCore, ← hg, show (e - f - g).toNat = s by omega]
  have htarget : g ≤ Format.binary64.targetExponent (totalExponent (m <<< s / k) g) := by
    have hlog := le_log2_div (s := s) hm hk
    rw [Format.targetExponent, totalExponent, totalExponent] at hg
    rw [targetExponent_eq]
    change g = min (e - f) (max (m.log2 + 1 + e - (k.log2 + 1 + f) - 53) (-1074)) at hg
    omega
  have h := (represents_quotient (m <<< s) hk).isNearest_round htarget
  have hvalue : ((m <<< s : ℕ) : ℚ) / k * 2 ^ g = scaled m e / scaled k f := by
    have hsum : (2 : ℚ) ^ e = 2 ^ g * 2 ^ s * 2 ^ f := by
      rw [← zpow_natCast, ← zpow_add₀ two_ne_zero, ← zpow_add₀ two_ne_zero]
      congr 1
      omega
    rw [scaled, scaled, hsum, Nat.shiftLeft_eq, Nat.cast_mul, Nat.cast_pow, Nat.cast_ofNat]
    field_simp
  rw [hvalue] at h
  rw [UnpackedFloat.div, hcore]
  exact h

/-- A number that is a double is the nearest double to itself. -/
theorem IsNearest.stands (h : IsNearest (scaled m e) x) (hm : 0 < m) (hshape : IsShape m e) :
    Stands x m e := by
  obtain ⟨k, f, hx, hnear⟩ := h
  have hy := stands_pack hshape hm
  have hle := (hnear _ _ _ hy).1
  rw [sub_self, abs_zero, abs_nonpos_iff, sub_eq_zero] at hle
  rwa [hx.eq_of_scaled_eq hy hle.symm]

/-- A finite double with a full significand. -/
structure IsNormal (x : Float) (m : ℕ) (e : ℤ) : Prop where
  stands : Stands x m e
  full : 2 ^ 52 ≤ m
  isFinite : e < 972

theorem IsNormal.pos (h : IsNormal x m e) : 0 < m :=
  lt_of_lt_of_le (by decide) h.full

theorem IsNormal.mul (hx : IsNormal x m e) (hy : IsNormal y k f) :
    IsNearest (scaled m e * scaled k f) (x * y) := by
  have hfull : 2 ^ 52 ≤ m * k := hx.full.trans (Nat.le_mul_of_pos_right m hy.pos)
  have h := isNearest_mul (e := e) (f := f) hx.pos hy.pos hfull
  rwa [← unpack_of_stands hx.stands hx.pos hx.isFinite,
    ← unpack_of_stands hy.stands hy.pos hy.isFinite] at h

theorem IsNormal.div (hx : IsNormal x m e) (hy : IsNormal y k f) :
    IsNearest (scaled m e / scaled k f) (x / y) := by
  have h := isNearest_div (e := e) (f := f) hx.pos hy.pos
  rwa [← unpack_of_stands hx.stands hx.pos hx.isFinite,
    ← unpack_of_stands hy.stands hy.pos hy.isFinite] at h

/-- A number with zeros behind it up to 53 binary digits. -/
theorem full_of_log2 {n s : ℕ} (hn : 0 < n) (hs : n.log2 + s = 52) :
    2 ^ 52 ≤ n * 2 ^ s ∧ n * 2 ^ s < 2 ^ 53 := by
  constructor
  · calc 2 ^ 52 = 2 ^ n.log2 * 2 ^ s := by rw [← pow_add, hs]
      _ ≤ n * 2 ^ s := Nat.mul_le_mul_right _ (Nat.log2_self_le hn.ne')
  · calc n * 2 ^ s < 2 ^ (n.log2 + 1) * 2 ^ s :=
          Nat.mul_lt_mul_of_pos_right Nat.lt_log2_self (by positivity)
      _ = 2 ^ 53 := by rw [← pow_add, show n.log2 + 1 + s = 53 by omega]

theorem ofUInt64_eq_round {n s : ℕ} (hn : 0 < n) (hlt : n < 2 ^ 53) (hs : n.log2 + s = 52) :
    UnpackedFloat.ofUInt64 Format.binary64 n.toUInt64 =
      roundWithAccuracy Format.binary64 .positive (n * 2 ^ s) (-(s : ℤ)) .exact := by
  have hvalue : n.toUInt64.toNat = n := UInt64.toNat_ofNat_of_lt' (hlt.trans (by decide))
  have hcompare : compare (n : ℤ) 0 = .gt := compare_gt_iff_gt.mpr (by omega)
  have hshift : ((0 : ℤ) - max ((n.log2 : ℤ) + 1 + 0 - 53) (-1074)).toNat = s := by omega
  rw [UnpackedFloat.ofUInt64, UnpackedFloat.ofNat, UnpackedFloat.ofInt, hvalue,
    UnpackedFloat.normalize, hcompare]
  dsimp only
  rw [UnpackedFloat.round, decreaseExponent, Int.toNat_natCast, targetExponent_eq, hshift,
    Nat.shiftLeft_eq, zero_sub]

theorem isNormal_toFloat {n : ℕ} (hn : 0 < n) (hlt : n < 2 ^ 53) :
    ∃ m e, IsNormal n.toUInt64.toFloat m e ∧ scaled m e = n := by
  obtain ⟨s, hs⟩ := Nat.exists_eq_add_of_le (log2_le_of_lt hlt)
  obtain ⟨hlow, hhigh⟩ := full_of_log2 hn hs.symm
  have hm : 0 < n * 2 ^ s := by positivity
  have hlog := (Nat.le_log2 hm.ne').mpr hlow
  have hnearest := (represents_exact (n * 2 ^ s)).isNearest_round (e := -(s : ℤ))
    (by rw [targetExponent_eq]; omega)
  have hshape : IsShape (n * 2 ^ s) (-(s : ℤ)) := ⟨hhigh, by omega, .inl hlow, by omega⟩
  refine ⟨n * 2 ^ s, -(s : ℤ), ⟨?_, hlow, by omega⟩, ?_⟩
  · rw [UInt64.toFloat, Float.Model.ofUInt64, ofUInt64_eq_round hn hlt hs.symm]
    exact IsNearest.stands hnearest hm hshape
  · rw [scaled_mul_two_pow, neg_add_cancel, scaled, zpow_zero, mul_one]

/-! ## Numbers in decimal -/

/-- The powers of ten that the library keeps are exact. -/
theorem isNormal_powerOfTen {i : ℕ} (hi : i < Float.exactlyRepresentablePowersOfTen.size) :
    ∃ m e, IsNormal Float.exactlyRepresentablePowersOfTen[i] m e ∧ scaled m e = 10 ^ i := by
  have htable : ∀ (i : ℕ) (hi : i < Float.exactlyRepresentablePowersOfTen.size),
      (5 ^ i).log2 ≤ 52 ∧ ofFloat Float.exactlyRepresentablePowersOfTen[i] =
        .finite false (5 ^ i * 2 ^ (52 - (5 ^ i).log2)) (i + (5 ^ i).log2 - 52) := by
    decide +kernel
  obtain ⟨hlog, hfloat⟩ := htable i hi
  obtain ⟨s, hs⟩ := Nat.exists_eq_add_of_le hlog
  have hexponent : (i : ℤ) + Nat.log2 (5 ^ i) - 52 = i - s := by omega
  rw [Nat.sub_eq_of_eq_add' hs, hexponent] at hfloat
  have hlast : i < 23 := hi
  refine ⟨_, _, ⟨.finite hfloat, (full_of_log2 (by positivity) hs.symm).1, by omega⟩, ?_⟩
  rw [scaled_mul_two_pow, sub_add_cancel, scaled, zpow_natCast, Nat.cast_pow, ← mul_pow]
  norm_num

/-- Read through the model of doubles, a number in decimal gives the nearest double. The bounds are
those behind which the model does not take the power. -/
theorem isNearest_model {n : ℕ} {place : ℤ} (hn : n ≠ 0) (hgreatest : place ≤ 2048)
    (hleast : -(2048 + (n.log2 : ℤ)) ≤ place) :
    IsNearest (n * 10 ^ place) (.ofModel (.ofScientific n place)) := by
  have hpos := Nat.pos_of_ne_zero hn
  have hten (i : ℕ) : scaled (10 ^ i) 0 = 10 ^ i := by
    rw [scaled, zpow_zero, mul_one, Nat.cast_pow, Nat.cast_ofNat]
  rw [Float.Model.ofScientific, UnpackedFloat.ofScientific, dif_neg hn,
    if_neg (by simpa using hgreatest), if_neg (by simpa using hleast)]
  split_ifs with hplace
  · have hnumber : scaled (n <<< 53) (-53) = n := by
      rw [Nat.shiftLeft_eq, scaled_mul_two_pow]
      simp [scaled]
    have hpower : (10 : ℚ) ^ place = 10 ^ place.toNat := by
      rw [← zpow_natCast, Int.toNat_of_nonneg hplace]
    have hlong : 2 ^ 52 ≤ n <<< 53 * 10 ^ place.toNat := by
      rw [Nat.shiftLeft_eq]
      calc 2 ^ 52 ≤ 1 * 2 ^ 53 * 1 := by decide
        _ ≤ n * 2 ^ 53 * 10 ^ place.toNat := by
          gcongr
          · exact hpos
          · exact Nat.one_le_pow _ _ (by decide)
    have h := isNearest_mul (e := -53) (f := 0) (Nat.pos_of_ne_zero (by simpa using hn))
      (Nat.pow_pos (by decide)) hlong
    rw [hnumber, hten, ← hpower] at h
    exact h
  · have hnumber : scaled n 0 = n := by rw [scaled, zpow_zero, mul_one]
    have hpower : (10 : ℚ) ^ place = (10 ^ (-place).toNat)⁻¹ := by
      rw [← zpow_natCast, Int.toNat_of_nonneg (by omega), zpow_neg, inv_inv]
    have hten' : 0 < 10 ^ (-place).toNat := Nat.pow_pos (by decide)
    have h := isNearest_div (e := 0) (f := 0) hpos hten'
    rw [hnumber, hten, div_eq_mul_inv, ← hpower] at h
    exact h

theorem signed_natAbs (place : ℤ) :
    (if decide (place < 0) then Int.negOfNat place.natAbs else Int.ofNat place.natAbs) = place := by
  by_cases hplace : place < 0
  · rw [decide_eq_true hplace, if_pos rfl, Int.negOfNat_eq]
    change -(place.natAbs : ℤ) = place
    omega
  · rw [decide_eq_false hplace, if_neg Bool.false_ne_true]
    exact Int.natAbs_of_nonneg (by omega)

/-- Short numbers and small powers are multiplied or divided as doubles, all others go through the
model. -/
theorem isNearest_ofScientific {n : ℕ} {place : ℤ} (hn : n ≠ 0) (hgreatest : place ≤ 2048)
    (hleast : -(2048 + (n.log2 : ℤ)) ≤ place) :
    IsNearest (n * 10 ^ place) (Float.ofScientific n (decide (place < 0)) place.natAbs) := by
  rw [Float.ofScientific]
  by_cases hfast : n < 2 ^ 53 ∧ place.natAbs ≤ 22
  · rw [dif_pos hfast]
    obtain ⟨m, e, hx, hvalue⟩ := isNormal_toFloat (Nat.pos_of_ne_zero hn) hfast.1
    obtain ⟨k, f, hy, hpower⟩ := isNormal_powerOfTen (Nat.lt_succ_of_le hfast.2)
    rw [← hvalue]
    by_cases hplace : place < 0
    · have hinv : (10 : ℚ) ^ place = (scaled k f)⁻¹ := by
        rw [hpower, ← zpow_natCast, ← zpow_neg]
        congr 1
        omega
      rw [decide_eq_true hplace, if_pos rfl, hinv, ← div_eq_mul_inv]
      exact hx.div hy
    · have hpow : (10 : ℚ) ^ place = scaled k f := by
        rw [hpower, ← zpow_natCast]
        congr 1
        omega
      rw [decide_eq_false hplace, if_neg Bool.false_ne_true, hpow]
      exact hx.mul hy
  · rw [dif_neg hfast, signed_natAbs]
    exact isNearest_model hn hgreatest hleast

end Binary64

namespace Number

open Binary64

theorem digitsOf_bounds {n : ℕ} (hn : n ≠ 0) :
    10 ^ ((Text.digitsOf n).length - 1) ≤ n ∧ n < 10 ^ (Text.digitsOf n).length := by
  have hpos : 0 < (Text.digitsOf n).length := Nat.length_toDigits_pos
  have hiff {i : ℕ} (hi : 0 < i) : (Text.digitsOf n).length ≤ i ↔ n < 10 ^ i :=
    Nat.length_toDigits_le_iff (by decide) hi
  refine ⟨?_, (hiff hpos).mp le_rfl⟩
  obtain hone | htwo : (Text.digitsOf n).length - 1 = 0 ∨ 0 < (Text.digitsOf n).length - 1 := by
    omega
  · rw [hone, pow_zero]
    omega
  · by_contra hlt
    have := (hiff htwo).mpr (not_le.mp hlt)
    omega

/-- The place of the first digit bounds a number on both sides. -/
theorem decimal_bounds {n : ℕ} (hn : n ≠ 0) (place : ℤ) :
    (10 : ℚ) ^ ((Text.digitsOf n).length + place - 1) ≤ n * 10 ^ place ∧
      (n : ℚ) * 10 ^ place < 10 ^ ((Text.digitsOf n).length + place) := by
  obtain ⟨hlow, hhigh⟩ := digitsOf_bounds hn
  have hpos : 0 < (Text.digitsOf n).length := Nat.length_toDigits_pos
  constructor
  · calc (10 : ℚ) ^ ((Text.digitsOf n).length + place - 1)
        = (10 ^ ((Text.digitsOf n).length - 1) : ℕ) * 10 ^ place := by
          rw [Nat.cast_pow, Nat.cast_ofNat, ← zpow_natCast, ← zpow_add₀ (by norm_num)]
          congr 1
          omega
      _ ≤ n * 10 ^ place := by gcongr
  · calc (n : ℚ) * 10 ^ place < (10 ^ (Text.digitsOf n).length : ℕ) * 10 ^ place := by gcongr
      _ = 10 ^ ((Text.digitsOf n).length + place) := by
          rw [Nat.cast_pow, Nat.cast_ofNat, ← zpow_natCast, ← zpow_add₀ (by norm_num)]

theorem stands_float_zero : Stands 0.0 0 (-1074) := .finite (by decide +kernel)

theorem stands_float_infinity : Stands (1.0 / 0.0) (2 ^ 52) 972 := .infinite (by decide +kernel)

/-- Less than half of the least double is nearest to zero. -/
theorem isNearest_zero {q : ℚ} (hnonneg : 0 ≤ q) (hlt : q < 2 ^ (-1075 : ℤ)) :
    IsNearest q 0.0 := by
  have hhalf : q / 2 ^ (-1074 : ℤ) < 1 / 2 := by
    have : (2 : ℚ) ^ (-1075 : ℤ) = 1 / 2 * 2 ^ (-1074 : ℤ) := by
      rw [one_div, ← zpow_neg_one, ← zpow_add₀ two_ne_zero]
      rfl
    rwa [div_lt_iff₀ (by positivity), ← this]
  have hunits : 0 ≤ q / 2 ^ (-1074 : ℤ) := by positivity
  have hrounded : IsRounded q 0 (-1074) := by
    refine ⟨?_, fun _ => Even.zero, le_rfl, .inr rfl, by linarith⟩
    rw [Nat.cast_zero, sub_zero, abs_of_nonneg hunits]
    exact hhalf.le
  exact hrounded.isNearest stands_float_zero rfl id

/-- The reader of decimals gives the nearest double, however far the number is from all doubles. -/
theorem isNearest_nearest (n : ℕ) (place : ℤ) : IsNearest (n * 10 ^ place) (nearest n place) := by
  by_cases hzero : n = 0
  · rw [nearest, if_pos (.inl hzero), hzero, Nat.cast_zero, zero_mul]
    exact isNearest_zero le_rfl (by positivity)
  obtain ⟨hlow, hhigh⟩ := decimal_bounds hzero place
  rw [nearest]
  split_ifs with hsmall hgreat
  · refine isNearest_zero (by positivity) (hhigh.trans_le ?_)
    calc (10 : ℚ) ^ ((Text.digitsOf n).length + place) ≤ 10 ^ (-331 : ℤ) := by
          gcongr
          · norm_num
          · omega
      _ ≤ 2 ^ (-1075 : ℤ) := by
          have : (2 : ℚ) ^ 1075 ≤ 10 ^ 331 := by
            exact_mod_cast (by decide +kernel : 2 ^ 1075 ≤ 10 ^ 331)
          rw [zpow_neg, zpow_neg]
          exact inv_anti₀ (by positivity) this
  · refine isNearest_infinity stands_float_infinity (le_trans ?_ hlow)
    calc scaled (2 ^ 52) 972 ≤ 10 ^ (310 : ℤ) := by
          have : (2 : ℚ) ^ 52 * 2 ^ 972 ≤ 10 ^ 310 := by
            exact_mod_cast (by decide +kernel : 2 ^ 52 * 2 ^ 972 ≤ 10 ^ 310)
          rw [scaled, Nat.cast_pow, Nat.cast_ofNat]
          exact this
      _ ≤ 10 ^ ((Text.digitsOf n).length + place - 1) := by
          gcongr
          · norm_num
          · omega
  · have hpos : 0 < (Text.digitsOf n).length := Nat.length_toDigits_pos
    have hlog : (Text.digitsOf n).length - 1 ≤ n.log2 := by
      rw [Nat.le_log2 hzero]
      calc 2 ^ ((Text.digitsOf n).length - 1) ≤ 10 ^ ((Text.digitsOf n).length - 1) := by
            gcongr
            norm_num
        _ ≤ n := (digitsOf_bounds hzero).1
    exact isNearest_ofScientific hzero (by omega) (by omega)

end Number

end RasterOverlay
