import Mathlib
import RasterOverlay.Number.Binary64

/-!
What a double without a sign stands for, as a rational number, and which double is the nearest to a
rational number. Infinity takes part with the value `2 ^ 1024`, where the next double would be.
-/

namespace RasterOverlay

namespace Binary64

/-! ## The words of doubles -/

/-- The significands and exponents of doubles: 53 binary digits, and fewer only at the least
exponent. The last of them belongs to infinity. -/
structure IsShape (m : ℕ) (e : ℤ) : Prop where
  lt : m < 2 ^ 53
  least_le : -1074 ≤ e
  full : 2 ^ 52 ≤ m ∨ e = -1074
  inRange : e < 972 ∨ m = 2 ^ 52 ∧ e = 972

/-- The double `x` has no minus sign and stands for `m · 2 ^ e`, infinity for `2 ^ 1024`. -/
inductive Stands (x : Float) : ℕ → ℤ → Prop
  | finite {m : ℕ} {e : ℤ} : ofFloat x = .finite false m e → Stands x m e
  | infinite : ofFloat x = .infinite false → Stands x (2 ^ 52) 972

variable {x y : Float} {m k : ℕ} {e f : ℤ}

/-- The words of the doubles without a sign are numbered in the order of their values. -/
theorem stands_iff :
    Stands x m e ↔ IsShape m e ∧ (x.toBits.toNat : ℤ) = (e + 1074) * 2 ^ 52 + m := by
  have hbits := x.toBits.toNat_lt
  constructor
  · rintro (h | h)
    · rw [ofFloat] at h
      split_ifs at h
      · obtain ⟨hsign, rfl, rfl⟩ := finite.inj h
        rw [decide_eq_false_iff_not] at hsign
        exact ⟨⟨by omega, by omega, by omega, by omega⟩, by omega⟩
      · obtain ⟨hsign, rfl, rfl⟩ := finite.inj h
        rw [decide_eq_false_iff_not] at hsign
        exact ⟨⟨by omega, by omega, by omega, by omega⟩, by omega⟩
    · rw [ofFloat] at h
      split_ifs at h
      have hsign := infinite.inj h
      rw [decide_eq_false_iff_not] at hsign
      exact ⟨⟨by omega, by omega, by omega, by omega⟩, by omega⟩
  · rintro ⟨⟨hlt, hleast, hfull, hrange⟩, hx⟩
    have hsign : decide (0x8000000000000000 ≤ x.toBits.toNat) = false := by
      rw [decide_eq_false_iff_not]
      omega
    obtain hrange | ⟨rfl, rfl⟩ := hrange
    · refine .finite ?_
      rw [ofFloat, hsign, if_neg (by omega)]
      split_ifs
      · congr 1 <;> omega
      · congr 1 <;> omega
    · refine .infinite ?_
      rw [ofFloat, hsign, if_pos (by omega), if_pos (by omega)]

theorem Stands.isShape (h : Stands x m e) : IsShape m e := (stands_iff.mp h).1

theorem Stands.inj (hx : Stands x m e) (hy : Stands y m e) : x = y := by
  have hbits : x.toBits.toNat = y.toBits.toNat := by
    have := (stands_iff.mp hx).2
    have := (stands_iff.mp hy).2
    omega
  have := UInt64.toNat_inj.mp hbits
  obtain ⟨⟨⟩⟩ := x
  obtain ⟨⟨⟩⟩ := y
  cases this
  rfl

open Float.Model Float.Model.UnpackedFloat

theorem toNat_packComponents (s : Sign) (e : BitVec 11) (m : BitVec 52) :
    (packComponents Format.binary64 s e m).toNat =
      s.toBitVec.toNat * 2 ^ 63 + e.toNat * 2 ^ 52 + m.toNat := by
  rw [packComponents, BitVec.toNat_append, BitVec.toNat_append,
    ← Nat.shiftLeft_add_eq_or_of_lt e.isLt, ← Nat.shiftLeft_add_eq_or_of_lt m.isLt,
    Nat.shiftLeft_eq, Nat.shiftLeft_eq]
  ring

theorem pack_finite (hm : 0 < m) :
    UnpackedFloat.pack Format.binary64 (.finite .positive m e hm) =
      if 2048 ≤ (e + 1023 + 52).toNat + 1 then
        packComponents Format.binary64 .positive (-1#11) 0
      else if m.log2 + 1 = 53 then
        packComponents Format.binary64 .positive (BitVec.ofNat 11 (e + 1023 + 52).toNat)
          (BitVec.ofNat 52 m)
      else packComponents Format.binary64 .positive 0#11 (BitVec.ofNat 52 m) :=
  rfl

/-- A significand and an exponent of such a shape are packed as they are. -/
theorem stands_pack (h : IsShape m e) (hm : 0 < m) :
    Stands (.ofModel (.pack (.finite .positive m e hm))) m e := by
  refine stands_iff.mpr ⟨h, ?_⟩
  obtain ⟨hlt, hleast, hfull, hrange⟩ := h
  change ((UnpackedFloat.pack Format.binary64 (.finite .positive m e hm)).toNat : ℤ) = _
  have hlog : m.log2 + 1 = 53 ↔ 2 ^ 52 ≤ m := by
    have := Nat.le_log2 (k := 52) hm.ne'
    have := Nat.log2_lt (k := 53) hm.ne'
    omega
  have hsign : (Sign.positive.toBitVec).toNat = 0 := rfl
  rw [pack_finite]
  split_ifs with hinfinite hnormal
  · rw [toNat_packComponents, hsign]
    simp only [BitVec.reduceNeg, BitVec.reduceToNat]
    omega
  · rw [toNat_packComponents, hsign, BitVec.toNat_ofNat, BitVec.toNat_ofNat]
    omega
  · rw [toNat_packComponents, hsign, BitVec.toNat_ofNat, BitVec.toNat_ofNat]
    omega

theorem toNat_unpackMantissa (b : BitVec 64) :
    (@unpackMantissa Format.binary64 b).toNat = b.toNat % 2 ^ 52 := by
  simp [unpackMantissa]

theorem toNat_unpackExponent (b : BitVec 64) :
    (@unpackExponent Format.binary64 b).toNat = b.toNat / 2 ^ 52 % 2 ^ 11 := by
  simp [unpackExponent, Nat.shiftRight_eq_div_pow]

theorem toNat_unpackSign (b : BitVec 64) :
    (@unpackSign Format.binary64 b).toNat = b.toNat / 2 ^ 63 % 2 := by
  simp [unpackSign, Nat.shiftRight_eq_div_pow]

/-- The arithmetic of the library takes a double apart as `ofFloat` does. -/
theorem unpack_of_stands (h : Stands x m e) (hm : 0 < m) (he : e < 972) :
    x.toModel.unpack = .finite .positive m e hm := by
  obtain ⟨⟨hlt, hleast, hfull, -⟩, hword⟩ := stands_iff.mp h
  obtain ⟨b, hb⟩ : ∃ b, b = x.toModel.toBits.toBitVec := ⟨_, rfl⟩
  have hbits : (b.toNat : ℤ) = (e + 1074) * 2 ^ 52 + m := hb ▸ hword
  have hpositive : @unpackSign Format.binary64 b = 0#1 :=
    BitVec.eq_of_toNat_eq (by rw [toNat_unpackSign, BitVec.toNat_zero]; omega)
  have hfinite : @unpackExponent Format.binary64 b ≠ -1#11 := by
    rw [Ne, ← BitVec.toNat_inj, toNat_unpackExponent]
    simp only [BitVec.reduceNeg, BitVec.reduceToNat]
    omega
  rw [Float.Model.unpack, ← hb, UnpackedFloat.unpack, hpositive, if_neg hfinite]
  have hleastIff : @unpackExponent Format.binary64 b = 0#11 ↔ b.toNat / 2 ^ 52 % 2 ^ 11 = 0 := by
    rw [← BitVec.toNat_inj, toNat_unpackExponent, BitVec.toNat_zero]
  have hexponent (n : ℕ) : (n : ℤ) - (Format.binary64.exponentBias + 52 : ℤ) = n - 1075 := by
    rw [show (Format.binary64.exponentBias : ℤ) = 1023 from rfl]
    omega
  split_ifs with hsubnormal hzero
  · rw [← BitVec.toNat_inj, toNat_unpackMantissa, BitVec.toNat_zero] at hzero
    rw [hleastIff] at hsubnormal
    omega
  · rw [hleastIff] at hsubnormal
    congr 1
    · rw [toNat_unpackMantissa]
      omega
    · rw [toNat_unpackExponent]
      change ((b.toNat / 2 ^ 52 % 2 ^ 11 : ℕ) : ℤ) - (Format.binary64.exponentBias + 52 : ℤ) + 1 = e
      rw [hexponent]
      omega
  · rw [hleastIff] at hsubnormal
    congr 1
    · rw [BitVec.toNat_append, ← Nat.shiftLeft_add_eq_or_of_lt (BitVec.isLt _),
        toNat_unpackMantissa, BitVec.toNat_ofNat, Nat.shiftLeft_eq]
      change 1 % 2 ^ 1 * 2 ^ 52 + b.toNat % 2 ^ 52 = m
      omega
    · rw [toNat_unpackExponent]
      exact (hexponent _).trans (by omega)

/-! ## The nearest double -/

/-- What a significand and an exponent stand for. -/
def scaled (m : ℕ) (e : ℤ) : ℚ := m * 2 ^ e

/-- `x` is the double nearest to `q`. Of two that are equally near it is the one with the even
significand. -/
def IsNearest (q : ℚ) (x : Float) : Prop :=
  ∃ m e, Stands x m e ∧ ∀ y k f, Stands y k f →
    |q - scaled m e| ≤ |q - scaled k f| ∧
      (|q - scaled m e| = |q - scaled k f| → x = y ∨ Even m)

theorem scaled_lt_scaled_iff : scaled m e < scaled k e ↔ m < k := by
  rw [scaled, scaled, mul_lt_mul_iff_left₀ (by positivity), Nat.cast_lt]

theorem scaled_le_scaled_iff : scaled m e ≤ scaled k e ↔ m ≤ k := by
  rw [scaled, scaled, mul_le_mul_iff_left₀ (by positivity), Nat.cast_le]

/-- The same number in smaller units. -/
theorem scaled_mul_two_pow (m n : ℕ) (e : ℤ) : scaled (m * 2 ^ n) e = scaled m (e + n) := by
  rw [scaled, scaled, Nat.cast_mul, Nat.cast_pow, Nat.cast_ofNat, zpow_add₀ two_ne_zero,
    zpow_natCast]
  ring

/-- A greater exponent makes a greater double, since all its significands are full. -/
theorem IsShape.scaled_lt (h : IsShape m e) (hef : e < f) : scaled m e < scaled (2 ^ 52) f := by
  obtain ⟨n, rfl⟩ : ∃ n : ℕ, f = e + (n + 1 : ℕ) := ⟨(f - e - 1).toNat, by omega⟩
  rw [← scaled_mul_two_pow, scaled_lt_scaled_iff]
  calc m < 2 ^ 52 * 2 ^ 1 := h.lt
    _ ≤ 2 ^ 52 * 2 ^ (n + 1) := by gcongr <;> omega

theorem IsShape.exponent_le (hx : IsShape m e) (hy : IsShape k f) (h : scaled m e ≤ scaled k f) :
    e ≤ f := by
  by_contra hfe
  have hfull : 2 ^ 52 ≤ m := by
    have := hy.least_le
    have := hx.full
    omega
  have := hy.scaled_lt (not_le.mp hfe)
  have := scaled_le_scaled_iff (e := e).mpr hfull
  linarith

/-- Different doubles stand for different numbers. -/
theorem Stands.eq_of_scaled_eq (hx : Stands x m e) (hy : Stands y k f)
    (h : scaled m e = scaled k f) : x = y := by
  obtain rfl : e = f :=
    le_antisymm (hx.isShape.exponent_le hy.isShape h.le) (hy.isShape.exponent_le hx.isShape h.ge)
  obtain rfl : m = k :=
    le_antisymm (scaled_le_scaled_iff.mp h.le) (scaled_le_scaled_iff.mp h.ge)
  exact hx.inj hy

/-- Behind a double with an even significand comes one with an odd significand. -/
theorem IsShape.succ (h : IsShape m e) (hm : Even m) (he : e < 972) : IsShape (m + 1) e where
  lt := by
    have := h.lt
    grind
  least_le := h.least_le
  full := h.full.imp_left Nat.le_succ_of_le
  inRange := .inl he

theorem IsShape.odd_between (hx : IsShape m e) (hy : IsShape k f) (hm : Even m) (hk : Even k)
    (h : scaled m e < scaled k f) : IsShape (m + 1) e ∧ scaled (m + 1) e < scaled k f := by
  obtain rfl | hlt := (hx.exponent_le hy h.le).eq_or_lt
  · have hmk := scaled_lt_scaled_iff.mp h
    have hsucc : m + 1 < k := by grind
    have hrange : e < 972 := by
      have := hx.inRange
      have := hy.inRange
      omega
    exact ⟨hx.succ hm hrange, scaled_lt_scaled_iff.mpr hsucc⟩
  · have hrange : e < 972 := by
      have := hy.inRange
      omega
    have hfull : 2 ^ 52 ≤ k := by
      have := hx.least_le
      have := hy.full
      omega
    exact ⟨hx.succ hm hrange,
      ((hx.succ hm hrange).scaled_lt hlt).trans_le (scaled_le_scaled_iff.mpr hfull)⟩

/-- Halfway between two doubles with even significands, a third one is nearer. -/
theorem Stands.exists_nearer {q : ℚ} (hx : Stands x m e) (hy : Stands y k f) (hm : Even m)
    (hk : Even k) (hlt : scaled m e < scaled k f)
    (heq : |q - scaled m e| = |q - scaled k f|) :
    ∃ z j g, Stands z j g ∧ |q - scaled j g| < |q - scaled m e| := by
  obtain ⟨hshape, hbelow⟩ := hx.isShape.odd_between hy.isShape hm hk hlt
  have habove : scaled m e < scaled (m + 1) e := scaled_lt_scaled_iff.mpr (Nat.lt_succ_self m)
  refine ⟨_, m + 1, e, stands_pack hshape (Nat.succ_pos m), ?_⟩
  have hmiddle : 2 * q = scaled m e + scaled k f := by
    obtain h | h := abs_eq_abs.mp heq
    · linarith
    · linarith
  rw [abs_of_pos (a := q - scaled m e) (by linarith), abs_lt]
  constructor <;> linarith

theorem IsNearest.unique {q : ℚ} (hx : IsNearest q x) (hy : IsNearest q y) : x = y := by
  obtain ⟨m, e, hxm, hxnear⟩ := hx
  obtain ⟨k, f, hyk, hynear⟩ := hy
  have heq : |q - scaled m e| = |q - scaled k f| :=
    le_antisymm (hxnear y k f hyk).1 (hynear x m e hxm).1
  obtain rfl | hm := (hxnear y k f hyk).2 heq
  · rfl
  obtain rfl | hk := (hynear x m e hxm).2 heq.symm
  · rfl
  obtain hlt | hvalue | hlt := lt_trichotomy (scaled m e) (scaled k f)
  · obtain ⟨z, j, g, hz, hnearer⟩ := hxm.exists_nearer hyk hm hk hlt heq
    exact absurd (hxnear z j g hz).1 (not_le.mpr hnearer)
  · exact hxm.eq_of_scaled_eq hyk hvalue
  · obtain ⟨z, j, g, hz, hnearer⟩ := hyk.exists_nearer hxm hk hm hlt heq.symm
    exact absurd (hynear z j g hz).1 (not_le.mpr hnearer)

end Binary64

end RasterOverlay
