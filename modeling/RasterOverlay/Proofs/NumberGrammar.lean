import Mathlib
import RasterOverlay.Number.Reading
import RasterOverlay.Proofs.NearestDouble

/-!
What the texts of numbers look like. A whole number is a run of digits behind at most one sign. A
double may have a point among its digits and an exponent behind them, or it is one of three words.
The readers take these texts and no others. Digits mean the double nearest to what they write.
-/

namespace RasterOverlay

namespace Text

/-- A run of digits, which is not empty, and the number that it writes. -/
def IsDigits (s : List Char) (n : Nat) : Prop :=
  s ≠ [] ∧ (∀ c ∈ s, c.isDigit = true) ∧ n = Nat.ofDigitChars 10 s 0

/-- Digits behind at most one plus sign. -/
inductive IsNatural : List Char → Nat → Prop
  | bare {s : List Char} {n : Nat} : IsDigits s n → IsNatural s n
  | plus {s : List Char} {n : Nat} : IsDigits s n → IsNatural ('+' :: s) n

/-- Digits behind at most one sign. -/
inductive IsInteger : List Char → Int → Prop
  | natural {s : List Char} {n : Nat} : IsNatural s n → IsInteger s n
  | minus {s : List Char} {n : Nat} : IsDigits s n → IsInteger ('-' :: s) (-n)

theorem IsDigits.head {c : Char} {s : List Char} {n : Nat} (h : IsDigits (c :: s) n) :
    c.isDigit = true :=
  h.2.1 c List.mem_cons_self

theorem digitRun?_eq_some_iff {s : List Char} {n : Nat} :
    digitRun? s = some n ↔ IsDigits s n := by
  simp only [digitRun?, IsDigits]
  split
  next hfails =>
    simp only [Bool.or_eq_true, List.isEmpty_iff, Bool.not_eq_true', List.all_eq_false,
      Bool.not_eq_true] at hfails
    simp only [reduceCtorEq, false_iff, not_and]
    rintro hne hdigits
    obtain rfl | ⟨c, hc, hcd⟩ := hfails
    · exact absurd rfl hne
    · exact absurd (hdigits c hc) (by simp [hcd])
  next hholds =>
    simp only [Bool.or_eq_true, List.isEmpty_iff, Bool.not_eq_true', not_or, Bool.not_eq_false,
      List.all_eq_true] at hholds
    rw [Option.some.injEq, and_iff_right hholds.1, and_iff_right hholds.2, eq_comm]

theorem natural?_eq_some_iff {s : List Char} {n : Nat} :
    natural? s = some n ↔ IsNatural s n := by
  unfold natural?
  split
  next rest =>
    rw [digitRun?_eq_some_iff]
    constructor
    · exact .plus
    · rintro (h | h)
      · exact absurd h.head (by decide)
      · exact h
  next hplus =>
    rw [digitRun?_eq_some_iff]
    constructor
    · exact .bare
    · rintro (h | h)
      · exact h
      · exact absurd rfl (hplus _)

theorem integer?_eq_some_iff {s : List Char} {n : Int} :
    integer? s = some n ↔ IsInteger s n := by
  unfold integer?
  split
  next rest =>
    simp only [Option.bind_eq_bind, Option.pure_def, Option.map_eq_some_iff,
      Option.bind_eq_some_iff, Option.some.injEq, digitRun?_eq_some_iff]
    constructor
    · rintro ⟨_, ⟨m, h, rfl⟩, rfl⟩
      exact .minus h
    · rintro ((h | -) | h)
      · exact absurd h.head (by decide)
      · exact ⟨_, ⟨_, h, rfl⟩, rfl⟩
  next hminus =>
    simp only [Option.bind_eq_bind, Option.pure_def, Option.map_eq_some_iff,
      Option.bind_eq_some_iff, Option.some.injEq, natural?_eq_some_iff, exists_eq_right]
    constructor
    · rintro ⟨m, h, rfl⟩
      exact .natural h
    · rintro (h | h)
      · exact ⟨_, h, rfl⟩
      · exact absurd rfl (hminus _)

theorem uint32?_eq_some_iff {text : String} {n : UInt32} :
    uint32? text = some n ↔ IsNatural text.toList n.toNat := by
  simp only [uint32?, Option.bind_eq_some_iff, natural?_eq_some_iff,
    Option.ite_none_right_eq_some, Option.some.injEq]
  constructor
  · rintro ⟨m, h, hm, rfl⟩
    rwa [UInt32.toNat_ofNat_of_lt' hm]
  · intro h
    exact ⟨n.toNat, h, n.toNat_lt, UInt32.ofNat_toNat⟩

theorem int32?_eq_some_iff {text : String} {n : Int32} :
    int32? text = some n ↔ IsInteger text.toList n.toInt := by
  simp only [int32?, Option.bind_eq_some_iff, integer?_eq_some_iff,
    Option.ite_none_right_eq_some, Option.some.injEq]
  constructor
  · rintro ⟨m, h, ⟨hleast, hgreatest⟩, rfl⟩
    rwa [Int32.toInt_ofInt_of_le (by omega) (by omega)]
  · intro h
    exact ⟨n.toInt, h, ⟨n.le_toInt, n.toInt_lt⟩, Int32.ofInt_toInt n⟩

end Text

namespace Number

/-- An exponent mark with a whole number behind it, or nothing. -/
inductive IsExponent : List Char → Int → Prop
  | absent : IsExponent [] 0
  | mark {c : Char} {s : List Char} {e : Int} :
    c = 'e' ∨ c = 'E' → Text.IsInteger s e → IsExponent (c :: s) e

/-- Digits, at most one point among, before or behind them, and an exponent: the number that the
digits write and the power of ten that it is to be multiplied with. -/
inductive IsDecimal : List Char → Nat → Int → Prop
  | whole {digits exponent : List Char} {n : Nat} {e : Int} :
    Text.IsDigits digits n → IsExponent exponent e → IsDecimal (digits ++ exponent) n e
  | point {whole fraction exponent : List Char} {n : Nat} {e : Int} :
    Text.IsDigits (whole ++ fraction) n → IsExponent exponent e →
      IsDecimal (whole ++ '.' :: (fraction ++ exponent)) n (e - (fraction.length : Int))

/-- A text in the lower case of its ASCII letters. -/
def word (s : List Char) : String := String.ofList (s.map Char.toLower)

/-- One of three words, or digits for the nearest double. -/
inductive IsUnsigned : List Char → Float → Prop
  | infinity {s : List Char} : word s = "inf" ∨ word s = "infinity" → IsUnsigned s (1.0 / 0.0)
  | notNumber {s : List Char} : word s = "nan" → IsUnsigned s (0.0 / 0.0)
  | decimal {s : List Char} {n : Nat} {place : Int} {x : Float} :
    IsDecimal s n place → Binary64.IsNearest (n * 10 ^ place) x → IsUnsigned s x

/-- A double behind at most one sign. -/
inductive IsFloat : List Char → Float → Prop
  | bare {s : List Char} {x : Float} : IsUnsigned s x → IsFloat s x
  | plus {s : List Char} {x : Float} : IsUnsigned s x → IsFloat ('+' :: s) x
  | minus {s : List Char} {x : Float} : IsUnsigned s x → IsFloat ('-' :: s) (-x)

theorem exponent?_eq_some_iff {s : List Char} {e : Int} :
    exponent? s = some e ↔ IsExponent s e := by
  cases s with
  | nil =>
    simp only [exponent?, Option.some.injEq]
    constructor
    · rintro rfl
      exact .absent
    · intro h
      cases h
      rfl
  | cons c rest =>
    simp only [exponent?, Option.ite_none_right_eq_some, Text.integer?_eq_some_iff]
    constructor
    · rintro ⟨hc, h⟩
      exact .mark hc h
    · intro h
      cases h with
      | mark hc h => exact ⟨hc, h⟩

theorem IsExponent.head? {s : List Char} {e : Int} (h : IsExponent s e) :
    ∀ c ∈ s.head?, c.isDigit = false ∧ c ≠ '.' := by
  cases h with
  | absent => simp
  | mark hc _ =>
    intro c' hc'
    obtain rfl : _ = c' := by simpa using hc'
    rcases hc with rfl | rfl <;> decide

/-- A run of digits ends where the next character is none. -/
theorem span_digits {digits rest : List Char} (hdigits : ∀ c ∈ digits, c.isDigit = true)
    (hrest : ∀ c ∈ rest.head?, c.isDigit = false) :
    (digits ++ rest).takeWhile Char.isDigit = digits ∧
      (digits ++ rest).dropWhile Char.isDigit = rest := by
  rw [List.takeWhile_append_of_pos hdigits, List.dropWhile_append_of_pos hdigits]
  cases rest with
  | nil => simp
  | cons c rest => simp [hrest c rfl]

theorem decimal?_of_point {s rest : List Char} (h : s.dropWhile Char.isDigit = '.' :: rest) :
    decimal? s =
      if (s.takeWhile Char.isDigit).isEmpty && (rest.takeWhile Char.isDigit).isEmpty then none
      else (exponent? (rest.dropWhile Char.isDigit)).map fun e =>
        (Nat.ofDigitChars 10 (s.takeWhile Char.isDigit ++ rest.takeWhile Char.isDigit) 0,
          e - ((rest.takeWhile Char.isDigit).length : Int)) := by
  simp only [decimal?, h]

theorem decimal?_of_no_point {s : List Char} (h : (s.dropWhile Char.isDigit).head? ≠ some '.') :
    decimal? s =
      if (s.takeWhile Char.isDigit).isEmpty then none
      else (exponent? (s.dropWhile Char.isDigit)).map fun e =>
        (Nat.ofDigitChars 10 (s.takeWhile Char.isDigit) 0, e) := by
  -- what is left of both matches on the text behind the digits is their last branch
  have hafter : ∀ rest, s.dropWhile Char.isDigit = '.' :: rest → False := fun rest hrest =>
    h (by rw [hrest]; rfl)
  simp [decimal?]

theorem takeWhile_digits (s : List Char) : ∀ c ∈ s.takeWhile Char.isDigit, c.isDigit = true :=
  fun _ hc => List.mem_takeWhile_imp hc

theorem isDecimal_of_decimal? {s : List Char} {n : Nat} {place : Int}
    (h : decimal? s = some (n, place)) : IsDecimal s n place := by
  -- what stands behind the first digits decides which form of the grammar the text has
  by_cases hpoint : (s.dropWhile Char.isDigit).head? = some '.'
  · obtain ⟨rest, hrest⟩ := List.head?_eq_some_iff.mp hpoint
    rw [decimal?_of_point hrest, Option.ite_none_left_eq_some, Option.map_eq_some_iff] at h
    obtain ⟨hne, e, he, hvalue⟩ := h
    cases hvalue
    have hdigits : Text.IsDigits (s.takeWhile Char.isDigit ++ rest.takeWhile Char.isDigit) _ :=
      ⟨by simpa using hne,
        List.forall_mem_append.mpr ⟨takeWhile_digits s, takeWhile_digits rest⟩, rfl⟩
    have := IsDecimal.point hdigits (exponent?_eq_some_iff.mp he)
    rwa [List.takeWhile_append_dropWhile, ← hrest, List.takeWhile_append_dropWhile] at this
  · rw [decimal?_of_no_point hpoint, Option.ite_none_left_eq_some, Option.map_eq_some_iff] at h
    obtain ⟨hne, e, he, hvalue⟩ := h
    cases hvalue
    have hdigits : Text.IsDigits (s.takeWhile Char.isDigit) _ :=
      ⟨by simpa using hne, takeWhile_digits s, rfl⟩
    have := IsDecimal.whole hdigits (exponent?_eq_some_iff.mp he)
    rwa [List.takeWhile_append_dropWhile] at this

theorem decimal?_of_isDecimal {s : List Char} {n : Nat} {place : Int} (h : IsDecimal s n place) :
    decimal? s = some (n, place) := by
  cases h with
  | @whole digits exponent n e hdigits hexponent =>
    obtain ⟨hne, hall, hn⟩ := hdigits
    obtain ⟨htake, hdrop⟩ := span_digits hall fun c hc => (hexponent.head? c hc).1
    have hpoint : exponent.head? ≠ some '.' := fun hhead => (hexponent.head? '.' hhead).2 rfl
    rw [decimal?_of_no_point (by rwa [hdrop]), htake, hdrop, exponent?_eq_some_iff.mpr hexponent,
      if_neg (by simpa using hne), hn]
    rfl
  | @point whole fraction exponent n e hdigits hexponent =>
    obtain ⟨hne, hall, hn⟩ := hdigits
    obtain ⟨hwhole, hfraction⟩ := List.forall_mem_append.mp hall
    have hpoint : ∀ c ∈ ('.' :: (fraction ++ exponent)).head?, c.isDigit = false := by simp
    obtain ⟨htake, hdrop⟩ := span_digits hwhole hpoint
    obtain ⟨htake', hdrop'⟩ := span_digits hfraction fun c hc => (hexponent.head? c hc).1
    rw [decimal?_of_point hdrop, htake, htake', hdrop', exponent?_eq_some_iff.mpr hexponent,
      if_neg (by simpa using hne), hn]
    rfl

theorem decimal?_eq_some_iff {s : List Char} {n : Nat} {place : Int} :
    decimal? s = some (n, place) ↔ IsDecimal s n place :=
  ⟨isDecimal_of_decimal?, decimal?_of_isDecimal⟩

theorem word_head? (s : List Char) : (word s).toList.head? = s.head?.map Char.toLower := by
  rw [word, String.toList_ofList, List.head?_map]

theorem toLower_of_isDigit {c : Char} (h : c.isDigit = true) : c.toLower = c := by
  apply Char.toLower_eq_of_not_isUpper
  simp only [Char.isDigit, Char.isUpper, Bool.and_eq_true, decide_eq_true_eq, ge_iff_le,
    UInt32.le_iff_toNat_le, Char.reduceVal, UInt32.reduceToNat] at h ⊢
  omega

theorem IsDecimal.head? {s : List Char} {n : Nat} {place : Int} (h : IsDecimal s n place) :
    ∃ c ∈ s.head?, c.isDigit = true ∨ c = '.' := by
  cases h with
  | whole hdigits _ =>
    obtain ⟨c, rest, rfl⟩ := List.exists_cons_of_ne_nil hdigits.1
    exact ⟨c, rfl, .inl hdigits.head⟩
  | @point whole fraction _ _ _ hdigits _ =>
    cases whole with
    | nil => exact ⟨'.', rfl, .inr rfl⟩
    | cons c rest => exact ⟨c, rfl, .inl hdigits.head⟩

/-- A number in digits is not a word. -/
theorem IsDecimal.word_ne {s : List Char} {n : Nat} {place : Int} (h : IsDecimal s n place)
    {w : String} {d : Char} (hw : w.toList.head? = some d) (hd : d.isDigit = false ∧ d ≠ '.') :
    word s ≠ w := by
  rintro rfl
  -- the first character of a number in digits is its own lower case, and no letter
  obtain ⟨c, hc, hhead⟩ := h.head?
  have hlower : c.toLower = c := by
    obtain hdigit | rfl := hhead
    · exact toLower_of_isDigit hdigit
    · decide
  rw [word_head?, Option.mem_def.mp hc, Option.map_some, hlower, Option.some.injEq] at hw
  subst hw
  simp [hd] at hhead

/-- What a double without a sign begins with. -/
theorem IsUnsigned.head {c : Char} {s : List Char} {x : Float} (h : IsUnsigned (c :: s) x) :
    c.toLower = 'i' ∨ c.toLower = 'n' ∨ c.isDigit = true ∨ c = '.' := by
  have hword {w : String} (hw : word (c :: s) = w) : w.toList.head? = some c.toLower := by
    rw [← hw, word_head?, List.head?_cons, Option.map_some]
  cases h with
  | infinity hw =>
    obtain hw | hw := hw
    · exact .inl (Option.some.inj (hword hw)).symm
    · exact .inl (Option.some.inj (hword hw)).symm
  | notNumber hw => exact .inr (.inl (Option.some.inj (hword hw)).symm)
  | decimal hdecimal _ =>
    obtain ⟨d, hd, hhead⟩ := hdecimal.head?
    cases hd
    exact .inr (.inr hhead)

theorem unsigned?_eq_some_iff {s : List Char} {x : Float} :
    unsigned? s = some x ↔ IsUnsigned s x := by
  rw [unsigned?, ← word]
  constructor
  · intro h
    split_ifs at h with hinfinity hnan
    · cases h
      exact .infinity hinfinity
    · cases h
      exact .notNumber hnan
    · obtain ⟨⟨n, place⟩, hdecimal, rfl⟩ := Option.map_eq_some_iff.mp h
      exact .decimal (decimal?_eq_some_iff.mp hdecimal) (isNearest_nearest n place)
  · intro h
    cases h with
    | infinity hinfinity => rw [if_pos hinfinity]
    | notNumber hnan => rw [hnan, if_neg (by decide), if_pos rfl]
    | decimal hdecimal hnearest =>
      have hinf : word s ≠ "inf" := hdecimal.word_ne rfl (by decide)
      have hinfinity : word s ≠ "infinity" := hdecimal.word_ne rfl (by decide)
      have hnan : word s ≠ "nan" := hdecimal.word_ne rfl (by decide)
      rw [if_neg (not_or.mpr ⟨hinf, hinfinity⟩), if_neg hnan, decimal?_eq_some_iff.mpr hdecimal,
        hnearest.unique (isNearest_nearest _ _)]
      rfl

theorem float?_eq_some_iff {text : String} {x : Float} :
    float? text = some x ↔ IsFloat text.toList x := by
  rw [float?]
  generalize text.toList = s
  split
  next rest =>
    simp only [Option.map_eq_some_iff, unsigned?_eq_some_iff]
    constructor
    · rintro ⟨y, h, rfl⟩
      exact .minus h
    · rintro (h | h | h)
      · exact absurd h.head (by decide)
      · exact ⟨_, h, rfl⟩
  next rest =>
    rw [unsigned?_eq_some_iff]
    constructor
    · exact .plus
    · rintro (h | h | h)
      · exact absurd h.head (by decide)
      · exact h
  next hminus hplus =>
    rw [unsigned?_eq_some_iff]
    constructor
    · exact .bare
    · rintro (h | h | h)
      · exact h
      · exact absurd rfl (hplus _)
      · exact absurd rfl (hminus _)

end Number

end RasterOverlay
