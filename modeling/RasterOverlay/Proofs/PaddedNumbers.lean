import RasterOverlay.Proofs.NumberGrammar
import RasterOverlay.Proofs.PaddingEntries
import RasterOverlay.Proofs.TemplateUrl

/-!
Padded numbers. Zeros in front of a number change its length and nothing else: the text is a run of
digits, as long as the pad template or as the number needs, and it is read as the number. The template
of a key is the last one that was given for it, however the padding came about.
-/

namespace RasterOverlay.Padding

/-! ## The templates that were given -/

/-- A padding together with the entries that were put in, in order. It begins empty or with a list of
entries, and then takes one entry after another. -/
inductive Built : Padding → List (String × String) → Prop
  | empty : Built empty []
  | ofList (entries : List (String × String)) : Built (ofList entries) entries
  | insert {p : Padding} {given : List (String × String)} (before : Built p given)
      (key template : String) : Built (p.insert key template) (given ++ [(key, template)])

/-- The last entry of a key has this template. -/
def LastGiven (given : List (String × String)) (key template : String) : Prop :=
  ∃ before after, given = before ++ (key, template) :: after ∧ ∀ entry ∈ after, entry.1 ≠ key

/-- In whatever steps the entries are put in, the padding is that of the whole list. -/
theorem Built.eq_ofList {p : Padding} {given : List (String × String)} (h : Built p given) :
    p = .ofList given := by
  induction h with
  | empty => rfl
  | ofList entries => rfl
  | insert _ key template ih =>
    rw [ih, Padding.ofList, Padding.ofList, List.foldl_append, List.foldl_cons, List.foldl_nil]

theorem Built.template?_eq_some_iff {p : Padding} {given : List (String × String)}
    (h : Built p given) (key template : String) :
    p.template? key = some template ↔ LastGiven given key template := by
  rw [h.eq_ofList]
  exact template?_ofList_eq_some_iff

/-! ## The text of a number -/

variable (p : Padding) (key : String) (n : UInt64)

theorem toList_pad :
    ∃ zeros, (p.pad key n).toList = List.replicate zeros '0' ++ Nat.toDigits 10 n.toNat :=
  ⟨_, String.toList_ofList⟩

theorem isDigit_of_mem_pad : ∀ c ∈ (p.pad key n).toList, c.isDigit = true := by
  obtain ⟨zeros, htext⟩ := p.toList_pad key n
  intro c hc
  rw [htext, List.mem_append] at hc
  rcases hc with hzero | hdigit
  · rw [(List.mem_replicate.mp hzero).2]
    decide
  · exact Nat.isDigit_of_mem_toDigits (by decide) (by decide) hdigit

/-- Zeros in front do not change a number. -/
theorem ofDigitChars_pad : Nat.ofDigitChars 10 (p.pad key n).toList 0 = n.toNat := by
  obtain ⟨zeros, htext⟩ := p.toList_pad key n
  rw [htext, Nat.ofDigitChars_append, Nat.ofDigitChars_replicate_zero, Nat.mul_zero,
    Nat.ofDigitChars_ten_toDigits]

theorem pad_injective : Function.Injective (p.pad key) := by
  intro n n' h
  apply UInt64.toNat_inj.mp
  calc n.toNat
      = Nat.ofDigitChars 10 (p.pad key n).toList 0 := (p.ofDigitChars_pad key n).symm
    _ = Nat.ofDigitChars 10 (p.pad key n').toList 0 := by rw [h]
    _ = n'.toNat := p.ofDigitChars_pad key n'

/-- A number has one digit more than its logarithm says, and zero has one digit. -/
theorem length_toDigits (n : ℕ) : (Nat.toDigits 10 n).length = Nat.log 10 n + 1 := by
  -- The library bounds the length by powers of ten, so both sides are compared with every bound.
  apply eq_of_forall_ge_iff
  intro k
  by_cases hk : k = 0
  · have hpos : 0 < (Nat.toDigits 10 n).length := Nat.length_toDigits_pos
    omega
  · rw [Nat.length_toDigits_le_iff (by decide) (Nat.pos_of_ne_zero hk), Nat.succ_le_iff]
    exact ⟨Nat.log_lt_of_lt_pow' hk, Nat.lt_pow_of_log_lt (by decide)⟩

theorem length_pad :
    (p.pad key n).length =
      max ((p.template? key).elim 0 String.utf8ByteSize) (Nat.log 10 n.toNat + 1) := by
  rw [pad_eq_written, written, String.length_ofList, List.length_leftpad, length_toDigits]

theorem uint64?_pad : Text.uint64? (p.pad key n) = some n := by
  have hne : (p.pad key n).toList ≠ [] := by
    obtain ⟨zeros, htext⟩ := p.toList_pad key n
    rw [htext]
    exact List.append_ne_nil_of_right_ne_nil _ (List.length_pos_iff.mp Nat.length_toDigits_pos)
  -- The reader takes any run of digits that is not empty, so the zeros in front do not disturb it.
  have hread : Text.natural? (p.pad key n).toList = some n.toNat :=
    Text.natural?_eq_some_iff.mpr
      (.bare ⟨hne, p.isDigit_of_mem_pad key n, (p.ofDigitChars_pad key n).symm⟩)
  rw [Text.uint64?, hread, Option.bind_some, if_pos n.toNat_lt, UInt64.ofNat_toNat]

end RasterOverlay.Padding
