import RasterOverlay.Proofs.TrimmedTexts
import RasterOverlay.Subdomains

/-!
The two notations of a list of subdomains. With a comma in it, a text is a list of items, each with
blanks around it and with blank items in between; without one, it is a list of letters with blanks in
between. Both are the same matter: what counts is scattered among what does not.
-/

namespace RasterOverlay

/-- Entries that are shown in order among others that count for nothing. -/
inductive Scattered {α β : Type} (Filler : β → Prop) (Shows : α → β → Prop) :
    List α → List β → Prop
  | nil : Scattered Filler Shows [] []
  | filler {b : β} {as : List α} {bs : List β} (blank : Filler b)
      (rest : Scattered Filler Shows as bs) : Scattered Filler Shows as (b :: bs)
  | entry {a : α} {b : β} {as : List α} {bs : List β} (shown : Shows a b)
      (rest : Scattered Filler Shows as bs) : Scattered Filler Shows (a :: as) (b :: bs)

namespace Scattered

variable {α β : Type} {Filler : β → Prop} {Shows : α → β → Prop} {f : β → Option α} {as : List α}
  {bs : List β}

/-- A reader that skips the fillers and reads what is shown finds the entries. -/
theorem filterMap_eq (h : Scattered Filler Shows as bs)
    (hfiller : ∀ b, Filler b → f b = none)
    (hshows : ∀ a ∈ as, ∀ b, Shows a b → f b = some a) : bs.filterMap f = as := by
  induction h with
  | nil => rfl
  | filler blank _ ih =>
    rw [List.filterMap_cons_none (hfiller _ blank)]
    exact ih hshows
  | entry shown _ ih =>
    obtain ⟨hfirst, hrest⟩ := List.forall_mem_cons.mp hshows
    rw [List.filterMap_cons_some (hfirst _ shown), ih hrest]

/-- What a reader finds is scattered among what it skips. -/
theorem of_filterMap (hfiller : ∀ b, f b = none → Filler b)
    (hshows : ∀ a b, f b = some a → Shows a b) (bs : List β) :
    Scattered Filler Shows (bs.filterMap f) bs := by
  induction bs with
  | nil => exact .nil
  | cons b bs ih =>
    cases hb : f b with
    | none =>
      rw [List.filterMap_cons_none hb]
      exact .filler (hfiller b hb) ih
    | some a =>
      rw [List.filterMap_cons_some hb]
      exact .entry (hshows a b hb) ih

theorem length_le (h : Scattered Filler Shows as bs) : as.length ≤ bs.length := by
  induction h with
  | nil => exact Nat.le_refl 0
  | filler _ _ ih => exact Nat.le_succ_of_le ih
  | entry _ _ ih => exact Nat.succ_le_succ ih

theorem forall_mem {P : β → Prop} (h : Scattered Filler Shows as bs)
    (hfiller : ∀ b, Filler b → P b) (hshows : ∀ a ∈ as, ∀ b, Shows a b → P b) :
    ∀ b ∈ bs, P b := by
  induction h with
  | nil => exact fun b hb => absurd hb List.not_mem_nil
  | filler blank _ ih => exact List.forall_mem_cons.mpr ⟨hfiller _ blank, ih hshows⟩
  | entry shown _ ih =>
    obtain ⟨hfirst, hrest⟩ := List.forall_mem_cons.mp hshows
    exact List.forall_mem_cons.mpr ⟨hfirst _ shown, ih hrest⟩

end Scattered

namespace Subdomains

/-- A text that can be an item of a comma-separated list. -/
structure IsItem (s : String) : Prop where
  filled : s ≠ ""
  no_comma : ',' ∉ s.toList
  trimmed : Text.Trimmed s.toList

instance (s : String) : Decidable (IsItem s) :=
  decidable_of_iff (s ≠ "" ∧ ',' ∉ s.toList ∧ Text.Trimmed s.toList)
    ⟨fun h => ⟨h.1, h.2.1, h.2.2⟩, fun h => ⟨h.filled, h.no_comma, h.trimmed⟩⟩

/-- The pieces of a list: the items with blanks around them, and blank pieces in between. -/
def Pieced (items pieces : List String) : Prop :=
  Scattered (fun piece => Text.Blanks piece.toList) Text.Surrounds items pieces

/-- Letters with blanks in between. -/
def Spaced (letters s : List Char) : Prop :=
  Scattered (fun c => Text.isBlank c = true) (· = ·) letters s

theorem comma_notMem_of_blanks {s : List Char} (h : Text.Blanks s) : ',' ∉ s := by
  intro hcomma
  exact absurd (h ',' hcomma) (by decide)

theorem IsItem.comma_notMem {item piece : String} (hitem : IsItem item)
    (h : Text.Surrounds item piece) : ',' ∉ piece.toList := by
  obtain ⟨before, after, hb, ha, hpiece⟩ := h
  rw [hpiece]
  simp only [List.mem_append, not_or]
  exact ⟨comma_notMem_of_blanks hb, hitem.no_comma, comma_notMem_of_blanks ha⟩

theorem filled?_eq_some_iff_surrounds {item piece : String} :
    Text.filled? piece = some item ↔
      item ≠ "" ∧ Text.Trimmed item.toList ∧ Text.Surrounds item piece := by
  rw [Text.filled?_eq_some_iff]
  constructor
  · rintro ⟨hitem, hne⟩
    exact ⟨hne, (Text.trim_eq_iff hne).mp hitem.symm⟩
  · rintro ⟨hne, hitem⟩
    exact ⟨((Text.trim_eq_iff hne).mpr hitem).symm, hne⟩

/-- The items of a text with commas. -/
def AreItems (text : String) (items : List String) : Prop :=
  ∃ pieces, Text.ArePieces ',' text pieces ∧ Pieced items pieces ∧ ∀ item ∈ items, IsItem item

/-- The letters of a text without a comma, each as a text. -/
def AreLetters (text : String) (items : List String) : Prop :=
  ∃ letters, (∀ c ∈ letters, Text.isBlank c = false ∧ c ≠ ',') ∧ Spaced letters text.toList ∧
    items = letters.map String.singleton

/-! ## The two ways of reading -/

theorem parse_of_comma {text : String} (h : ',' ∈ text.toList) :
    parse text = ⟨Text.commaList text⟩ :=
  if_pos (List.contains_iff_mem.mpr h)

theorem parse_of_no_comma {text : String} (h : ',' ∉ text.toList) :
    parse text = ⟨(text.toList.filter (!Text.isBlank ·)).map String.singleton⟩ :=
  if_neg (mt List.contains_iff_mem.mp h)

theorem isItem_of_mem_commaList {text name : String} (h : name ∈ Text.commaList text) :
    IsItem name := by
  obtain ⟨piece, hpiece, hfilled⟩ := List.mem_filterMap.mp h
  obtain ⟨hne, htrimmed, before, after, -, -, hsplit⟩ := filled?_eq_some_iff_surrounds.mp hfilled
  refine ⟨hne, ?_, htrimmed⟩
  -- An item is a part of a piece, and pieces have no comma.
  intro hcomma
  apply Text.notMem_of_mem_pieces hpiece
  rw [hsplit]
  simp [hcomma]

theorem areItems_commaList (text : String) : AreItems text (Text.commaList text) := by
  refine ⟨_, Text.pieces_eq_iff.mp rfl, ?_, fun _ => isItem_of_mem_commaList⟩
  apply Scattered.of_filterMap
  · intro piece hnone
    exact Text.filled?_eq_none_iff.mp hnone
  · intro item piece hsome
    exact (filled?_eq_some_iff_surrounds.mp hsome).2.2

/-- A text has one list of items. -/
theorem commaList_eq_iff {text : String} {items : List String} :
    Text.commaList text = items ↔ AreItems text items := by
  constructor
  · rintro rfl
    exact areItems_commaList text
  · rintro ⟨pieces, hpieces, hpieced, hitems⟩
    rw [Text.commaList, Text.pieces_eq_iff.mpr hpieces]
    apply hpieced.filterMap_eq
    · intro piece hblank
      exact Text.filled?_eq_none_iff.mpr hblank
    · intro item hitem piece hshown
      exact filled?_eq_some_iff_surrounds.mpr
        ⟨(hitems item hitem).filled, (hitems item hitem).trimmed, hshown⟩

theorem parse_pieces {items pieces : List String} (hmany : 2 ≤ items.length)
    (hitems : ∀ item ∈ items, IsItem item) (h : Pieced items pieces) :
    parse (",".intercalate pieces) = ⟨items⟩ := by
  -- The blank pieces may be many, but there are no fewer pieces than items: a comma is there.
  have hmany' : 2 ≤ pieces.length := hmany.trans h.length_le
  have hcommas : ∀ piece ∈ pieces, ',' ∉ piece.toList := h.forall_mem
    (fun _ hblank => comma_notMem_of_blanks hblank)
    (fun item hitem _ hshown => (hitems item hitem).comma_notMem hshown)
  have hne : pieces ≠ [] := List.ne_nil_of_length_pos (by omega)
  rw [show "," = String.singleton ',' from rfl,
    parse_of_comma (Text.separator_mem_intercalate ',' hmany'),
    commaList_eq_iff.mpr ⟨pieces, ⟨hne, hcommas, rfl⟩, h, hitems⟩]

theorem parse_letters {letters : List Char} {text : String}
    (hletters : ∀ c ∈ letters, Text.isBlank c = false ∧ c ≠ ',') (h : Spaced letters text.toList) :
    parse text = ⟨letters.map String.singleton⟩ := by
  have hcomma : ',' ∉ text.toList := by
    intro hmem
    have hother : ∀ c ∈ text.toList, c ≠ ',' := by
      refine h.forall_mem (P := fun c => c ≠ ',') ?_ ?_
      · intro c hblank hcomma
        rw [hcomma] at hblank
        exact absurd hblank (by decide)
      · rintro c hc _ rfl
        exact (hletters c hc).2
    exact hother ',' hmem rfl
  have hread : text.toList.filter (!Text.isBlank ·) = letters := by
    rw [← List.filterMap_eq_filter]
    apply h.filterMap_eq
    · intro c hblank
      simp [Option.guard, hblank]
    · rintro c hc _ rfl
      simp [Option.guard, (hletters c hc).1]
  rw [parse_of_no_comma hcomma, hread]

/-! ## What is read -/

theorem isItem_singleton {c : Char} (hblank : Text.isBlank c = false) (hcomma : c ≠ ',') :
    IsItem (String.singleton c) where
  filled := by simp
  no_comma := by simpa using hcomma.symm
  trimmed := by
    rw [String.toList_singleton]
    constructor
    · rintro _ ⟨⟩
      exact hblank
    · rintro _ ⟨⟩
      exact hblank

/-- The text is read as a list of pieces with at least one comma in between. -/
def ReadAsPieces (text : String) : Prop :=
  ∃ pieces, 2 ≤ pieces.length ∧ (∀ piece ∈ pieces, ',' ∉ piece.toList) ∧
    text = ",".intercalate pieces ∧ Pieced (parse text).names pieces

/-- The text is read letter by letter. -/
def ReadAsLetters (text : String) : Prop := AreLetters text (parse text).names

theorem readAsPieces {text : String} (h : ',' ∈ text.toList) : ReadAsPieces text := by
  obtain ⟨pieces, hpieces, hpieced, -⟩ := areItems_commaList text
  have hmany := Text.two_le_length_pieces h
  rw [Text.pieces_eq_iff.mpr hpieces] at hmany
  refine ⟨pieces, hmany, hpieces.separator_notMem, hpieces.joined, ?_⟩
  rw [parse_of_comma h]
  exact hpieced

theorem readAsLetters {text : String} (h : ',' ∉ text.toList) : ReadAsLetters text := by
  refine ⟨text.toList.filter (!Text.isBlank ·), ?_, ?_, ?_⟩
  · intro c hc
    obtain ⟨hmem, hblank⟩ := List.mem_filter.mp hc
    exact ⟨by simpa using hblank, fun hcomma => h (hcomma ▸ hmem)⟩
  · rw [← List.filterMap_eq_filter]
    apply Scattered.of_filterMap
    · intro c hnone
      simpa [Option.guard] using hnone
    · intro a c hsome
      exact (Option.guard_eq_some_iff.mp hsome).1.symm
  · rw [parse_of_no_comma h]

/-- The subdomains that a text means in one notation or the other. -/
inductive Means (text : String) : Subdomains → Prop
  | items {items : List String} : ',' ∈ text.toList → AreItems text items → Means text ⟨items⟩
  | letters {items : List String} : AreLetters text items → Means text ⟨items⟩

theorem parse_eq_iff {text : String} {s : Subdomains} : parse text = s ↔ Means text s := by
  constructor
  · rintro rfl
    by_cases hcomma : ',' ∈ text.toList
    · rw [parse_of_comma hcomma]
      exact .items hcomma (areItems_commaList text)
    · exact .letters (readAsLetters hcomma)
  · rintro (⟨hcomma, hitems⟩ | ⟨letters, hletters, hspaced, rfl⟩)
    · rw [parse_of_comma hcomma, commaList_eq_iff.mpr hitems]
    · exact parse_letters hletters hspaced

theorem isItem_of_mem_parse (text : String) : ∀ name ∈ (parse text).names, IsItem name := by
  intro name hname
  by_cases hcomma : ',' ∈ text.toList
  · rw [parse_of_comma hcomma] at hname
    exact isItem_of_mem_commaList hname
  · obtain ⟨letters, hletters, -, hnames⟩ := readAsLetters hcomma
    rw [hnames] at hname
    obtain ⟨c, hc, rfl⟩ := List.mem_map.mp hname
    exact isItem_singleton (hletters c hc).1 (hletters c hc).2

/-- A list of at least two items is read back from its pieces, and a list of letters from the letters
with blanks in between. There is no other way in which a text is read, and whatever it is, the
subdomains that are read are items: not empty, without a comma and without a blank at either end. -/
theorem parse_reads_two_notations :
    (∀ items pieces, 2 ≤ items.length → (∀ item ∈ items, IsItem item) → Pieced items pieces →
      parse (",".intercalate pieces) = ⟨items⟩) ∧
    (∀ (letters : List Char) (text : String),
      (∀ c ∈ letters, Text.isBlank c = false ∧ c ≠ ',') → Spaced letters text.toList →
      parse text = ⟨letters.map String.singleton⟩) ∧
    ∀ text, (∀ name ∈ (parse text).names, IsItem name) ∧
      (ReadAsPieces text ∨ ReadAsLetters text) := by
  refine ⟨?_, ?_, ?_⟩
  · intro items pieces hmany hitems h
    exact parse_pieces hmany hitems h
  · intro letters text hletters h
    exact parse_letters hletters h
  · intro text
    refine ⟨isItem_of_mem_parse text, ?_⟩
    by_cases hcomma : ',' ∈ text.toList
    · exact .inl (readAsPieces hcomma)
    · exact .inr (readAsLetters hcomma)

/-- Blank pieces at both ends and an item with a blank in it; the same letters without commas. -/
theorem parse_reads_two_notations_of_letters :
    parse " , a\t,,b\u3000c\u00a0," = ⟨["a", "b\u3000c"]⟩ ∧
      parse " a\tb\u3000c\u00a0" = ⟨["a", "b", "c"]⟩ := by
  obtain ⟨hpieces, hletters, -⟩ := parse_reads_two_notations
  constructor
  · have hscattered : Pieced ["a", "b\u3000c"] [" ", " a\t", "", "b\u3000c\u00a0", ""] := by
      apply Scattered.filler (by decide)
      apply Scattered.entry ⟨[' '], ['\t'], by decide, by decide, by decide⟩
      apply Scattered.filler (by decide)
      apply Scattered.entry ⟨[], ['\u00a0'], by decide, by decide, by decide⟩
      exact Scattered.filler (by decide) .nil
    exact hpieces _ _ (by decide) (by decide +kernel) hscattered
  · have hspaced : Spaced ['a', 'b', 'c'] [' ', 'a', '\t', 'b', '\u3000', 'c', '\u00a0'] := by
      apply Scattered.filler (by decide)
      apply Scattered.entry rfl
      apply Scattered.filler (by decide)
      apply Scattered.entry rfl
      apply Scattered.filler (by decide)
      apply Scattered.entry rfl
      exact Scattered.filler (by decide) .nil
    apply hletters ['a', 'b', 'c'] " a\tb\u3000c\u00a0" _ hspaced
    intro c hc
    fin_cases hc <;> decide

end Subdomains

end RasterOverlay
