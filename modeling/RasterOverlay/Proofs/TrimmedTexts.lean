import Mathlib
import RasterOverlay.Text.Blank

/-!
Blanks around a text, and texts that are cut at a separator. What is left of a text without the blanks
around it is told by two things: no blank stands at either end of it, and nothing but blanks was taken
away.
-/

namespace RasterOverlay.Text

/-- Nothing but blanks. -/
def Blanks (s : List Char) : Prop := ∀ c ∈ s, isBlank c = true

/-- No blank at either end. -/
structure Trimmed (s : List Char) : Prop where
  first : ∀ c, s.head? = some c → isBlank c = false
  last : ∀ c, s.getLast? = some c → isBlank c = false

instance (s : List Char) : Decidable (Blanks s) :=
  decidable_of_iff (s.all isBlank = true) List.all_eq_true

instance (s : List Char) : Decidable (Trimmed s) :=
  decidable_of_iff (s.head?.any isBlank = false ∧ s.getLast?.any isBlank = false) <| by
    simp only [Option.any_eq_false]
    exact ⟨fun h => ⟨h.1, h.2⟩, fun h => ⟨h.first, h.last⟩⟩

/-- A text is an item with blanks around it, or with none. -/
def Surrounds (item piece : String) : Prop :=
  ∃ before after, Blanks before ∧ Blanks after ∧ piece.toList = before ++ (item.toList ++ after)

variable {s before after : List Char}

theorem Blanks.reverse (h : Blanks s) : Blanks s.reverse :=
  fun c hc => h c (List.mem_reverse.mp hc)

/-! ## One end -/

theorem trimStart_append (hb : Blanks before) (hs : ∀ c, s.head? = some c → isBlank c = false) :
    trimStart (before ++ s) = s := by
  rw [trimStart, List.dropWhile_append_of_pos hb]
  cases s with
  | nil => rfl
  | cons c s =>
    have hc : ¬ isBlank c = true := by simp [hs c rfl]
    rw [List.dropWhile_cons_of_neg hc]

theorem exists_trimStart (s : List Char) :
    ∃ before, Blanks before ∧ s = before ++ trimStart s ∧
      ∀ c, (trimStart s).head? = some c → isBlank c = false := by
  refine ⟨s.takeWhile isBlank, fun c hc => List.mem_takeWhile_imp hc,
    List.takeWhile_append_dropWhile.symm, ?_⟩
  intro c hc
  have hhead := List.head?_dropWhile_not isBlank s
  rw [trimStart] at hc
  rw [hc] at hhead
  simpa using hhead

theorem trimEnd_append (ha : Blanks after) (hs : ∀ c, s.getLast? = some c → isBlank c = false) :
    trimEnd (s ++ after) = s := by
  rw [trimEnd, List.reverse_append, trimStart_append ha.reverse, List.reverse_reverse]
  intro c hc
  exact hs c (by rwa [List.head?_reverse] at hc)

theorem exists_trimEnd (s : List Char) :
    ∃ after, Blanks after ∧ s = trimEnd s ++ after ∧
      ∀ c, (trimEnd s).getLast? = some c → isBlank c = false := by
  obtain ⟨blanks, hb, hs, hfirst⟩ := exists_trimStart s.reverse
  refine ⟨blanks.reverse, hb.reverse, ?_, ?_⟩
  · rw [trimEnd, ← List.reverse_append, ← hs, List.reverse_reverse]
  · intro c hc
    exact hfirst c (by rwa [trimEnd, List.getLast?_reverse] at hc)

/-! ## Both ends -/

theorem trimBoth_blanks (h : Blanks s) : trimBoth s = [] := by
  have hstart : trimStart s = [] := by
    have hall := trimStart_append (s := []) h (by simp)
    rwa [List.append_nil] at hall
  rw [trimBoth, hstart]
  rfl

theorem trimBoth_surrounded (hb : Blanks before) (ha : Blanks after) (hne : s ≠ [])
    (hs : Trimmed s) : trimBoth (before ++ (s ++ after)) = s := by
  have hfront : trimStart (before ++ (s ++ after)) = s ++ after := by
    apply trimStart_append hb
    intro c hc
    rw [List.head?_append_of_ne_nil s hne] at hc
    exact hs.first c hc
  rw [trimBoth, hfront, trimEnd_append ha hs.last]

/-- What is left begins where the text begins that is left of the front, unless nothing is left. -/
theorem exists_trimBoth (s : List Char) :
    Trimmed (trimBoth s) ∧
      ∃ before after, Blanks before ∧ Blanks after ∧ s = before ++ (trimBoth s ++ after) := by
  obtain ⟨before, hb, hfront, hfirst⟩ := exists_trimStart s
  obtain ⟨after, ha, hback, hlast⟩ := exists_trimEnd (trimStart s)
  refine ⟨⟨?_, hlast⟩, before, after, hb, ha, ?_⟩
  · intro c hc
    -- The first character of what is left is the first one behind the front blanks.
    apply hfirst c
    rw [trimBoth] at hc
    rw [hback, List.head?_append, hc, Option.some_or]
  · rw [trimBoth, ← hback]
    exact hfront

theorem trim_eq_empty_iff (piece : String) : trim piece = "" ↔ Blanks piece.toList := by
  constructor
  · intro h
    obtain ⟨-, before, after, hb, ha, hpiece⟩ := exists_trimBoth piece.toList
    have hnothing : trimBoth piece.toList = [] := by
      have hlist := congrArg String.toList h
      rwa [trim, String.toList_ofList] at hlist
    rw [hpiece, hnothing, List.nil_append]
    intro c hc
    rcases List.mem_append.mp hc with hfront | hback
    · exact hb c hfront
    · exact ha c hback
  · intro h
    rw [trim, trimBoth_blanks h, String.ofList_nil]

/-- The text without the blanks around it is known by having none at its ends. -/
theorem trim_eq_iff {piece item : String} (hne : item ≠ "") :
    trim piece = item ↔ Trimmed item.toList ∧ Surrounds item piece := by
  constructor
  · rintro rfl
    rw [Surrounds, trim, String.toList_ofList]
    exact exists_trimBoth piece.toList
  · rintro ⟨htrimmed, before, after, hb, ha, hpiece⟩
    have hlist : item.toList ≠ [] := by simpa using hne
    rw [trim, hpiece, trimBoth_surrounded hb ha hlist htrimmed, String.ofList_toList]

theorem filled?_eq_some_iff {s text : String} :
    filled? s = some text ↔ text = trim s ∧ text ≠ "" := by
  rw [filled?]
  by_cases hempty : trim s = ""
  · rw [if_pos (String.isEmpty_iff.mpr hempty)]
    simp only [hempty, reduceCtorEq, false_iff, not_and, not_not, imp_self]
  · rw [if_neg (mt String.isEmpty_iff.mp hempty), Option.some.injEq]
    constructor
    · rintro rfl
      exact ⟨rfl, hempty⟩
    · exact fun h => h.1.symm

theorem filled?_eq_none_iff {piece : String} : filled? piece = none ↔ Blanks piece.toList := by
  rw [← trim_eq_empty_iff, Option.eq_none_iff_forall_ne_some]
  constructor
  · intro h
    by_contra hne
    exact h (trim piece) (filled?_eq_some_iff.mpr ⟨rfl, hne⟩)
  · intro hempty item hitem
    obtain ⟨rfl, hne⟩ := filled?_eq_some_iff.mp hitem
    exact hne hempty

/-! ## Pieces -/

theorem notMem_of_mem_splitOn {separator : Char} {l : List Char} (h : l ∈ s.splitOn separator) :
    separator ∉ l := by
  induction s generalizing l with
  | nil =>
    rw [List.splitOn_nil, List.mem_singleton] at h
    rw [h]
    exact List.not_mem_nil
  | cons c s ih =>
    rw [List.splitOn_cons_eq_if_modifyHead] at h
    split at h
    · -- A new piece begins behind the separator.
      rcases List.mem_cons.mp h with rfl | hrest
      · exact List.not_mem_nil
      · exact ih hrest
    · rename_i hc
      obtain ⟨first, rest, hsplit⟩ := List.exists_cons_of_ne_nil (List.splitOn_ne_nil separator s)
      rw [hsplit, List.modifyHead_cons, List.mem_cons] at h
      rw [hsplit] at ih
      rcases h with rfl | hrest
      · rw [List.mem_cons, not_or]
        exact ⟨fun hsame => hc (beq_iff_eq.mpr hsame.symm), ih List.mem_cons_self⟩
      · exact ih (List.mem_cons_of_mem _ hrest)

theorem notMem_of_mem_pieces {separator : Char} {text piece : String}
    (h : piece ∈ pieces separator text) : separator ∉ piece.toList := by
  obtain ⟨l, hl, rfl⟩ := List.mem_map.mp h
  rw [String.toList_ofList]
  exact notMem_of_mem_splitOn hl

theorem intercalate_pieces (separator : Char) (text : String) :
    (String.singleton separator).intercalate (pieces separator text) = text := by
  apply String.toList_inj.mp
  have hlists : (pieces separator text).map String.toList = text.toList.splitOn separator := by
    rw [pieces, List.map_map]
    simp
  rw [String.toList_intercalate, String.toList_singleton, hlists, List.intercalate_splitOn]

/-- The pieces of a text that was put together from pieces without the separator. -/
theorem pieces_intercalate {separator : Char} {texts : List String} (hne : texts ≠ [])
    (h : ∀ s ∈ texts, separator ∉ s.toList) :
    pieces separator ((String.singleton separator).intercalate texts) = texts := by
  have hlists : ∀ l ∈ texts.map String.toList, separator ∉ l := List.forall_mem_map.mpr h
  have hjoined : ((String.singleton separator).intercalate texts).toList =
      [separator].intercalate (texts.map String.toList) := by
    rw [String.toList_intercalate, String.toList_singleton]
  rw [pieces, hjoined, List.splitOn_intercalate separator hlists (by simpa using hne), List.map_map]
  simp

/-- The pieces of a text: they have no separator in them, and joined by it they are the text. -/
structure ArePieces (separator : Char) (text : String) (texts : List String) : Prop where
  nonempty : texts ≠ []
  separator_notMem : ∀ s ∈ texts, separator ∉ s.toList
  joined : text = (String.singleton separator).intercalate texts

theorem pieces_eq_iff {separator : Char} {text : String} {texts : List String} :
    pieces separator text = texts ↔ ArePieces separator text texts := by
  constructor
  · rintro rfl
    exact {
      nonempty := by simp [pieces]
      separator_notMem := fun _ hpiece => notMem_of_mem_pieces hpiece
      joined := (intercalate_pieces separator text).symm }
  · rintro ⟨hne, hnone, rfl⟩
    exact pieces_intercalate hne hnone

/-- Two pieces have a separator between them. -/
theorem separator_mem_intercalate (separator : Char) {texts : List String}
    (h : 2 ≤ texts.length) : separator ∈ ((String.singleton separator).intercalate texts).toList := by
  match texts, h with
  | first :: second :: rest, _ =>
    rw [String.toList_intercalate, String.toList_singleton, List.map_cons, List.map_cons,
      List.intercalate_cons_cons]
    simp

/-- A text with a separator in it has two pieces, since a single piece would be the whole text. -/
theorem two_le_length_pieces {separator : Char} {text : String} (h : separator ∈ text.toList) :
    2 ≤ (pieces separator text).length := by
  have hwhole := intercalate_pieces separator text
  match hpieces : pieces separator text with
  | [] =>
    rw [pieces, List.map_eq_nil_iff] at hpieces
    exact absurd hpieces (List.splitOn_ne_nil separator text.toList)
  | [piece] =>
    have htext : piece = text := by simpa [hpieces] using hwhole
    have hmem : piece ∈ pieces separator text := by simp [hpieces]
    exact absurd h (htext ▸ notMem_of_mem_pieces hmem)
  | _ :: _ :: _ => simp

end RasterOverlay.Text
