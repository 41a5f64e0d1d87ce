import Mathlib
import RasterOverlay.Template

/-!
The grammar of templates without a scanner. A place of a text is a split of it around a name in
braces, and whether a placeholder stands there is seen from the name and the two characters next to
the braces. The scanner cuts a text exactly at these places, and no other cut of the text does.
-/

namespace RasterOverlay.Template

/-- An ASCII letter or digit, or an underscore. -/
def IsNameLetter (c : Char) : Prop :=
  ('A' ≤ c ∧ c ≤ 'Z') ∨ ('a' ≤ c ∧ c ≤ 'z') ∨ ('0' ≤ c ∧ c ≤ '9') ∨ c = '_'

theorem isNameChar_iff (c : Char) : isNameChar c = true ↔ IsNameLetter c := by
  simp only [isNameChar, Char.isAlphanum, Char.isAlpha, Char.isUpper, Char.isLower, Char.isDigit,
    IsNameLetter, Char.le_def, Bool.or_eq_true, Bool.and_eq_true, decide_eq_true_eq, beq_iff_eq,
    ge_iff_le, or_assoc]

/-- A split of a text around a name in braces. -/
structure Place where
  before : List Char
  name : List Char
  after : List Char

namespace Place

def text (p : Place) : List Char := p.before ++ '{' :: (p.name ++ '}' :: p.after)

/-- The grammar: a name of letters, and no further brace on the outside of the two braces. -/
structure Standalone (p : Place) : Prop where
  named : p.name ≠ []
  letters : ∀ c ∈ p.name, IsNameLetter c
  notOpened : p.before.getLast? ≠ some '{'
  notClosed : p.after.head? ≠ some '}'

end Place

/-- A text cut at some of its places: the text in front of the first place, and for each place the
name and the text that follows, up to the next place. -/
structure Cut where
  lead : List Char
  fields : List (List Char × List Char)

/-- The text of the places of a cut, with what follows each. -/
def fieldsText : List (List Char × List Char) → List Char
  | [] => []
  | (name, literal) :: fields => '{' :: (name ++ '}' :: (literal ++ fieldsText fields))

/-- The places of a cut, given the text in front of the first. -/
def fieldPlaces (before : List Char) : List (List Char × List Char) → List Place
  | [] => []
  | (name, literal) :: fields =>
    ⟨before, name, literal ++ fieldsText fields⟩ ::
      fieldPlaces (before ++ '{' :: (name ++ '}' :: literal)) fields

namespace Cut

def text (c : Cut) : List Char := c.lead ++ fieldsText c.fields

def places (c : Cut) : List Place := fieldPlaces c.lead c.fields

def names (c : Cut) : List String := c.fields.map fun field => String.ofList field.1

/-- The cut text with a value in place of each name and its braces. -/
def fill (c : Cut) (values : List String) : String :=
  String.ofList c.lead ++
    String.join (List.zipWith (fun value field => value ++ String.ofList field.2) values c.fields)

/-- A text is cut at its placeholders: at all of them, and nowhere else. -/
structure At (c : Cut) (source : String) : Prop where
  whole : c.text = source.toList
  exact_places : ∀ p : Place, p ∈ c.places ↔ p.text = source.toList ∧ p.Standalone

/-- The cut that a list of parts describes. -/
def ofParts : List TemplatePart → Cut
  | [] => ⟨[], []⟩
  | .literal c :: parts => ⟨c :: (ofParts parts).lead, (ofParts parts).fields⟩
  | .placeholder name :: parts =>
    ⟨[], (name.toList, (ofParts parts).lead) :: (ofParts parts).fields⟩

end Cut

/-- The cut that the scanner finds. -/
def cut (source : String) : Cut := .ofParts (parts source)

/-! The scanner reads one place. -/

theorem takeWhile_name (name after : List Char) (hn : ∀ c ∈ name, isNameChar c = true) :
    (name ++ '}' :: after).takeWhile isNameChar = name ∧
      (name ++ '}' :: after).dropWhile isNameChar = '}' :: after := by
  constructor
  · rw [List.takeWhile_append_of_pos hn, List.takeWhile_cons_of_neg (by decide), List.append_nil]
  · rw [List.dropWhile_append_of_pos hn, List.dropWhile_cons_of_neg (by decide)]

theorem placeholderAt?_eq_some (opened : Bool) (s name after : List Char) :
    placeholderAt? opened s = some (name, after) ↔
      s = '{' :: (name ++ '}' :: after) ∧ name ≠ [] ∧ (∀ c ∈ name, isNameChar c = true) ∧
        opened = false ∧ after.head? ≠ some '}' := by
  constructor
  · intro h
    unfold placeholderAt? at h
    split at h
    · rename_i inner
      split at h
      · rename_i tail htake hdrop
        split at h
        · contradiction
        · rename_i hbrace
          simp only [Bool.or_eq_true, beq_iff_eq, not_or, Bool.not_eq_true] at hbrace
          obtain ⟨rfl, rfl⟩ := Prod.mk.injEq _ _ _ _ ▸ Option.some.inj h
          -- Both tests passed, so the name and what follows it are known.
          refine ⟨?_, by simp [htake], ?_, hbrace.1, hbrace.2⟩
          · rw [← hdrop, List.takeWhile_append_dropWhile]
          · intro c hc
            exact List.all_eq_true.mp List.all_takeWhile c hc
      · contradiction
    · contradiction
  · rintro ⟨rfl, hne, hn, rfl, hafter⟩
    obtain ⟨htake, hdrop⟩ := takeWhile_name name after hn
    obtain ⟨c, name, rfl⟩ := List.exists_cons_of_ne_nil hne
    simp only [List.cons_append] at htake hdrop
    simp [placeholderAt?, htake, hdrop, hafter]

/-! The cut that the scanner finds is a cut of the text. -/

theorem text_ofParts (ps : List TemplatePart) :
    (Cut.ofParts ps).text = ps.flatMap TemplatePart.source := by
  induction ps with
  | nil => rfl
  | cons part ps ih =>
    rw [Cut.text] at ih
    cases part with
    | literal c =>
      simp only [Cut.text, Cut.ofParts, List.cons_append, ih, List.flatMap_cons,
        TemplatePart.source, List.nil_append]
    | placeholder name =>
      simp only [Cut.text, Cut.ofParts, fieldsText, ih, List.flatMap_cons, TemplatePart.source,
        List.nil_append, List.cons_append, List.append_assoc]

theorem ofParts_append_literals (text : List Char) (ps : List TemplatePart) :
    Cut.ofParts (text.map .literal ++ ps) =
      ⟨text ++ (Cut.ofParts ps).lead, (Cut.ofParts ps).fields⟩ := by
  induction text with
  | nil => rfl
  | cons c text ih => rw [List.map_cons, List.cons_append, Cut.ofParts, ih, List.cons_append]

theorem flatMap_source_partsAfter (opened : Bool) (s : List Char) :
    (partsAfter opened s).flatMap TemplatePart.source = s := by
  fun_induction partsAfter opened s with
  | case1 => rfl
  | case2 opened c rest name after h _ ih =>
    obtain ⟨hs, -⟩ := (placeholderAt?_eq_some _ _ _ _).mp h
    simp only [List.flatMap_cons, TemplatePart.source, String.toList_ofList, ih, hs,
      List.cons_append, List.append_assoc, List.nil_append]
  | case3 opened c rest h ih =>
    simp only [List.flatMap_cons, TemplatePart.source, ih, List.cons_append, List.nil_append]

theorem text_cutRest (s : List Char) :
    (Cut.ofParts (partsAfter false s)).lead ++
      fieldsText (Cut.ofParts (partsAfter false s)).fields = s := by
  have htext := text_ofParts (partsAfter false s)
  rwa [flatMap_source_partsAfter, Cut.text] at htext

theorem text_cut (source : String) : (cut source).text = source.toList := by
  rw [cut, text_ofParts, parts, flatMap_source_partsAfter]

theorem names_ofParts (ps : List TemplatePart) :
    (Cut.ofParts ps).names = ps.filterMap TemplatePart.name? := by
  induction ps with
  | nil => rfl
  | cons part ps ih =>
    rw [Cut.names] at ih
    cases part with
    | literal c => simp only [Cut.names, Cut.ofParts, ih, List.filterMap_cons, TemplatePart.name?]
    | placeholder name =>
      simp only [Cut.names, Cut.ofParts, List.map_cons, String.ofList_toList, ih,
        List.filterMap_cons, TemplatePart.name?]

theorem names_cut (source : String) : (cut source).names = placeholders source :=
  names_ofParts (parts source)

/-- The names of a cut are those at its places. -/
theorem Cut.names_eq_map_places (c : Cut) :
    c.names = c.places.map fun p => String.ofList p.name := by
  obtain ⟨lead, fields⟩ := c
  rw [names, places]
  induction fields generalizing lead with
  | nil => rfl
  | cons field fields ih => rw [fieldPlaces, List.map_cons, List.map_cons, ih]

/-! Placeholders do not overlap. -/

theorem Place.Standalone.isNameChar {p : Place} (hp : p.Standalone) :
    ∀ c ∈ p.name, isNameChar c = true :=
  fun c hc => (isNameChar_iff c).mpr (hp.letters c hc)

/-- The name in front of a closing brace is told by its letters. -/
theorem name_eq_of_append (name name' after after' : List Char)
    (hn : ∀ c ∈ name, isNameChar c = true) (hn' : ∀ c ∈ name', isNameChar c = true)
    (h : name ++ '}' :: after = name' ++ '}' :: after') : name = name' ∧ after = after' := by
  have htake := (takeWhile_name name after hn).1
  rw [h, (takeWhile_name name' after' hn').1] at htake
  subst htake
  exact ⟨rfl, (List.cons.inj (List.append_cancel_left h)).2⟩

/-- Behind a name in braces the next brace can only open after the closing one. -/
theorem brace_behind_name (name after front back : List Char)
    (hn : ∀ c ∈ name, isNameChar c = true)
    (h : '{' :: (name ++ '}' :: after) = front ++ '{' :: back) (hf : front ≠ []) :
    ∃ rest, front = '{' :: (name ++ '}' :: rest) ∧ after = rest ++ '{' :: back := by
  obtain ⟨c, front, rfl⟩ := List.exists_cons_of_ne_nil hf
  obtain ⟨rfl, htail⟩ := List.cons.inj h
  -- The brace lies behind the name, or else it would be one of the name's letters.
  rcases List.append_eq_append_iff.mp htail with ⟨mid, hfront, hmid⟩ | ⟨mid, hname, hmid⟩
  · cases mid with
    | nil => exact absurd (List.cons.inj hmid).1 (by decide)
    | cons d rest =>
      obtain ⟨rfl, hafter⟩ := List.cons.inj hmid
      exact ⟨rest, by rw [hfront], hafter⟩
  · cases mid with
    | nil => exact absurd (List.cons.inj hmid).1 (by decide)
    | cons d rest =>
      obtain ⟨rfl, -⟩ := List.cons.inj hmid
      have hopen := hn '{' (by rw [hname]; simp)
      exact absurd hopen (by decide)

/-- A place that begins at a text or behind it splits what follows that text. -/
theorem Place.text_eq_append_iff (p : Place) (before s : List Char) :
    (p.text = before ++ s ∧ before.length ≤ p.before.length) ↔
      ∃ front, p.before = before ++ front ∧ s = front ++ '{' :: (p.name ++ '}' :: p.after) := by
  constructor
  · rintro ⟨htext, hlen⟩
    rcases List.append_eq_append_iff.mp htext with ⟨mid, hbefore, hmid⟩ | ⟨mid, hbefore, hmid⟩
    · have hnil : mid = [] := by
        have hl := congrArg List.length hbefore
        rw [List.length_append] at hl
        exact List.length_eq_zero_iff.mp (by omega)
      subst hnil
      exact ⟨[], by rw [hbefore, List.append_nil, List.append_nil], hmid.symm⟩
    · exact ⟨mid, hbefore, hmid⟩
  · rintro ⟨front, hbefore, hs⟩
    rw [Place.text, hbefore, hs, List.append_assoc]
    exact ⟨rfl, by rw [List.length_append]; omega⟩

theorem getLast?_braced (before name : List Char) :
    (before ++ '{' :: (name ++ ['}'])).getLast? = some '}' := by
  rw [← List.cons_append, ← List.append_assoc, List.getLast?_concat]

theorem Place.ext_of_name {p : Place} (hp : p.Standalone) (name after : List Char)
    (hn : ∀ c ∈ name, isNameChar c = true)
    (h : name ++ '}' :: after = p.name ++ '}' :: p.after) : p = ⟨p.before, name, after⟩ := by
  obtain ⟨rfl, rfl⟩ := name_eq_of_append name p.name after p.after hn hp.isNameChar h
  rfl

/-- The places of the scanner's cut of the rest of a text are the placeholders that begin there.
The induction is on the scan; `before` is the text that lies behind the scanner. -/
theorem mem_scanned_places_iff (opened : Bool) (s before : List Char)
    (hb : opened = true ↔ before.getLast? = some '{') (p : Place) :
    p ∈ fieldPlaces (before ++ (Cut.ofParts (partsAfter opened s)).lead)
        (Cut.ofParts (partsAfter opened s)).fields ↔
      (p.text = before ++ s ∧ before.length ≤ p.before.length) ∧ p.Standalone := by
  simp only [Place.text_eq_append_iff]
  fun_induction partsAfter opened s generalizing before with
  | case1 opened =>
    simp only [Cut.ofParts, fieldPlaces, List.not_mem_nil, false_iff]
    rintro ⟨⟨front, -, hs⟩, -⟩
    exact absurd hs (by simp)
  | case2 opened c rest name after h _ ih =>
    obtain ⟨hs, hne, hn, ho, ha⟩ := (placeholderAt?_eq_some _ _ _ _).mp h
    have hfirst : (⟨before, name, after⟩ : Place).Standalone :=
      ⟨hne, fun c hc => (isNameChar_iff c).mp (hn c hc), fun hopen => by simp_all, ha⟩
    -- The scan goes on behind a closing brace, where every placeholder may begin.
    have hmem := ih (before ++ '{' :: (name ++ ['}'])) (by rw [getLast?_braced]; decide)
    have htext := text_cutRest after
    simp only [Cut.ofParts, fieldPlaces, String.toList_ofList, List.append_nil, List.mem_cons,
      htext]
    simp only [List.append_assoc, List.cons_append, List.nil_append] at hmem
    rw [hmem, hs]
    constructor
    · rintro (rfl | ⟨⟨front, hbefore, hafter⟩, hp⟩)
      · exact ⟨⟨[], by simp, rfl⟩, hfirst⟩
      · exact ⟨⟨'{' :: (name ++ '}' :: front), hbefore, by simp [hafter]⟩, hp⟩
    · rintro ⟨⟨front, hbefore, hfront⟩, hp⟩
      by_cases hnil : front = []
      · -- Only one placeholder begins at an opening brace.
        subst hnil
        left
        rw [Place.ext_of_name hp name after hn (List.cons.inj hfront).2, hbefore, List.append_nil]
      · obtain ⟨front, rfl, hafter⟩ := brace_behind_name name after front _ hn hfront hnil
        exact Or.inr ⟨⟨front, by simp [hbefore], hafter⟩, hp⟩
  | case3 opened c rest h ih =>
    -- What the scanner has to know of the text behind it is its last character.
    have hmem := ih (before ++ [c]) (by simp)
    simp only [List.append_assoc, List.cons_append, List.nil_append] at hmem
    simp only [Cut.ofParts]
    rw [hmem]
    constructor
    · rintro ⟨⟨front, hbefore, hrest⟩, hp⟩
      exact ⟨⟨c :: front, hbefore, by rw [hrest, List.cons_append]⟩, hp⟩
    · rintro ⟨⟨front, hbefore, hfront⟩, hp⟩
      cases front with
      | nil =>
        -- A placeholder that begins here would have been seen by the scanner.
        rw [List.append_nil] at hbefore
        have hsome := (placeholderAt?_eq_some opened (c :: rest) p.name p.after).mpr
          ⟨hfront, hp.named, hp.isNameChar, ?_, hp.notClosed⟩
        · rw [h] at hsome
          contradiction
        · rw [← Bool.not_eq_true, hb, ← hbefore]
          exact hp.notOpened
      | cons d front =>
        obtain ⟨rfl, hrest⟩ := List.cons.inj hfront
        exact ⟨⟨front, hbefore, hrest⟩, hp⟩

theorem mem_places_cut_iff (source : String) (p : Place) :
    p ∈ (cut source).places ↔ p.text = source.toList ∧ p.Standalone := by
  have hscan := mem_scanned_places_iff false source.toList [] (by simp) p
  simp only [List.nil_append, List.length_nil, Nat.zero_le, and_true] at hscan
  exact hscan

/-- A placeholder of a text is a name at one of the places that the grammar allows. -/
theorem mem_placeholders_iff (source name : String) :
    name ∈ placeholders source ↔
      ∃ p : Place, p.text = source.toList ∧ p.Standalone ∧ String.ofList p.name = name := by
  rw [← names_cut, Cut.names_eq_map_places, List.mem_map]
  simp only [mem_places_cut_iff, and_assoc]

theorem cut_at (source : String) : (cut source).At source :=
  ⟨text_cut source, mem_places_cut_iff source⟩

-- Of three names in braces only the last one touches no further brace on the outside.
example : (cut "{{a}{b}}{c}").names = ["c"] := by decide +kernel

/-! There is one such cut only: the places of a cut stand in the order of the text, so their set
gives their list, and the list gives the pieces between them. -/

theorem le_length_of_mem_fieldPlaces (before : List Char) (fields : List (List Char × List Char))
    (p : Place) (hp : p ∈ fieldPlaces before fields) : before.length ≤ p.before.length := by
  induction fields generalizing before with
  | nil => exact absurd hp List.not_mem_nil
  | cons field fields ih =>
    rcases List.mem_cons.mp hp with rfl | hrest
    · exact Nat.le_refl _
    · have hlen := ih _ hrest
      rw [List.length_append] at hlen
      omega

theorem fieldPlaces_pairwise (before : List Char) (fields : List (List Char × List Char)) :
    (fieldPlaces before fields).Pairwise fun p q => p.before.length < q.before.length := by
  induction fields generalizing before with
  | nil => exact List.Pairwise.nil
  | cons field fields ih =>
    refine List.Pairwise.cons ?_ (ih _)
    -- Every later place has the braces of this one in front of it.
    intro q hq
    have hlen := le_length_of_mem_fieldPlaces _ fields q hq
    simp only [List.length_append, List.length_cons] at hlen
    change before.length < q.before.length
    omega

theorem pieces_eq_of_places (before lead lead' : List Char)
    (fields fields' : List (List Char × List Char))
    (ht : lead ++ fieldsText fields = lead' ++ fieldsText fields')
    (hp : fieldPlaces (before ++ lead) fields = fieldPlaces (before ++ lead') fields') :
    lead = lead' ∧ fields = fields' := by
  induction fields generalizing before lead lead' fields' with
  | nil =>
    cases fields' with
    | nil => exact ⟨List.append_cancel_right ht, rfl⟩
    | cons field' fields' => exact absurd hp (by simp [fieldPlaces])
  | cons field fields ih =>
    cases fields' with
    | nil => exact absurd hp (by simp [fieldPlaces])
    | cons field' fields' =>
      obtain ⟨name, literal⟩ := field
      obtain ⟨name', literal'⟩ := field'
      obtain ⟨hfirst, hrest⟩ := List.cons.inj hp
      -- The first places agree, and so do the texts in front of and behind them.
      obtain ⟨hlead, rfl, hafter⟩ := Place.mk.inj hfirst
      obtain rfl := List.append_cancel_left hlead
      have hnext := ih (before ++ lead ++ '{' :: (name ++ ['}'])) literal literal' fields' hafter
        (by simpa using hrest)
      exact ⟨rfl, by rw [hnext.1, hnext.2]⟩

theorem Cut.eq_of_places {c c' : Cut} (htext : c.text = c'.text)
    (h : ∀ p : Place, p ∈ c.places ↔ p ∈ c'.places) : c = c' := by
  have hnodup (c : Cut) : c.places.Nodup :=
    (fieldPlaces_pairwise c.lead c.fields).imp fun hlt heq => by simp [heq] at hlt
  have hperm : c.places.Perm c'.places :=
    (List.perm_ext_iff_of_nodup (hnodup c) (hnodup c')).mpr h
  -- Two lists with the same places in the order of the text are one list.
  have hplaces : c.places = c'.places :=
    hperm.eq_of_pairwise (fun p q _ _ hpq hqp => absurd hpq (Nat.lt_asymm hqp))
      (fieldPlaces_pairwise c.lead c.fields) (fieldPlaces_pairwise c'.lead c'.fields)
  obtain ⟨hlead, hfields⟩ := pieces_eq_of_places [] c.lead c'.lead c.fields c'.fields htext hplaces
  cases c
  cases c'
  rw [Cut.mk.injEq]
  exact ⟨hlead, hfields⟩

theorem Cut.At.unique {c c' : Cut} {source : String} (h : c.At source) (h' : c'.At source) :
    c = c' :=
  Cut.eq_of_places (h.whole.trans h'.whole.symm) fun p =>
    (h.exact_places p).trans (h'.exact_places p).symm

end RasterOverlay.Template
