import RasterOverlay.Proofs.TemplateCallbacks

/-!
Templates that are put together from segments: plain texts and placeholders with a role. The
scanner finds the segments again, whatever the placeholders are called and whatever stands next to
what, so what is filled in depends on the roles alone.
-/

namespace RasterOverlay.Template

/-- A text without braces. -/
structure Plain where
  text : List Char
  no_braces : ∀ c ∈ text, c ≠ '{' ∧ c ≠ '}'

/-- A name that a placeholder can have. -/
structure FieldName where
  letters : List Char
  ne_nil : letters ≠ []
  isNameChar : ∀ c ∈ letters, isNameChar c = true

/-- A piece of a template, where a placeholder is given by what it stands for. -/
inductive Segment (ρ : Type) where
  | plain (p : Plain)
  | field (role : ρ)

variable {ρ : Type} (spell : ρ → FieldName)

namespace Segment

/-- The text of a segment, given the names of the placeholders. -/
def text : Segment ρ → List Char
  | plain p => p.text
  | field role => '{' :: ((spell role).letters ++ ['}'])

def parts : Segment ρ → List TemplatePart
  | plain p => p.text.map .literal
  | field role => [.placeholder (String.ofList (spell role).letters)]

/-- What a segment becomes when each role is replaced by its value. -/
def filled (value : ρ → String) : Segment ρ → String
  | plain p => String.ofList p.text
  | field role => value role

end Segment

def writtenText (segments : List (Segment ρ)) : List Char := segments.flatMap (Segment.text spell)

theorem writtenText_cons (segment : Segment ρ) (segments : List (Segment ρ)) :
    writtenText spell (segment :: segments) = segment.text spell ++ writtenText spell segments :=
  List.flatMap_cons

/-- The template that the segments make up. -/
def written (segments : List (Segment ρ)) : String := String.ofList (writtenText spell segments)

/-- The template with a value in place of each role. -/
def filledIn (value : ρ → String) (segments : List (Segment ρ)) : String :=
  String.join (segments.map (Segment.filled value))

/-! The scanner steps over one segment at a time. -/

theorem partsAfter_of_none {opened : Bool} {c : Char} {rest : List Char}
    (h : placeholderAt? opened (c :: rest) = none) :
    partsAfter opened (c :: rest) = .literal c :: partsAfter (c == '{') rest := by
  rw [partsAfter]
  split
  · rename_i hsome
    rw [h] at hsome
    contradiction
  · rfl

theorem partsAfter_of_some {opened : Bool} {c : Char} {rest name after : List Char}
    (h : placeholderAt? opened (c :: rest) = some (name, after)) :
    partsAfter opened (c :: rest) =
      .placeholder (String.ofList name) :: partsAfter false after := by
  rw [partsAfter]
  split
  · rename_i hsome
    rw [h] at hsome
    cases hsome
    rfl
  · rename_i hnone
    rw [h] at hnone
    contradiction

theorem partsAfter_plain (text rest : List Char) (h : ∀ c ∈ text, c ≠ '{') :
    partsAfter false (text ++ rest) = text.map .literal ++ partsAfter false rest := by
  induction text with
  | nil => rfl
  | cons c text ih =>
    have hc : c ≠ '{' := h c List.mem_cons_self
    have hnone : placeholderAt? false (c :: (text ++ rest)) = none := by
      simp [placeholderAt?, hc]
    have hclosed : (c == '{') = false := beq_eq_false_iff_ne.mpr hc
    rw [List.cons_append, partsAfter_of_none hnone, hclosed,
      ih fun d hd => h d (List.mem_cons_of_mem c hd), List.map_cons, List.cons_append]

theorem partsAfter_field (name : FieldName) (rest : List Char) (h : rest.head? ≠ some '}') :
    partsAfter false ('{' :: (name.letters ++ '}' :: rest)) =
      .placeholder (String.ofList name.letters) :: partsAfter false rest :=
  partsAfter_of_some ((placeholderAt?_eq_some false _ _ _).mpr
    ⟨rfl, name.ne_nil, name.isNameChar, rfl, h⟩)

/-- A closing brace only follows a name. -/
theorem head?_writtenText (segments : List (Segment ρ)) :
    (writtenText spell segments).head? ≠ some '}' := by
  induction segments with
  | nil => simp [writtenText]
  | cons segment segments ih =>
    rw [writtenText_cons]
    cases segment with
    | field role => simp [Segment.text]
    | plain p =>
      cases htext : p.text with
      | nil => simpa [Segment.text, htext] using ih
      | cons c text =>
        have hc : c ≠ '}' := (p.no_braces c (by rw [htext]; exact List.mem_cons_self)).2
        simpa [Segment.text, htext] using hc

theorem parts_written (segments : List (Segment ρ)) :
    parts (written spell segments) = segments.flatMap (Segment.parts spell) := by
  rw [parts, written, String.toList_ofList]
  induction segments with
  | nil => simp [writtenText, partsAfter]
  | cons segment segments ih =>
    rw [writtenText_cons, List.flatMap_cons, ← ih]
    cases segment with
    | plain p => exact partsAfter_plain p.text _ fun c hc => (p.no_braces c hc).1
    | field role =>
      simp only [Segment.text, Segment.parts, List.cons_append, List.append_assoc,
        List.nil_append]
      exact partsAfter_field (spell role) _ (head?_writtenText spell segments)

/-! Filling in goes along the segments. -/

section

variable {ε : Type} {replace : String → Except ε String} {value : ρ → String}

theorem mapM_render_plain (text : List Char) :
    (text.map TemplatePart.literal).mapM (TemplatePart.render replace) =
      .ok (text.map String.singleton) := by
  induction text with
  | nil => rfl
  | cons c text ih =>
    rw [List.map_cons, List.mapM_cons, ih]
    rfl

theorem join_singletons (text : List Char) :
    String.join (text.map String.singleton) = String.ofList text := by
  induction text with
  | nil => rfl
  | cons c text ih =>
    rw [List.map_cons, String.join_cons, ih, String.ofList_cons]

theorem render_segment {segment : Segment ρ}
    (h : ∀ role, segment = .field role →
      replace (String.ofList (spell role).letters) = .ok (value role)) :
    ∃ texts, (segment.parts spell).mapM (TemplatePart.render replace) = .ok texts ∧
      String.join texts = segment.filled value := by
  cases segment with
  | plain p => exact ⟨_, mapM_render_plain p.text, join_singletons p.text⟩
  | field role =>
    refine ⟨[value role], ?_, ?_⟩
    · rw [Segment.parts, List.mapM_cons, TemplatePart.render, h role rfl]
      rfl
    · simp [Segment.filled]

/-- If each role that occurs has a value, the template is filled in with the values. -/
theorem substitute_written (segments : List (Segment ρ))
    (h : ∀ role, .field role ∈ segments →
      replace (String.ofList (spell role).letters) = .ok (value role)) :
    substitute replace (written spell segments) = .ok (filledIn value segments) := by
  -- The induction is on the segments, for the texts that are joined in the end.
  suffices htexts : ∃ texts,
      (segments.flatMap (Segment.parts spell)).mapM (TemplatePart.render replace) = .ok texts ∧
        String.join texts = filledIn value segments by
    obtain ⟨texts, hrender, hjoin⟩ := htexts
    rw [substitute, parts_written, hrender, ← hjoin]
    rfl
  induction segments with
  | nil => exact ⟨[], rfl, rfl⟩
  | cons segment segments ih =>
    obtain ⟨texts, hrender, hjoin⟩ := ih fun role hrole => h role (List.mem_cons_of_mem _ hrole)
    have hsegment : ∀ role, segment = .field role →
        replace (String.ofList (spell role).letters) = .ok (value role) := by
      rintro role rfl
      exact h role List.mem_cons_self
    obtain ⟨first, hfirst, hjoinFirst⟩ := render_segment spell hsegment
    refine ⟨first ++ texts, ?_, ?_⟩
    · rw [List.flatMap_cons, List.mapM_append, hfirst, hrender]
      rfl
    · rw [filledIn] at hjoin ⊢
      rw [String.join_append, hjoinFirst, hjoin, List.map_cons, String.join_cons]

end

end RasterOverlay.Template
