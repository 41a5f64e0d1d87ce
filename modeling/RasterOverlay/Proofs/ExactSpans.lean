import Mathlib
import RasterOverlay.Proofs.ExactIndices
import RasterOverlay.Proofs.WrittenTemplate

/-!
Filling in a text by positions. The names in braces are found first, whatever stands around them,
and each is then told to be a placeholder or not by the characters at the two positions next to it.
What lies between the placeholders is copied by slices. The running scanner walks over the
characters and has no positions; here both are shown to come to the same, and no position to lie
outside the text. A position counts the characters in front of it.
-/

namespace RasterOverlay.Exact

open Template (isNameChar placeholderAt? partsAfter)

/-! ## Results that may be refused -/

/-- A computation without a misstep, whose result may be a refusal all the same. -/
def settled {α : Type} (x : Except TileError α) : ExceptT TileError Exact α := ExceptT.mk (.ok x)

theorem settled_bind {α β : Type} (x : Except TileError α) (f : α → Except TileError β) :
    settled (x >>= f) = settled x >>= fun a => settled (f a) := by
  cases x with
  | error e => rfl
  | ok a => rfl

/-! ## Spans -/

/-- A name in braces, the position where it begins and the one behind it. -/
structure Span where
  start : ℕ
  stop : ℕ
  name : List Char

/-- The name in braces that a text begins with, and what follows it. -/
def bracedAt? : List Char → Option (List Char × List Char)
  | '{' :: inner =>
    match inner.takeWhile isNameChar, inner.dropWhile isNameChar with
    | c :: name, '}' :: after => some (c :: name, after)
    | _, _ => none
  | _ => none

theorem bracedAt?_eq_some_iff {s name after : List Char} :
    bracedAt? s = some (name, after) ↔
      s = '{' :: (name ++ '}' :: after) ∧ name ≠ [] ∧ ∀ c ∈ name, isNameChar c = true := by
  constructor
  · intro h
    unfold bracedAt? at h
    split at h
    · rename_i inner
      split at h
      · rename_i c letters after' htake hdrop
        cases h
        refine ⟨?_, List.cons_ne_nil _ _, ?_⟩
        · rw [← hdrop, ← htake, List.takeWhile_append_dropWhile]
        · intro d hd
          rw [← htake] at hd
          exact List.all_eq_true.mp List.all_takeWhile d hd
      · contradiction
    · contradiction
  · rintro ⟨rfl, hne, hn⟩
    obtain ⟨htake, hdrop⟩ := Template.takeWhile_name name after hn
    obtain ⟨c, name, rfl⟩ := List.exists_cons_of_ne_nil hne
    rw [bracedAt?, htake, hdrop]
    rfl

theorem length_lt_of_bracedAt? {s name after : List Char} (h : bracedAt? s = some (name, after)) :
    after.length < s.length := by
  obtain ⟨rfl, -, -⟩ := bracedAt?_eq_some_iff.mp h
  simp only [List.length_cons, List.length_append]
  omega

/-- A placeholder is a name in braces that touches no further brace. -/
theorem placeholderAt?_eq (opened : Bool) (s : List Char) :
    placeholderAt? opened s =
      (bracedAt? s).filter fun (_, after) => !opened && after.head? != some '}' := by
  apply Option.ext
  rintro ⟨name, after⟩
  rw [Template.placeholderAt?_eq_some, Option.filter_eq_some_iff, bracedAt?_eq_some_iff]
  cases opened with
  | true => simp
  | false => simp [and_assoc]

/-- The names in braces of a text that begins at a position, none of which overlap. -/
def spansFrom (start : ℕ) : List Char → List Span
  | [] => []
  | c :: rest =>
    match h : bracedAt? (c :: rest) with
    | some (name, after) =>
      have := length_lt_of_bracedAt? h
      ⟨start, start + (name.length + 2), name⟩ :: spansFrom (start + (name.length + 2)) after
    | none => spansFrom (start + 1) rest
termination_by s => s.length
decreasing_by
  · exact this
  · exact Nat.lt_succ_self rest.length

/-- Whether no further brace stands next to a span. -/
def standsAlone (s : List Char) (span : Span) : Exact Bool := do
  let closed := s[span.stop]? == some '}'
  if 0 < span.start then
    let before ← entry s (← sub span.start 1)
    return before != '{' && !closed
  else return !closed

/-- The spans that stand alone. -/
def placeholders (s : List Char) : List Span → Exact (List Span)
  | [] => return []
  | span :: spans => do
    let alone ← standsAlone s span
    let others ← placeholders s spans
    return if alone then span :: others else others

/-- The characters between two positions. -/
def slice (s : List Char) (start stop : ℕ) : Exact (List Char) :=
  if start ≤ stop ∧ stop ≤ s.length then .ok ((s.take stop).drop start) else .error .outOfList

/-- Fills in the spans of a text from a position on. -/
def fillFrom (s : List Char) (replace : String → ExceptT TileError Exact String) (position : ℕ) :
    List Span → ExceptT TileError Exact String
  | [] => do
    let rest ← ExceptT.lift (slice s position s.length)
    return String.ofList rest
  | span :: spans => do
    let lead ← ExceptT.lift (slice s position span.start)
    let value ← replace (String.ofList span.name)
    let rest ← fillFrom s replace span.stop spans
    return String.ofList lead ++ (value ++ rest)

def substitute (replace : String → ExceptT TileError Exact String) (text : String) :
    ExceptT TileError Exact String := do
  let s := text.toList
  let spans ← ExceptT.lift (placeholders s (spansFrom 0 s))
  fillFrom s replace 0 spans

/-! ## Spans of parts -/

/-- The spans of the placeholders among some parts. -/
def partSpans (start : ℕ) : List TemplatePart → List Span
  | [] => []
  | .literal _ :: parts => partSpans (start + 1) parts
  | .placeholder name :: parts =>
    let stop := start + (name.toList.length + 2)
    ⟨start, stop, name.toList⟩ :: partSpans stop parts

theorem partSpans_literals (start : ℕ) (text : List Char) (parts : List TemplatePart) :
    partSpans start (text.map .literal ++ parts) = partSpans (start + text.length) parts := by
  induction text generalizing start with
  | nil => rfl
  | cons c text ih =>
    rw [List.map_cons, List.cons_append, partSpans, ih, List.length_cons, Nat.add_assoc,
      Nat.add_comm 1]

/-- Behind a brace whose name is no placeholder the scanner passes over this name. -/
theorem partSpans_of_touched {opened : Bool} {name after : List Char} (start : ℕ)
    (hn : ∀ c ∈ name, isNameChar c = true)
    (h : placeholderAt? opened ('{' :: (name ++ '}' :: after)) = none) :
    partSpans start (partsAfter opened ('{' :: (name ++ '}' :: after))) =
      partSpans (start + (name.length + 2)) (partsAfter false after) := by
  have hclosed : placeholderAt? false ('}' :: after) = none := rfl
  -- only an opening brace in front of it would tell the scanner anything
  have hname : partsAfter true (name ++ '}' :: after) =
      (name ++ ['}']).map .literal ++ partsAfter false after := by
    cases name with
    | nil => exact Template.partsAfter_of_none rfl
    | cons c name =>
      have hplain (d : Char) (hd : d ∈ c :: name) : d ≠ '{' := by
        rintro rfl
        exact absurd (hn _ hd) (by decide)
      have hc : c ≠ '{' := hplain c List.mem_cons_self
      have hnone : placeholderAt? true (c :: (name ++ '}' :: after)) = none := by
        simp [placeholderAt?, hc]
      rw [List.cons_append, Template.partsAfter_of_none hnone, beq_false_of_ne hc,
        Template.partsAfter_plain name _ fun d hd => hplain d (List.mem_cons_of_mem c hd),
        Template.partsAfter_of_none hclosed, List.map_append, List.append_assoc]
      rfl
  rw [Template.partsAfter_of_none h, partSpans]
  show partSpans (start + 1) (partsAfter true _) = _
  rw [hname, partSpans_literals, List.length_append, List.length_singleton, Nat.add_assoc start,
    Nat.add_comm 1]

/-- The character in front of a position is the last one of the text that lies behind it. -/
theorem standsAlone_eq (before name after : List Char) :
    standsAlone (before ++ '{' :: (name ++ '}' :: after))
        ⟨before.length, before.length + (name.length + 2), name⟩ =
      .ok (before.getLast? != some '{' && after.head? != some '}') := by
  have hclosed : (before ++ '{' :: (name ++ '}' :: after))[before.length + (name.length + 2)]? =
      after.head? := by
    have hbehind : name.length ≤ name.length + 1 := Nat.le_succ _
    rw [List.getElem?_append_right (Nat.le_add_right _ _), Nat.add_sub_cancel_left,
      List.getElem?_cons_succ, List.getElem?_append_right hbehind, Nat.add_sub_cancel_left,
      List.getElem?_cons_succ, List.head?_eq_getElem?]
  rw [standsAlone]
  simp only [hclosed]
  rcases List.eq_nil_or_concat' before with rfl | ⟨front, c, rfl⟩
  · rfl
  · have hlength : (front ++ [c]).length = front.length + 1 := List.length_append
    have hsub : sub (front ++ [c]).length 1 = .ok front.length := by
      rw [hlength]
      exact sub_eq_of_nat (Nat.le_add_left 1 _)
    have hlast : entry (front ++ [c] ++ '{' :: (name ++ '}' :: after)) front.length = .ok c := by
      rw [entry, List.append_assoc, List.getElem?_append_right (Nat.le_refl _), Nat.sub_self]
      rfl
    have hpos : 0 < (front ++ [c]).length := by omega
    rw [if_pos hpos, hsub]
    show (entry _ front.length >>= _) = _
    rw [hlast, List.getLast?_concat]
    rfl

theorem spansFrom_of_some {start : ℕ} {c : Char} {rest name after : List Char}
    (h : bracedAt? (c :: rest) = some (name, after)) :
    spansFrom start (c :: rest) =
      ⟨start, start + (name.length + 2), name⟩ :: spansFrom (start + (name.length + 2)) after := by
  rw [spansFrom]
  split
  · rename_i hsome
    cases h.symm.trans hsome
    rfl
  · rename_i hnone
    cases h.symm.trans hnone

theorem spansFrom_of_none {start : ℕ} {c : Char} {rest : List Char}
    (h : bracedAt? (c :: rest) = none) :
    spansFrom start (c :: rest) = spansFrom (start + 1) rest := by
  rw [spansFrom]
  split
  · rename_i hsome
    cases h.symm.trans hsome
  · rfl

/-- The spans that stand alone are those of the placeholders that the running scanner finds. The
induction is on the search for spans; `before` is the text that lies behind it. -/
theorem placeholders_spansFrom (start : ℕ) (rest before : List Char) (opened : Bool)
    (hstart : start = before.length) (hopened : opened = (before.getLast? == some '{')) :
    placeholders (before ++ rest) (spansFrom start rest) =
      .ok (partSpans start (partsAfter opened rest)) := by
  induction start, rest using spansFrom.induct generalizing before opened with
  | case1 start =>
    rw [spansFrom, partsAfter]
    rfl
  | case2 start c rest name after h _ ih =>
    obtain ⟨hs, hne, hn⟩ := bracedAt?_eq_some_iff.mp h
    have hlater := ih (before ++ '{' :: (name ++ ['}'])) false
      (by simp only [hstart, List.length_append, List.length_cons, List.length_nil])
      (by rw [Template.getLast?_braced]; rfl)
    have htext : before ++ '{' :: (name ++ ['}']) ++ after = before ++ c :: rest := by
      rw [hs]
      simp only [List.append_assoc, List.cons_append, List.nil_append]
    rw [htext] at hlater
    have hplaceholder : placeholderAt? opened (c :: rest) =
        if before.getLast? != some '{' && after.head? != some '}' then some (name, after)
        else none := by
      rw [placeholderAt?_eq, h, hopened]
      rfl
    rw [spansFrom_of_some h, placeholders, hlater, hstart]
    rw [hs, standsAlone_eq]
    rw [hs] at hplaceholder
    -- the search and the scanner look at the same two characters
    cases hstands : before.getLast? != some '{' && after.head? != some '}' with
    | true =>
      rw [hstands] at hplaceholder
      rw [Template.partsAfter_of_some hplaceholder, partSpans, String.toList_ofList]
      rfl
    | false =>
      rw [hstands] at hplaceholder
      rw [partSpans_of_touched _ hn hplaceholder]
      rfl
  | case3 start c rest h ih =>
    have hnone : placeholderAt? opened (c :: rest) = none := by
      rw [placeholderAt?_eq, h]
      rfl
    have hlater := ih (before ++ [c]) (c == '{')
      (by rw [hstart, List.length_append, List.length_singleton])
      (by rw [List.getLast?_concat]; rfl)
    rw [List.append_assoc] at hlater
    rw [spansFrom_of_none h, Template.partsAfter_of_none hnone, partSpans]
    exact hlater

theorem slice_eq (front middle back : List Char) :
    slice (front ++ (middle ++ back)) front.length (front.length + middle.length) = .ok middle := by
  have hinside : front.length + middle.length ≤ (front ++ (middle ++ back)).length := by
    simp only [List.length_append]
    omega
  rw [slice, if_pos ⟨Nat.le_add_right _ _, hinside⟩, ← List.append_assoc, ← List.length_append,
    List.take_left, List.drop_left]

theorem fillFrom_settled (replace : String → Except TileError String) (parts : List TemplatePart)
    (front lead : List Char) :
    fillFrom (front ++ (lead ++ parts.flatMap TemplatePart.source))
        (fun name => settled (replace name)) front.length
        (partSpans (front.length + lead.length) parts) =
      settled (do
        let values ← parts.mapM (TemplatePart.render replace)
        return String.ofList lead ++ String.join values) := by
  -- `lead` is what the next slice will copy, the literals since the last placeholder
  induction parts generalizing front lead with
  | nil =>
    have hslice := slice_eq front lead []
    rw [List.append_nil] at hslice
    rw [List.flatMap_nil, List.append_nil, partSpans, fillFrom, List.length_append, hslice]
    show settled (.ok (String.ofList lead)) = settled (.ok (String.ofList lead ++ String.join []))
    rw [String.join_nil, String.append_empty]
  | cons part parts ih =>
    rw [List.flatMap_cons, List.mapM_cons]
    cases part with
    | literal c =>
      have hlater := ih front (lead ++ [c])
      rw [List.append_assoc, List.length_append, List.length_singleton, ← Nat.add_assoc] at hlater
      rw [partSpans, TemplatePart.source, hlater, TemplatePart.render, pure_bind, bind_assoc]
      congr 1
      refine bind_congr fun values => ?_
      rw [pure_bind, String.join_cons, String.ofList_append, String.append_assoc]
      rfl
    | placeholder name =>
      have hlater := ih (front ++ (lead ++ TemplatePart.source (.placeholder name))) []
      have hslice := slice_eq front lead
        (TemplatePart.source (.placeholder name) ++ parts.flatMap TemplatePart.source)
      have hstop : (front ++ (lead ++ TemplatePart.source (.placeholder name))).length =
          front.length + lead.length + (name.toList.length + 2) := by
        simp only [TemplatePart.source, List.length_append, List.length_cons, List.length_nil]
        omega
      rw [List.nil_append, List.append_assoc, List.append_assoc, hstop] at hlater
      simp only [List.length_nil, Nat.add_zero] at hlater
      simp only [partSpans, fillFrom, hslice, String.ofList_toList, hlater, TemplatePart.render]
      cases replace name with
      | error e => rfl
      | ok value =>
        cases parts.mapM (TemplatePart.render replace) with
        | error e => rfl
        | ok values =>
          show settled (.ok (String.ofList lead ++
              (value ++ (String.ofList [] ++ String.join values)))) =
            settled (.ok (String.ofList lead ++ String.join (value :: values)))
          rw [String.ofList_nil, String.empty_append, String.join_cons]

theorem substitute_settled (replace : String → Except TileError String) (text : String) :
    substitute (fun name => settled (replace name)) text =
      settled (Template.substitute replace text) := by
  have hspans := placeholders_spansFrom 0 text.toList [] false rfl rfl
  have hfill := fillFrom_settled replace (Template.parts text) [] []
  have htext : (Template.parts text).flatMap TemplatePart.source = text.toList :=
    Template.flatMap_source_partsAfter false text.toList
  rw [List.nil_append, List.nil_append, htext] at hfill
  rw [List.nil_append] at hspans
  rw [substitute]
  simp only [hspans]
  show fillFrom text.toList _ 0 (partSpans 0 (Template.parts text)) = _
  refine hfill.trans (congrArg settled ?_)
  rw [Template.substitute]
  refine bind_congr fun values => ?_
  rw [String.ofList_nil, String.empty_append]

end RasterOverlay.Exact
