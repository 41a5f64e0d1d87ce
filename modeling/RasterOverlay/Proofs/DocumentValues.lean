import Mathlib
import RasterOverlay.Overlay.File
import RasterOverlay.Proofs.AcceptedOverlay
import RasterOverlay.Proofs.TrimmedTexts
import RasterOverlay.Proofs.ValueKinds

/-!
Reading the values of a document. A key is given by a heading if it has a text there; its value is
then the value of that text, and the default if no text is given. What can go wrong is a list of
complaints in the order in which they are raised, and the first one that applies is the error.
-/

namespace RasterOverlay

/-! ## Keys and their values -/

namespace Ini

/-- `raw` stands in the first entry of this key. -/
def Section.Holds (s : Section) (key raw : String) : Prop :=
  ∃ before after, s.entries = before ++ (key, raw) :: after ∧ ∀ entry ∈ before, entry.1 ≠ key

theorem Section.get?_eq_some_iff {s : Section} {key raw : String} :
    s.get? key = some raw ↔ s.Holds key raw := by
  simp only [get?, List.lookup_eq_some_iff, Holds, bne_iff_ne, ne_comm]

namespace Document

variable (d : Document)

/-- `s` is the first section of this name. -/
def Opens (heading : String) (s : Section) : Prop :=
  ∃ before after, d.sections = before ++ s :: after ∧ s.name = heading ∧
    ∀ other ∈ before, other.name ≠ heading

def HasHeading (heading : String) : Prop := ∃ s ∈ d.sections, s.name = heading

/-- The text of a key: that of the first entry of this key under the first heading of this name,
without the blanks around it. A blank text is none. -/
def Gives (heading key text : String) : Prop :=
  ∃ s raw, d.Opens heading s ∧ s.Holds key raw ∧ text = Text.trim raw ∧ text ≠ ""

/-- All entries under the first heading of a name, in order. -/
def entriesUnder (heading : String) : List (String × String) :=
  match d.sections.dropWhile fun s => s.name ≠ heading with
  | [] => []
  | s :: _ => s.entries

variable {α : Type} (heading key : String) (kind : ValueKind α)

/-- The value of a key, if a text is given for it. -/
def HasValue : Option α → Prop
  | none => ∀ text, ¬ d.Gives heading key text
  | some value => ∃ text, d.Gives heading key text ∧ kind.Means text value

/-- The value of a key, or the default if it is absent or blank. -/
def Settles (default value : α) : Prop :=
  (∃ text, d.Gives heading key text ∧ kind.Means text value) ∨
    (∀ text, ¬ d.Gives heading key text) ∧ value = default

variable {d heading key kind}

theorem section?_eq_some_iff {s : Section} : d.section? heading = some s ↔ d.Opens heading s := by
  simp only [section?, List.find?_eq_some_iff_append, beq_iff_eq, Bool.not_eq_true',
    beq_eq_false_iff_ne, Opens]
  constructor
  · rintro ⟨hname, before, after, hsections, hfirst⟩
    exact ⟨before, after, hsections, hname, hfirst⟩
  · rintro ⟨before, after, hsections, hname, hfirst⟩
    exact ⟨hname, before, after, hsections, hfirst⟩

theorem section?_isSome_iff : (d.section? heading).isSome = true ↔ d.HasHeading heading := by
  simp only [section?, List.find?_isSome, beq_iff_eq, HasHeading]

theorem entriesUnder_eq :
    d.entriesUnder heading = (d.section? heading).elim [] Section.entries := by
  have hsection : d.section? heading =
      (d.sections.dropWhile fun s => s.name ≠ heading).head? := by
    rw [section?, List.find?_eq_head?_dropWhile_not]
    congr 2
    funext s
    by_cases hname : s.name = heading <;> simp [hname]
  rw [entriesUnder, hsection]
  cases d.sections.dropWhile fun s => s.name ≠ heading <;> rfl

theorem gives_iff {text : String} :
    d.Gives heading key text ↔ ∃ s raw, d.section? heading = some s ∧ s.get? key = some raw ∧
      text = Text.trim raw ∧ text ≠ "" := by
  simp only [Gives, section?_eq_some_iff, Section.get?_eq_some_iff]

theorem settles_iff {default value : α} :
    d.Settles heading key kind default value ↔
      ∃ given, d.HasValue heading key kind given ∧ value = given.getD default := by
  constructor
  · rintro (h | ⟨h, rfl⟩)
    · exact ⟨some value, h, rfl⟩
    · exact ⟨none, h, rfl⟩
  · rintro ⟨given, h, rfl⟩
    cases given with
    | none => exact .inr ⟨h, rfl⟩
    | some given => exact .inl h

end Document

end Ini

namespace Heading

open Ini (Document)

variable {d : Document} {heading key : String}

theorem text?_eq_some_iff {text : String} :
    (ofDocument d heading).text? key = some text ↔ d.Gives heading key text := by
  simp only [text?, ofDocument, Option.bind_eq_some_iff, Text.filled?_eq_some_iff,
    Document.gives_iff]
  cases d.section? heading with
  | none => simp [Ini.Section.get?]
  | some s => simp

theorem text?_eq_none_iff :
    (ofDocument d heading).text? key = none ↔ ∀ text, ¬ d.Gives heading key text := by
  simp only [← text?_eq_some_iff, Option.eq_none_iff_forall_ne_some, ne_eq]

/-- A key has one text. -/
theorem gives_iff_eq {text text' : String} (h : d.Gives heading key text) :
    d.Gives heading key text' ↔ text' = text := by
  rw [← text?_eq_some_iff, text?_eq_some_iff.mpr h, Option.some.injEq, eq_comm]

theorem entries_ofDocument : (ofDocument d heading).body.entries = d.entriesUnder heading := by
  rw [ofDocument, Document.entriesUnder_eq]
  cases d.section? heading <;> rfl

variable {α : Type}

theorem value?_of_gives {kind : ValueKind α} {text : String} (h : d.Gives heading key text) :
    (ofDocument d heading).value? key kind.read =
      match kind.read text with
      | .ok value => .ok (some value)
      | .error expected => .error (.invalidValue heading key text expected) := by
  rw [value?, text?_eq_some_iff.mpr h]
  rfl

theorem value?_of_not_gives {kind : ValueKind α} (h : ∀ text, ¬ d.Gives heading key text) :
    (ofDocument d heading).value? key kind.read = .ok none := by
  rw [value?, text?_eq_none_iff.mpr h]

theorem value?_eq_ok_iff {kind : ValueKind α} {given : Option α} :
    (ofDocument d heading).value? key kind.read = .ok given ↔
      d.HasValue heading key kind given := by
  by_cases hgives : ∃ text, d.Gives heading key text
  · obtain ⟨text, htext⟩ := hgives
    rw [value?_of_gives htext]
    cases given with
    | none =>
      simp only [Document.HasValue, gives_iff_eq htext, forall_eq, iff_false]
      split <;> simp
    | some value =>
      simp only [Document.HasValue, gives_iff_eq htext, exists_eq_left, ← kind.read_eq_ok_iff]
      cases kind.read text <;> simp
  · have hnone := not_exists.mp hgives
    rw [value?_of_not_gives hnone]
    cases given with
    | none => simpa [Document.HasValue] using hnone
    | some value => simp [Document.HasValue, hnone]

end Heading

/-! ## Complaints

A complaint holds of the errors that it raises. In a list of complaints the first one that raises an
error decides, whatever the later ones would say. -/

section Complaints

variable {ε α β : Type}

def Silent (complaints : List (ε → Prop)) : Prop := ∀ complaint ∈ complaints, ∀ e, ¬ complaint e

def FirstOf (complaints : List (ε → Prop)) (e : ε) : Prop :=
  ∃ before complaint after, complaints = before ++ complaint :: after ∧ Silent before ∧ complaint e

theorem silent_nil : Silent ([] : List (ε → Prop)) := List.forall_mem_nil _

theorem silent_append {complaints later : List (ε → Prop)} :
    Silent (complaints ++ later) ↔ Silent complaints ∧ Silent later :=
  List.forall_mem_append

theorem silent_cons {complaint : ε → Prop} {later : List (ε → Prop)} :
    Silent (complaint :: later) ↔ (∀ e, ¬ complaint e) ∧ Silent later :=
  List.forall_mem_cons

theorem not_firstOf_nil (e : ε) : ¬ FirstOf [] e := by
  rintro ⟨before, complaint, after, h, -⟩
  simp at h

theorem firstOf_cons {complaint : ε → Prop} {later : List (ε → Prop)} {e : ε} :
    FirstOf (complaint :: later) e ↔ complaint e ∨ (∀ e', ¬ complaint e') ∧ FirstOf later e := by
  constructor
  · rintro ⟨before, complaint', after, h, hsilent, he⟩
    cases before with
    | nil =>
      obtain ⟨rfl, rfl⟩ := List.cons.inj h
      exact .inl he
    | cons first before =>
      obtain ⟨rfl, rfl⟩ := List.cons.inj h
      obtain ⟨hfirst, hsilent⟩ := silent_cons.mp hsilent
      exact .inr ⟨hfirst, before, complaint', after, rfl, hsilent, he⟩
  · rintro (he | ⟨hfirst, before, complaint', after, rfl, hsilent, he⟩)
    · exact ⟨[], complaint, later, rfl, silent_nil, he⟩
    · exact ⟨complaint :: before, complaint', after, rfl, silent_cons.mpr ⟨hfirst, hsilent⟩, he⟩

theorem firstOf_append {complaints later : List (ε → Prop)} {e : ε} :
    FirstOf (complaints ++ later) e ↔
      FirstOf complaints e ∨ Silent complaints ∧ FirstOf later e := by
  induction complaints with
  | nil => simp [silent_nil, not_firstOf_nil]
  | cons complaint rest ih =>
    rw [List.cons_append, firstOf_cons, firstOf_cons, silent_cons, ih]
    tauto

theorem Silent.not_firstOf {complaints : List (ε → Prop)} (h : Silent complaints) (e : ε) :
    ¬ FirstOf complaints e := by
  rintro ⟨before, complaint, after, rfl, -, he⟩
  exact h complaint (by simp) e he

theorem silent_of_not_firstOf {complaints : List (ε → Prop)} (h : ∀ e, ¬ FirstOf complaints e) :
    Silent complaints := by
  induction complaints with
  | nil => exact silent_nil
  | cons complaint later ih =>
    simp only [firstOf_cons, not_or, not_and] at h
    have hfirst : ∀ e, ¬ complaint e := fun e => (h e).1
    exact silent_cons.mpr ⟨hfirst, ih fun e => (h e).2 hfirst⟩

/-- A computation fails exactly with what the first of the complaints raises. -/
def FailsBy (x : Except ε α) (complaints : List (ε → Prop)) : Prop :=
  ∀ e, x = .error e ↔ FirstOf complaints e

namespace FailsBy

variable {x : Except ε α} {complaints later : List (ε → Prop)}

theorem silent_iff (h : FailsBy x complaints) : Silent complaints ↔ ∃ a, x = .ok a := by
  cases x with
  | ok a =>
    simp only [Except.ok.injEq, exists_eq', iff_true]
    apply silent_of_not_firstOf
    intro e he
    cases (h e).mpr he
  | error e =>
    simp only [reduceCtorEq, exists_false, iff_false]
    exact fun hsilent => hsilent.not_firstOf e ((h e).mp rfl)

theorem of_silent (a : α) (h : Silent complaints) : FailsBy (.ok a) complaints := fun e => by
  simp only [reduceCtorEq, false_iff]
  exact h.not_firstOf e

theorem of_iff {complaint : ε → Prop} (h : ∀ e, x = .error e ↔ complaint e) :
    FailsBy x [complaint] := fun e => by
  rw [firstOf_cons, h]
  simp [not_firstOf_nil]

/-- An error is raised by the complaint that raises nothing else. -/
theorem of_error {complaint : ε → Prop} {e : ε} (h : ∀ e', complaint e' ↔ e' = e) :
    FailsBy (.error e : Except ε α) (complaint :: later) := by
  intro e'
  rw [firstOf_cons, h, Except.error.injEq, eq_comm]
  constructor
  · exact .inl
  · rintro (he | ⟨hsilent, -⟩)
    · exact he
    · exact absurd ((h e).mpr rfl) (hsilent e)

theorem skip {complaint : ε → Prop} (h : ∀ e, ¬ complaint e) (hx : FailsBy x later) :
    FailsBy x (complaint :: later) := fun e => by
  rw [firstOf_cons, hx]
  simp [h]

/-- What is computed first also complains first. -/
theorem bind {f : α → Except ε β} (hx : FailsBy x complaints)
    (hf : ∀ a, x = .ok a → FailsBy (f a) later) : FailsBy (x >>= f) (complaints ++ later) := by
  intro e
  rw [firstOf_append, bind_eq_error_iff, ← hx, hx.silent_iff]
  constructor
  · rintro (he | ⟨a, ha, he⟩)
    · exact .inl he
    · exact .inr ⟨⟨a, ha⟩, (hf a ha e).mp he⟩
  · rintro (he | ⟨⟨a, ha⟩, he⟩)
    · exact .inl he
    · exact .inr ⟨a, ha, (hf a ha e).mpr he⟩

theorem cons {complaint : ε → Prop} {f : α → Except ε β} (hx : FailsBy x [complaint])
    (hf : ∀ a, x = .ok a → FailsBy (f a) later) : FailsBy (x >>= f) (complaint :: later) :=
  hx.bind hf

theorem map {f : α → β} (hx : FailsBy x complaints) : FailsBy (f <$> x) complaints := by
  have h := hx.bind fun a _ => of_silent (f a) silent_nil
  rwa [List.append_nil] at h

end FailsBy

end Complaints

/-! ## Keys that refuse values -/

/-- A key whose values are of a kind. -/
structure Key where
  heading : String
  name : String
  {α : Type}
  kind : ValueKind α

namespace Key

variable (k : Key) (d : Ini.Document)

/-- What is given for the key has a value. -/
def Readable : Prop :=
  ∀ text, d.Gives k.heading k.name text → ∃ value, k.kind.Means text value

/-- The complaint about a text that the kind of the key refuses. -/
def Complains (e : FileError) : Prop :=
  ∃ text expected, d.Gives k.heading k.name text ∧ k.kind.Refuses text expected ∧
    e = .invalidValue k.heading k.name text expected

variable {k d}

theorem not_complains_iff_readable : (∀ e, ¬ k.Complains d e) ↔ k.Readable d := by
  constructor
  · intro h text htext
    obtain hvalue | ⟨expected, hrefused⟩ := k.kind.means_or_refuses text
    · exact hvalue
    · exact absurd ⟨text, expected, htext, hrefused, rfl⟩ (h _)
  · rintro h e ⟨text, expected, htext, hrefused, -⟩
    obtain ⟨value, hvalue⟩ := h text htext
    exact k.kind.not_refuses_of_means hvalue expected hrefused

theorem failsBy_value? {α : Type} {heading name : String} {kind : ValueKind α} :
    FailsBy ((Heading.ofDocument d heading).value? name kind.read)
      [Key.Complains ⟨heading, name, kind⟩ d] := by
  refine .of_iff fun e => ?_
  by_cases hgives : ∃ text, d.Gives heading name text
  · obtain ⟨text, htext⟩ := hgives
    rw [Heading.value?_of_gives htext]
    simp only [Complains, Heading.gives_iff_eq htext, exists_and_left, exists_eq_left,
      ← kind.read_eq_error_iff]
    cases kind.read text <;> simp [eq_comm]
  · rw [Heading.value?_of_not_gives (not_exists.mp hgives)]
    simp only [reduceCtorEq, false_iff]
    rintro ⟨text, expected, htext, -⟩
    exact hgives ⟨text, htext⟩

end Key

end RasterOverlay
