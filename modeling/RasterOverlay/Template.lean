import RasterOverlay.Text.Blank

/-!
Templates. A placeholder is a name of ASCII letters, digits and underscores in braces that touch no
further brace on the outside; every other character of a template stands for itself. The text is
cut into its parts once, and every use of a template is a use of this list of parts, so that a
replacement is never read again.
-/

namespace RasterOverlay

/-- A character that is copied, or a name that is replaced. -/
inductive TemplatePart where
  | literal (c : Char)
  | placeholder (name : String)
  deriving DecidableEq

namespace TemplatePart

/-- The text of a part in the template it comes from. -/
def source : TemplatePart → List Char
  | literal c => [c]
  | placeholder name => '{' :: name.toList ++ ['}']

def name? : TemplatePart → Option String
  | literal _ => none
  | placeholder name => some name

/-- What a part contributes to the result; only a placeholder asks for its text. -/
def render {m : Type → Type} [Monad m] (replace : String → m String) : TemplatePart → m String
  | literal c => pure (String.singleton c)
  | placeholder name => replace name

end TemplatePart

namespace Template

def isNameChar (c : Char) : Bool := c.isAlphanum || c == '_'

/-- The name of the placeholder that a text begins with, and what follows it. The placeholder may
not stand directly after an opening brace nor directly before a closing one. -/
def placeholderAt? (afterBrace : Bool) : List Char → Option (List Char × List Char)
  | '{' :: inner =>
    match inner.takeWhile isNameChar, inner.dropWhile isNameChar with
    | _ :: _, '}' :: after =>
      if afterBrace || after.head? == some '}' then none
      else some (inner.takeWhile isNameChar, after)
    | _, _ => none
  | _ => none

theorem length_dropWhile_le {α : Type} (p : α → Bool) (s : List α) :
    (s.dropWhile p).length ≤ s.length :=
  (List.dropWhile_sublist p).length_le

theorem length_lt_of_placeholderAt? {afterBrace : Bool} {s name after : List Char}
    (h : placeholderAt? afterBrace s = some (name, after)) : after.length < s.length := by
  unfold placeholderAt? at h
  split at h
  · rename_i inner
    split at h
    · rename_i after' _ hdrop
      split at h
      · contradiction
      · have hle := length_dropWhile_le isNameChar inner
        simp only [Option.some.injEq, Prod.mk.injEq] at h
        rw [hdrop, h.2] at hle
        simp only [List.length_cons] at hle ⊢
        omega
    · contradiction
  · contradiction

/-- The parts of a text, given whether an opening brace stands directly before it. -/
def partsAfter (afterBrace : Bool) : List Char → List TemplatePart
  | [] => []
  | c :: rest =>
    match h : placeholderAt? afterBrace (c :: rest) with
    | some (name, after) =>
      have := length_lt_of_placeholderAt? h
      .placeholder (String.ofList name) :: partsAfter false after
    | none => .literal c :: partsAfter (c == '{') rest
termination_by s => s.length
decreasing_by
  · exact this
  · exact Nat.lt_succ_self rest.length

def parts (text : String) : List TemplatePart := partsAfter false text.toList

/-- The names of the placeholders, in order of appearance. -/
def placeholders (text : String) : List String := (parts text).filterMap TemplatePart.name?

/-- Whether a placeholder has this name, up to the case of its letters. -/
def mentions (text name : String) : Bool := (placeholders text).any (Text.sameLetters name)

/-- Replaces the placeholders from left to right, each by the text that `replace` gives for its
name. If `replace` can fail, its first failure ends the whole. -/
def substitute {m : Type → Type} [Monad m] (replace : String → m String) (text : String) :
    m String := do
  return String.join (← (parts text).mapM (TemplatePart.render replace))

end Template

end RasterOverlay
