import RasterOverlay.Proofs.PaddedNumbers

/-!
What becomes of a template when its numbers are padded otherwise. The padding is asked about numbers
that are known already, so it decides neither whether a tile has a URL nor why it has none, and in the
URL it decides about the zeros in front of six kinds of numbers.
-/

namespace RasterOverlay

namespace Template

variable {ε : Type}

/-- Whether a template can be filled in, and else why not, is known from the names that are refused. -/
theorem map_substitute_eq (replace : String → Except ε String) (source : String) :
    (substitute replace source).map (fun _ => ()) =
      ((placeholders source).mapM fun name => (replace name).map fun _ => ()).map fun _ => () := by
  rw [substitute_eq_fill, ← map_mapM_eq]
  cases (placeholders source).mapM replace with
  | error e => rfl
  | ok values => rfl

theorem sameOutcome_of_substitute {replace replace' : String → Except ε String} (source : String)
    (h : ∀ name, (replace name).map (fun _ => ()) = (replace' name).map fun _ => ()) :
    SameOutcome (substitute replace source) (substitute replace' source) := by
  apply SameOutcome.of_map_eq (f := fun _ => ()) (g := fun _ => ())
  rw [map_substitute_eq, map_substitute_eq]
  simp only [h]

end Template

namespace Padding

/-- The names of the placeholders that stand for padded numbers. -/
def numberKeys : List String := ["x", "y", "z", "reverseX", "reverseY", "reverseZ"]

/-- Both paddings have the same templates for numbers. -/
def SameForNumbers (p q : Padding) : Prop := ∀ key ∈ numberKeys, p.template? key = q.template? key

end Padding

theorem TemplateField.mem_numberKeys {name : String} {n : TileNumber}
    (h : ofName name = .number n) : name ∈ Padding.numberKeys := by
  -- Every name that stands for something is in the list of known names, which is gone through.
  have hnames : ∀ known ∈ Overlay.fieldNames,
      ofName known = .number n → known ∈ Padding.numberKeys := by
    cases n <;> decide
  exact hnames name (mem_fieldNames h) h

namespace TemplateAddressing

variable {a : TemplateAddressing} {g : Grid Float} {t : Tile}

/-- The same addressing with other zeros in front of its numbers. -/
def repadded (a : TemplateAddressing) (q : Padding) : TemplateAddressing := { a with padding := q }

/-- A number is known before it is padded. -/
theorem number_repadded (q : Padding) (n : TileNumber) :
    (a.repadded q).number g t n = a.number g t n :=
  number_congr rfl rfl fun _ => rfl

theorem map_value_repadded (q : Padding) (name : String) :
    ((a.repadded q).value g t name).map (fun _ => ()) = (a.value g t name).map fun _ => () := by
  rw [value, value]
  cases TemplateField.ofName name with
  | number n =>
    dsimp only
    rw [number_repadded]
    cases a.number g t n with
    | error e => rfl
    | ok m => rfl
  | subdomain => rfl
  | tileWidth => rfl
  | tileHeight => rfl
  | unknown => rfl

theorem value_repadded {q : Padding} (h : q.SameForNumbers a.padding) (name : String) :
    (a.repadded q).value g t name = a.value g t name := by
  rw [value, value]
  cases hname : TemplateField.ofName name with
  | number n =>
    have hpad := Padding.pad_congr (h name (TemplateField.mem_numberKeys hname))
    dsimp only
    rw [number_repadded, ← hpad]
    rfl
  | subdomain => rfl
  | tileWidth => rfl
  | tileHeight => rfl
  | unknown => rfl

theorem sameOutcome_of_repadded (q : Padding) : SameOutcome ((a.repadded q).url g t) (a.url g t) :=
  Template.sameOutcome_of_substitute a.template (map_value_repadded q)

theorem url_repadded {q : Padding} (h : q.SameForNumbers a.padding) :
    (a.repadded q).url g t = a.url g t := by
  have hvalue : (a.repadded q).value g t = a.value g t := funext (value_repadded h)
  rw [url, url, hvalue]
  rfl

theorem ofOverlay_repadded {o : Overlay} (q : Padding) (h : ofOverlay o = .ok a) :
    ofOverlay { o with padding := q } = .ok (a.repadded q) := by
  obtain ⟨honce, rfl⟩ := (ofOverlay_eq_ok_iff o a).mp h
  exact (ofOverlay_eq_ok_iff _ _).mpr ⟨honce, rfl⟩

end TemplateAddressing

namespace TileLoader

variable {o : Overlay} {l : TileLoader}

/-- No overlay is refused for its padding, and only its addressing knows the padding. -/
theorem ofOverlay_repadded (q : Padding) (hs : o.source = .template) (hl : ofOverlay o = .ok l) :
    ∃ a : TemplateAddressing, a.padding = o.padding ∧ l = withAddressing o (.template a) ∧
      ofOverlay { o with padding := q } = .ok (withAddressing o (.template (a.repadded q))) := by
  obtain ⟨hvalid, rfl⟩ := (ofOverlay_eq_ok_iff_of_template hs l).mp hl
  have hvalid' : { o with padding := q }.defect? = none := by
    rw [Overlay.defect?] at hvalid ⊢
    exact hvalid
  have hs' : { o with padding := q }.source = .template := hs
  exact ⟨.ofFields o, rfl, rfl, (ofOverlay_eq_ok_iff_of_template hs' _).mpr ⟨hvalid', rfl⟩⟩

/-- Padding does not change what a number means. However the padding was put together, the template of
a key is the last one given for it, and a padded number is a run of digits as long as this template, or
longer if it has more digits itself, from which the number is read back. With another padding a template
gives a URL to the same tiles and the same reasons for all others, in every placement, and the URLs are
the same if the templates of the six numbers are. -/
theorem padding_keeps_numbers :
    (∀ p given, Padding.Built p given →
      (∀ key template, p.template? key = some template ↔ Padding.LastGiven given key template) ∧
      (∀ key n, (∀ c ∈ (p.pad key n).toList, c.isDigit = true) ∧
        (p.pad key n).length =
          max ((p.template? key).elim 0 String.utf8ByteSize) (Nat.log 10 n.toNat + 1) ∧
        Text.uint64? (p.pad key n) = some n) ∧
      ∀ key, Function.Injective (p.pad key)) ∧
    ∀ (o : Overlay) (q : Padding),
      (∀ a, TemplateAddressing.ofOverlay o = .ok a →
        ∃ a', TemplateAddressing.ofOverlay { o with padding := q } = .ok a' ∧ ∀ place t,
          SameOutcome ((Addressing.template a').url place t) ((Addressing.template a).url place t) ∧
          (q.SameForNumbers o.padding →
            (Addressing.template a').url place t = (Addressing.template a).url place t)) ∧
      ∀ l, o.source = .template → ofOverlay o = .ok l →
        ∃ l', ofOverlay { o with padding := q } = .ok l' ∧ ∀ t,
          SameOutcome (l'.url t) (l.url t) ∧
          (q.SameForNumbers o.padding → l'.url t = l.url t) := by
  constructor
  · intro p given hp
    refine ⟨hp.template?_eq_some_iff, ?_, p.pad_injective⟩
    intro key n
    exact ⟨p.isDigit_of_mem_pad key n, p.length_pad key n, p.uint64?_pad key n⟩
  · intro o q
    constructor
    · intro a ha
      obtain ⟨-, rfl⟩ := (TemplateAddressing.ofOverlay_eq_ok_iff o a).mp ha
      refine ⟨_, TemplateAddressing.ofOverlay_repadded q ha, ?_⟩
      intro place t
      refine ⟨TemplateAddressing.sameOutcome_of_repadded q, ?_⟩
      intro hsame
      exact TemplateAddressing.url_repadded hsame
    · intro l hs hl
      obtain ⟨a, hpadding, rfl, hl'⟩ := ofOverlay_repadded q hs hl
      refine ⟨_, hl', ?_⟩
      intro t
      -- Tiles below level 30 are refused before the addressing is asked.
      rcases Nat.lt_or_ge 30 t.level.toNat with hdeep | hlevel
      · rw [url_of_too_deep _ hdeep, url_of_too_deep _ hdeep]
        exact ⟨SameOutcome.refl _, fun _ => rfl⟩
      · rw [url_of_level_le _ hlevel, url_of_level_le _ hlevel]
        refine ⟨TemplateAddressing.sameOutcome_of_repadded q, ?_⟩
        intro hsame
        rw [← hpadding] at hsame
        exact TemplateAddressing.url_repadded hsame

/-- Only the bytes of a template count, of which the later one has four; with other padding, a column
beyond the grid is reported as before. -/
theorem padding_keeps_numbers_beyond_the_columns :
    let p := (Padding.ofList [("x", "0")]).insert "x" "\u00e9\u00e9"
    let o : Overlay := { url := "{x}/{reverseX}", padding := p }
    (p.pad "x" 7).length = 4 ∧ Text.uint64? (p.pad "x" 7) = some 7 ∧
      ∃ l l', ofOverlay o = .ok l ∧
        ofOverlay { o with padding := .ofList [("reverseX", "000")] } = .ok l' ∧
        l.url ⟨1, 4, 0⟩ = .error (.outsideGrid ⟨1, 4, 0⟩) ∧
        l'.url ⟨1, 4, 0⟩ = .error (.outsideGrid ⟨1, 4, 0⟩) := by
  intro p o
  obtain ⟨hpad, hurl⟩ := padding_keeps_numbers
  obtain ⟨hgiven, htext, -⟩ := hpad p _ (.insert (.ofList [("x", "0")]) "x" "\u00e9\u00e9")
  obtain ⟨-, hlength, hread⟩ := htext "x" 7
  have htemplate : p.template? "x" = some "\u00e9\u00e9" :=
    (hgiven "x" _).mpr ⟨[("x", "0")], [], rfl, by simp⟩
  rw [htemplate] at hlength
  have haccepted := (ofOverlay_eq_ok_iff_of_template (o := o) rfl _).mpr ⟨by decide +kernel, rfl⟩
  obtain ⟨l', haccepted', hsame⟩ := (hurl o (.ofList [("reverseX", "000")])).2 _ rfl haccepted
  have houtside : (withAddressing o (.template (.ofFields o))).url ⟨1, 4, 0⟩ =
      .error (.outsideGrid ⟨1, 4, 0⟩) := by decide +kernel
  refine ⟨hlength.trans (by decide +kernel), hread, _, l', haccepted, haccepted', houtside, ?_⟩
  exact ((hsame ⟨1, 4, 0⟩).1.error_iff _).mpr houtside

end TileLoader

end RasterOverlay
