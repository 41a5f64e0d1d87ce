import Mathlib
import RasterOverlay.Proofs.Outcomes
import RasterOverlay.TileLoader

/-!
What it means that an overlay is accepted. A loader is made only of an overlay without a defect; it
keeps the overlay's placement and limits, and its addressing holds the fields of the overlay as they
were given.
-/

namespace RasterOverlay

theorem Overlay.validate_eq_ok_iff (o : Overlay) : o.validate = .ok () ↔ o.defect? = none := by
  rw [Overlay.validate]
  cases o.defect? with
  | none => simp
  | some defect => simp

/-- In a chain of causes none applies if the first does not and none of the others does. -/
theorem ite_some_eq_none_iff {α : Type} (p : Prop) [Decidable p] (a : α) (rest : Option α) :
    (if p then some a else rest) = none ↔ ¬ p ∧ rest = none := by
  by_cases hp : p
  · simp [hp]
  · simp [hp]

theorem Overlay.defect?_eq_none_iff (o : Overlay) :
    o.defect? = none ↔
      (Text.filled? o.url).isSome = true ∧ o.minLevel ≤ o.maxLevel ∧ o.maxLevel ≤ Level.deepest ∧
        o.tileWidth ≠ 0 ∧ o.tileHeight ≠ 0 ∧
        ¬ (o.source = .template ∧ o.invertsRowTwice = true) := by
  simp only [defect?, ite_some_eq_none_iff, Bool.not_eq_true, Option.isNone_eq_false_iff,
    UInt32.not_lt, not_or, and_true, and_assoc, ne_eq]

/-- No overlay is refused for its headers, the options of its service, its projection or its
ellipsoid. -/
theorem Overlay.validate_of_unchecked (o : Overlay) (headers : List (String × String))
    (wmts : Wmts.Options) (projection : Option Projection) (ellipsoid : Option Ellipsoid) :
    { o with headers, wmts, projection, ellipsoid }.validate = o.validate := by
  have hdefect : { o with headers, wmts, projection, ellipsoid }.defect? = o.defect? := by
    rw [defect?, defect?]
    rfl
  rw [validate, validate, hdefect]

namespace TemplateAddressing

def ofFields (o : Overlay) : TemplateAddressing :=
  ⟨o.url, o.subdomains, o.padding, o.levelBias, o.maxLevel, o.tileWidth, o.tileHeight, o.flipRows⟩

theorem ofOverlay_eq_ok_iff (o : Overlay) (a : TemplateAddressing) :
    ofOverlay o = .ok a ↔ o.invertsRowTwice = false ∧ a = ofFields o := by
  rw [ofOverlay, ofFields]
  by_cases htwice : o.invertsRowTwice = true
  · simp [htwice]
  · simp [htwice, eq_comm]

end TemplateAddressing

namespace Wmts.Addressing

def ofFields (o : Overlay) : Addressing :=
  ⟨o.url, .ofUrl o.url, o.wmts.parameters, o.subdomains, o.matrixLabels, o.levelBias⟩

/-- The URL that stands for all base URLs of an overlay when they are checked. -/
def sampleUrl (o : Overlay) : String :=
  String.ofList (putSubdomain (o.subdomains.names.headD "s").toList o.url.toList)

theorem ofOverlay_eq (o : Overlay) :
    ofOverlay o =
      if RequestStyle.ofUrl o.url = .query then
        match Url.ofText (sampleUrl o) with
        | .error reason => .error (.unusable (.baseUrl o.url reason))
        | .ok _ => .ok (ofFields o)
      else .ok (ofFields o) := by
  simp only [ofOverlay]
  rw [show String.ofList (putSubdomain (o.subdomains.names.headD "s").toList o.url.toList) =
    sampleUrl o from rfl]
  by_cases hstyle : RequestStyle.ofUrl o.url = .query
  · rw [if_pos hstyle, if_pos hstyle]
    cases Url.ofText (sampleUrl o) with
    | error reason => rfl
    | ok u => rfl
  · rw [if_neg hstyle, if_neg hstyle]
    rfl

theorem ofOverlay_eq_ok_iff (o : Overlay) (a : Addressing) :
    ofOverlay o = .ok a ↔
      (RequestStyle.ofUrl o.url = .query → ∃ u, Url.ofText (sampleUrl o) = .ok u) ∧
        a = ofFields o := by
  simp only [ofOverlay, ofFields]
  rw [show String.ofList (putSubdomain (o.subdomains.names.headD "s").toList o.url.toList) =
    sampleUrl o from rfl]
  by_cases hstyle : RequestStyle.ofUrl o.url = .query
  · cases hsample : Url.ofText (sampleUrl o) with
    | error reason =>
      simp [hstyle, bind, Except.bind, throw, throwThe, MonadExceptOf.throw]
    | ok u =>
      simp [hstyle, pure, Except.pure, eq_comm]
  · simp [hstyle, pure, Except.pure, eq_comm]

end Wmts.Addressing

namespace TileLoader

/-- The loader that goes with an addressing of an overlay. -/
def withAddressing (o : Overlay) (a : Addressing) : TileLoader :=
  ⟨o.name, a, o.placement, o.headers, o.credit, o.minLevel, o.maxLevel, o.tileWidth, o.tileHeight⟩

theorem ofOverlay_eq_ok_iff (o : Overlay) (l : TileLoader) :
    ofOverlay o = .ok l ↔ ∃ a, Addressing.ofOverlay o = .ok a ∧ l = withAddressing o a := by
  rw [ofOverlay, bind_eq_ok_iff]
  simp only [pure_eq_ok_iff, withAddressing]

variable {o : Overlay}

/-- An overlay with a template is accepted if it has no defect. -/
theorem ofOverlay_eq_ok_iff_of_template (hs : o.source = .template) (l : TileLoader) :
    ofOverlay o = .ok l ↔
      o.defect? = none ∧ l = withAddressing o (.template (TemplateAddressing.ofFields o)) := by
  have honce : o.defect? = none → o.invertsRowTwice = false := by
    intro hvalid
    rw [← Bool.not_eq_true]
    intro htwice
    exact ((o.defect?_eq_none_iff).mp hvalid).2.2.2.2.2 ⟨hs, htwice⟩
  simp only [ofOverlay_eq_ok_iff, Addressing.ofOverlay, hs, bind_eq_ok_iff, pure_eq_ok_iff,
    TemplateAddressing.ofOverlay_eq_ok_iff, o.validate_eq_ok_iff]
  constructor
  · rintro ⟨_, ⟨⟨⟩, hvalid, _, ⟨-, rfl⟩, rfl⟩, rfl⟩
    exact ⟨hvalid, rfl⟩
  · rintro ⟨hvalid, rfl⟩
    exact ⟨_, ⟨(), hvalid, _, ⟨honce hvalid, rfl⟩, rfl⟩, rfl⟩

/-- An overlay of a service is accepted if it has no defect and its base URL, if it has one, is a
URL. -/
theorem ofOverlay_eq_ok_iff_of_wmts (hs : o.source = .wmts) (l : TileLoader) :
    ofOverlay o = .ok l ↔
      o.defect? = none ∧
        (Wmts.RequestStyle.ofUrl o.url = .query →
          ∃ u, Url.ofText (Wmts.Addressing.sampleUrl o) = .ok u) ∧
        l = withAddressing o (.wmts (Wmts.Addressing.ofFields o)) := by
  simp only [ofOverlay_eq_ok_iff, Addressing.ofOverlay, hs, bind_eq_ok_iff, pure_eq_ok_iff,
    Wmts.Addressing.ofOverlay_eq_ok_iff, o.validate_eq_ok_iff]
  constructor
  · rintro ⟨_, ⟨⟨⟩, hvalid, _, ⟨hbase, rfl⟩, rfl⟩, rfl⟩
    exact ⟨hvalid, hbase, rfl⟩
  · rintro ⟨hvalid, hbase, rfl⟩
    exact ⟨_, ⟨(), hvalid, _, ⟨hbase, rfl⟩, rfl⟩, rfl⟩

/-- Before anything is loaded, a tile of an accepted overlay is known to lie in its cell of the
overlay's grid, and to have more detail below it unless it is on the last level or beyond. -/
theorem outlook_of_ofOverlay {l : TileLoader} (h : ofOverlay o = .ok l) (t : Tile) :
    (l.outlook t).rectangle = o.placement.grid.cell t ∧
      ((l.outlook t).moreDetail = true ↔ t.level.toNat < o.maxLevel.toNat) := by
  obtain ⟨a, -, rfl⟩ := (ofOverlay_eq_ok_iff o l).mp h
  refine ⟨rfl, ?_⟩
  rw [outlook, decide_eq_true_iff, UInt32.lt_iff_toNat_lt, withAddressing]

theorem url_of_too_deep (l : TileLoader) {t : Tile} (ht : 30 < t.level.toNat) :
    l.url t = .error (.outsideGrid t) := by
  have hdeep : Level.deepest < t.level := UInt32.lt_iff_toNat_lt.mpr ht
  rw [url, Level.check, if_pos hdeep]
  rfl

theorem url_of_level_le (l : TileLoader) {t : Tile} (ht : t.level.toNat ≤ 30) :
    l.url t = l.addressing.url l.placement t := by
  have hdeep : ¬ Level.deepest < t.level := fun h => by
    have hlt : 30 < t.level.toNat := UInt32.lt_iff_toNat_lt.mp h
    omega
  rw [url, Level.check, if_neg hdeep]
  rfl

end TileLoader

end RasterOverlay
