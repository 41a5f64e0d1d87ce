import Mathlib
import RasterOverlay.Proofs.DescribedOverlay

/-!
Naming the projection that is the default. An ellipsoid belongs to the projection if one is named,
and stands beside it if none is. Whoever reads the two together cannot tell the cases apart, and
nobody reads only one of them.
-/

namespace RasterOverlay

open Ini (Document)

/-! ## Setting a key -/

namespace Ini

/-- Puts an entry in front of the first section of a name, or into a new one. -/
def putEntry (heading : String) (entry : String × String) : List Section → List Section
  | [] => [⟨heading, [entry]⟩]
  | s :: rest =>
    if s.name = heading then { s with entries := entry :: s.entries } :: rest
    else s :: putEntry heading entry rest

/-- The document in which a key has a value. -/
def Document.set (d : Document) (heading key value : String) : Document :=
  { d with sections := putEntry heading (key, value) d.sections }

variable {heading : String} {entry : String × String}

/-- The first section of the name has the entry in front of those it had. -/
theorem find?_putEntry_same (sections : List Section) :
    (putEntry heading entry sections).find? (fun s => s.name == heading) =
      some ⟨heading, entry ::
        (sections.find? fun s => s.name == heading).elim [] Section.entries⟩ := by
  induction sections with
  | nil => simp [putEntry]
  | cons s rest ih =>
    by_cases hname : s.name = heading
    · simp [putEntry, hname]
    · simp [putEntry, hname, ih]

theorem find?_putEntry_other {other : String} (hother : other ≠ heading)
    (sections : List Section) :
    (putEntry heading entry sections).find? (fun s => s.name == other) =
      sections.find? fun s => s.name == other := by
  have hne : (heading == other) = false := beq_false_of_ne hother.symm
  induction sections with
  | nil => simp [putEntry, hne]
  | cons s rest ih =>
    by_cases hname : s.name = heading
    · simp [putEntry, hname, hne]
    · simp only [putEntry, if_neg hname, List.find?_cons, ih]

namespace Document

variable {d : Document} {key value : String}

theorem section?_set_same : (d.set heading key value).section? heading =
    some ⟨heading, (key, value) :: d.entriesUnder heading⟩ := by
  rw [entriesUnder_eq]
  exact find?_putEntry_same d.sections

theorem section?_set_other {other : String} (hother : other ≠ heading) :
    (d.set heading key value).section? other = d.section? other :=
  find?_putEntry_other hother d.sections

theorem gives_set_same {text : String} :
    (d.set heading key value).Gives heading key text ↔ text = Text.trim value ∧ text ≠ "" := by
  rw [gives_iff]
  constructor
  · rintro ⟨s, raw, hs, hraw, htext⟩
    cases section?_set_same.symm.trans hs
    rw [Section.get?, List.lookup_cons_self] at hraw
    cases hraw
    exact htext
  · intro htext
    exact ⟨_, value, section?_set_same, List.lookup_cons_self, htext⟩

theorem gives_set_other {other text : String} (hother : other ≠ key) :
    (d.set heading key value).Gives heading other text ↔ d.Gives heading other text := by
  have hget : (⟨heading, (key, value) :: d.entriesUnder heading⟩ : Section).get? other =
      (d.section? heading).bind fun s => s.get? other := by
    rw [Section.get?, List.lookup_cons, beq_false_of_ne hother, entriesUnder_eq]
    cases d.section? heading with
    | none => rfl
    | some s => rfl
  rw [gives_iff, gives_iff]
  constructor
  · rintro ⟨s, raw, hs, hraw, htext⟩
    cases section?_set_same.symm.trans hs
    rw [hget] at hraw
    obtain ⟨s, hs, hraw⟩ := Option.bind_eq_some_iff.mp hraw
    exact ⟨s, raw, hs, hraw, htext⟩
  · rintro ⟨s, raw, hs, hraw, htext⟩
    refine ⟨_, raw, section?_set_same, ?_, htext⟩
    rw [hget, hs]
    exact hraw

end Document

end Ini

/-! ## Documents that name the projection -/

/-- The second document says what the first one says, and names the geographic projection, which
the first one leaves to the default. -/
structure NamesGeographic (d d' : Document) (name : String) : Prop where
  unnamed : ∀ text, ¬ d.Gives "overlay" "projection" text
  named : d'.Gives "overlay" "projection" name
  geographic : ProjectionKind.ofName? name = some .geographic
  others : ∀ key, key ≠ "projection" → ∀ text,
    d'.Gives "overlay" key text ↔ d.Gives "overlay" key text
  sections : ∀ heading, heading ≠ "overlay" → d'.section? heading = d.section? heading

/-- Any spelling of the name may be set. -/
theorem namesGeographic_set {d : Document} (h : ∀ text, ¬ d.Gives "overlay" "projection" text)
    {value : String} (hvalue : ProjectionKind.ofName? (Text.trim value) = some .geographic) :
    NamesGeographic d (d.set "overlay" "projection" value) (Text.trim value) where
  unnamed := h
  named := by
    refine Ini.Document.gives_set_same.mpr ⟨rfl, ?_⟩
    intro hempty
    rw [hempty] at hvalue
    exact absurd hvalue (by decide)
  geographic := hvalue
  others := fun _ hkey _ => Ini.Document.gives_set_other hkey
  sections := fun _ hheading => Ini.Document.section?_set_other hheading

/-- The overlay with the default projection named. -/
def Overlay.withGeographic (o : Overlay) : Overlay :=
  { o with
    projection := some ⟨.geographic, o.ellipsoid.getD .wgs84⟩
    ellipsoid := none }

namespace Overlay

variable {d d' : Document} {name : String}

theorem ofHeading_of_names (h : NamesGeographic d d' name) :
    ofHeading (.ofDocument d' "overlay") =
      withGeographic <$> ofHeading (.ofDocument d "overlay") := by
  have htext (key : String) (hkey : key ≠ "projection") :
      (Heading.ofDocument d' "overlay").text? key = (Heading.ofDocument d "overlay").text? key := by
    apply Option.ext
    intro text
    rw [Heading.text?_eq_some_iff, Heading.text?_eq_some_iff]
    exact h.others key hkey text
  have hvalue {α : Type} (key : String) (hkey : key ≠ "projection")
      (read : String → Except Expectation α) :
      (Heading.ofDocument d' "overlay").value? key read =
        (Heading.ofDocument d "overlay").value? key read := by
    rw [Heading.value?, Heading.value?, htext key hkey]
    rfl
  have hunnamed : (Heading.ofDocument d "overlay").value? "projection" ProjectionKind.read =
      .ok none := by
    rw [Heading.value?, Heading.text?_eq_none_iff.mpr h.unnamed]
  have hnamed : (Heading.ofDocument d' "overlay").value? "projection" ProjectionKind.read =
      .ok (some .geographic) := by
    have hread : ProjectionKind.read name = .ok .geographic := by
      unfold ProjectionKind.read
      rw [h.geographic]
    simp only [Heading.value?, Heading.text?_eq_some_iff.mpr h.named, hread]
  have hname := htext "name" (by decide)
  have hurl := htext "url" (by decide)
  have hcredit := htext "credit" (by decide)
  have hsubdomains := htext "subdomains" (by decide)
  have hlabels := htext "tile_matrix_labels" (by decide)
  simp only [ofHeading, Heading.count?, hunnamed, hnamed, hname, hurl, hcredit, hsubdomains,
    hlabels, hvalue "type" (by decide), hvalue "ellipsoid" (by decide),
    hvalue "coverage_rectangle" (by decide), hvalue "tile_width" (by decide),
    hvalue "tile_height" (by decide), hvalue "minimum_level" (by decide),
    hvalue "maximum_level" (by decide), hvalue "level_bias" (by decide),
    hvalue "flip_y" (by decide), map_bind, map_pure]
  rfl

theorem assembled_of_names (h : NamesGeographic d d' name) :
    assembled d' = withGeographic <$> assembled d := by
  have hheading (heading : String) (hother : heading ≠ "overlay") :
      Heading.ofDocument d' heading = Heading.ofDocument d heading := by
    rw [Heading.ofDocument, Heading.ofDocument, h.sections heading hother]
  have hgrid : readGrid d' = readGrid d := by
    rw [readGrid, readGrid, h.sections "tiling_scheme" (by decide),
      hheading "tiling_scheme" (by decide)]
  simp only [assembled, ofHeading_of_names h, hgrid, hheading "zero_padding" (by decide),
    hheading "wmts" (by decide), hheading "headers" (by decide), map_bind, bind_map_left, map_pure]
  rfl

/-- The check does not look at the projection. -/
theorem checked_withGeographic (o : Overlay) :
    checked o.withGeographic = withGeographic <$> checked o := by
  have hvalid : o.withGeographic.validate = o.validate := o.validate_of_unchecked _ _ _ _
  rw [checked, checked, hvalid]
  cases o.validate with
  | ok valid => rfl
  | error cause => rfl

theorem ofDocument_of_names (h : NamesGeographic d d' name) :
    ofDocument d' = withGeographic <$> ofDocument d := by
  rw [ofDocument_eq, ofDocument_eq, assembled_of_names h]
  simp only [bind_map_left, map_bind, checked_withGeographic]

theorem projection_of_unnamed (h : ∀ text, ¬ d.Gives "overlay" "projection" text) {o : Overlay}
    (ho : ofDocument d = .ok o) : o.projection = none := by
  have hunnamed : (Heading.ofDocument d "overlay").value? "projection" ProjectionKind.read =
      .ok none := by
    rw [Heading.value?, Heading.text?_eq_none_iff.mpr h]
  rw [ofDocument_eq] at ho
  obtain ⟨o', hassembled, hchecked⟩ := bind_eq_ok_iff.mp ho
  obtain ⟨rfl, -⟩ := checked_eq_ok_iff.mp hchecked
  obtain ⟨given, hgiven, hrest⟩ := bind_eq_ok_iff.mp hassembled
  have hprojection : given.projection = none := by
    simp only [ofHeading, bind_eq_ok_iff, pure_eq_ok_iff, hunnamed, Except.ok.injEq] at hgiven
    obtain ⟨_, -, _, rfl, _, -, _, -, _, -, _, -, _, -, _, -, _, -, _, -, rfl⟩ := hgiven
    rfl
  simp only [bind_eq_ok_iff, pure_eq_ok_iff] at hrest
  obtain ⟨_, -, _, -, rfl⟩ := hrest
  exact hprojection

/-! ## Readers of the projection -/

theorem placement_withGeographic {o : Overlay} (h : o.projection = none) :
    o.withGeographic.placement = o.placement := by
  rw [placement, placement, h]
  rfl

end Overlay

theorem Addressing.ofOverlay_withGeographic (o : Overlay) :
    ofOverlay o.withGeographic = ofOverlay o := by
  have hvalid : o.withGeographic.validate = o.validate := o.validate_of_unchecked _ _ _ _
  have hsource : o.withGeographic.source = o.source := rfl
  have htemplate : TemplateAddressing.ofOverlay o.withGeographic =
    TemplateAddressing.ofOverlay o := rfl
  have hurl : o.withGeographic.url = o.url := rfl
  have hsample : Wmts.Addressing.sampleUrl o.withGeographic = Wmts.Addressing.sampleUrl o := rfl
  have hfields : Wmts.Addressing.ofFields o.withGeographic = Wmts.Addressing.ofFields o := rfl
  have hservice : Wmts.Addressing.ofOverlay o.withGeographic = Wmts.Addressing.ofOverlay o := by
    rw [Wmts.Addressing.ofOverlay_eq, Wmts.Addressing.ofOverlay_eq, hurl, hsample, hfields]
  rw [ofOverlay, ofOverlay, hvalid, hsource, htemplate, hservice]

theorem TileLoader.ofOverlay_withGeographic {o : Overlay} (h : o.projection = none) :
    ofOverlay o.withGeographic = ofOverlay o := by
  rw [ofOverlay, ofOverlay, Addressing.ofOverlay_withGeographic, o.placement_withGeographic h]
  rfl

/-- A document that leaves the projection to the default, and one that says the same and names it,
describe overlays that lie in the same place and load the same tiles, or neither describes one and
both are refused for the same reason. -/
theorem naming_the_default_projection (d d' : Document) (name : String)
    (h : NamesGeographic d d' name) :
    (∀ e, Overlay.ofDocument d = .error e ↔ Overlay.ofDocument d' = .error e) ∧
    ((∃ o, Overlay.ofDocument d = .ok o) ↔ ∃ o, Overlay.ofDocument d' = .ok o) ∧
    ∀ o o', Overlay.ofDocument d = .ok o → Overlay.ofDocument d' = .ok o' →
      o.placement = o'.placement ∧ Addressing.ofOverlay o = Addressing.ofOverlay o' ∧
      TileLoader.ofOverlay o = TileLoader.ofOverlay o' ∧
      ∀ l l', TileLoader.ofOverlay o = .ok l → TileLoader.ofOverlay o' = .ok l' → ∀ t,
        l.addressing.url o.placement t = l'.addressing.url o'.placement t ∧
        l.url t = l'.url t ∧ l.outlook t = l'.outlook t := by
  have hnamed := Overlay.ofDocument_of_names h
  cases hd : Overlay.ofDocument d with
  | error e =>
    have hd' : Overlay.ofDocument d' = .error e := by
      rw [hnamed, hd]
      rfl
    simp [hd']
  | ok o =>
    have hd' : Overlay.ofDocument d' = .ok o.withGeographic := by
      rw [hnamed, hd]
      rfl
    have hnone := Overlay.projection_of_unnamed h.unnamed hd
    refine ⟨by simp [hd'], by simp [hd'], ?_⟩
    intro o₁ o₂ ho₁ ho₂
    cases ho₁
    cases hd'.symm.trans ho₂
    have hplacement := Overlay.placement_withGeographic hnone
    have hloader := TileLoader.ofOverlay_withGeographic hnone
    refine ⟨hplacement.symm, (Addressing.ofOverlay_withGeographic o).symm, hloader.symm, ?_⟩
    intro l l' hl hl' t
    cases hl.symm.trans (hloader.symm.trans hl')
    exact ⟨by rw [hplacement], rfl, rfl⟩

/-! ## A spelling -/

open Unicode in
theorem rulesOf_capitals (rest : List Char) :
    rulesOf (String.ofList ('\n' :: ' ' :: ' ' :: '4' :: '1' :: '-' :: '5' :: 'A' :: '=' :: '6' ::
      '1' :: ' ' :: rest)) = ⟨0x41, 0x5a, 1, [0x61]⟩ :: rulesOf (String.ofList rest) := by
  have hrule : ruleOf ['4', '1', '-', '5', 'A', '=', '6', '1'] = ⟨0x41, 0x5a, 1, [0x61]⟩ := rfl
  simp only [rulesOf, entries, String.toList_ofList]
  simp [List.splitOnP_cons_eq_if_modifyHead, hrule]

/-- The capitals of ASCII come first among the letters that have a lower case. -/
theorem Unicode.lowerForms_capitals :
    ∃ rest, lowerForms = ⟨0x41, 0x5a, 1, [0x61]⟩ :: rest := by
  refine ⟨?rest, ?first⟩
  case first =>
    rw [lowerForms]
    exact rulesOf_capitals _

theorem Text.lowercase_of_capitals {s : String}
    (h : ∀ c ∈ s.toList, 0x41 ≤ c.toNat ∧ c.toNat ≤ 0x5a) :
    lowercase s = String.ofList (s.toList.map fun c => Char.ofNat (c.toNat + 0x20)) := by
  obtain ⟨rest, hforms⟩ := Unicode.lowerForms_capitals
  have hafter (before letters : List Char)
      (hletters : ∀ c ∈ letters, 0x41 ≤ c.toNat ∧ c.toNat ≤ 0x5a) :
      lowerAfter before letters = letters.map fun c => Char.ofNat (c.toNat + 0x20) := by
    induction letters generalizing before with
    | nil => rfl
    | cons c letters ih =>
      obtain ⟨hlow, hhigh⟩ := hletters c List.mem_cons_self
      have hsigma : c ≠ 'Σ' := by
        rintro rfl
        exact absurd hhigh (by decide)
      have himage : Unicode.imageIn Unicode.lowerForms c = some [Char.ofNat (c.toNat + 0x20)] := by
        have hcode : 0x61 + (c.toNat - 0x41) = c.toNat + 0x20 := by omega
        rw [hforms, Unicode.imageIn, List.findSome?_cons, Unicode.Rule.imageOf?,
          if_pos ⟨hlow, hhigh, Nat.mod_one _⟩]
        simp only [hcode, List.map_nil]
      simp only [lowerAfter, if_neg hsigma, himage, Option.getD_some, List.map_cons,
        List.singleton_append]
      rw [ih (c :: before) fun c' hc' => hletters c' (List.mem_cons_of_mem c hc')]
  rw [lowercase, hafter [] s.toList h]

/-- The name may be written in capitals, with a blank in front of it. -/
theorem naming_the_default_projection_in_capitals :
    let d : Document := ⟨[], [⟨"overlay", [("url", "\x7bz\x7d"), ("ellipsoid", "WGS84")]⟩]⟩
    let d' := d.set "overlay" "projection" " GEOGRAPHIC"
    ∃ o o', Overlay.ofDocument d = .ok o ∧ Overlay.ofDocument d' = .ok o' ∧
      o.placement = o'.placement := by
  intro d d'
  have hunnamed : ∀ text, ¬ d.Gives "overlay" "projection" text := by
    rw [← Heading.text?_eq_none_iff]
    decide +kernel
  have hname : ProjectionKind.ofName? (Text.trim " GEOGRAPHIC") = some .geographic := by
    have htrim : Text.trim (Text.trim " GEOGRAPHIC") = "GEOGRAPHIC" := by decide +kernel
    have hcapitals : ∀ c ∈ "GEOGRAPHIC".toList, 0x41 ≤ c.toNat ∧ c.toNat ≤ 0x5a := by simp
    rw [ProjectionKind.ofName?_eq_some_iff, htrim, Text.lowercase_of_capitals hcapitals]
    decide
  have hnames : NamesGeographic d d' (Text.trim " GEOGRAPHIC") :=
    namesGeographic_set hunnamed hname
  obtain ⟨-, hboth, hsame⟩ := naming_the_default_projection d d' _ hnames
  have haccepted : ∃ o, Overlay.ofDocument d = .ok o := by
    have hsome : (Overlay.ofDocument d).toOption.isSome = true := by decide +kernel
    cases hd : Overlay.ofDocument d with
    | ok o => exact ⟨o, rfl⟩
    | error e =>
      rw [hd] at hsome
      cases hsome
  obtain ⟨o, ho⟩ := haccepted
  obtain ⟨o', ho'⟩ := hboth.mp ⟨o, ho⟩
  exact ⟨o, o', ho, ho', (hsame o o' ho ho').1⟩

end RasterOverlay
