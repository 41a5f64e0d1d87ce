import Mathlib
import RasterOverlay.Overlay.Value
import RasterOverlay.Proofs.NumberGrammar
import RasterOverlay.Proofs.SubdomainNotations

/-!
The kinds of value in the description of an overlay. A kind says which texts have which values and
why it refuses all others, and it comes with the reader that does so: a text with a value is read as
that value, and no text is read as a value that it does not have.
-/

namespace RasterOverlay

/-- A kind of value with the reader of its texts. -/
structure ValueKind (α : Type) where
  read : String → Except Expectation α
  Means : String → α → Prop
  Refuses : String → Expectation → Prop
  read_eq_ok_iff : ∀ {text : String} {value : α}, read text = .ok value ↔ Means text value
  read_eq_error_iff : ∀ {text : String} {expected : Expectation},
    read text = .error expected ↔ Refuses text expected

namespace ValueKind

variable {α : Type}

/-- A text has a value or is refused. -/
theorem means_or_refuses (kind : ValueKind α) (text : String) :
    (∃ value, kind.Means text value) ∨ ∃ expected, kind.Refuses text expected := by
  cases h : kind.read text with
  | ok value => exact .inl ⟨value, kind.read_eq_ok_iff.mp h⟩
  | error expected => exact .inr ⟨expected, kind.read_eq_error_iff.mp h⟩

theorem not_refuses_of_means (kind : ValueKind α) {text : String} {value : α}
    (h : kind.Means text value) (expected : Expectation) : ¬ kind.Refuses text expected := by
  intro hrefused
  have hread := kind.read_eq_error_iff.mpr hrefused
  rw [kind.read_eq_ok_iff.mpr h] at hread
  cases hread

/-- A kind whose reader expects the same of every text that has no value. -/
def ofReader (read : String → Except Expectation α) (Means : String → α → Prop)
    (expected : String → Expectation)
    (hok : ∀ {text value}, read text = .ok value ↔ Means text value)
    (herror : ∀ {text e}, read text = .error e → e = expected text) : ValueKind α where
  read := read
  Means := Means
  Refuses text e := (∀ value, ¬ Means text value) ∧ e = expected text
  read_eq_ok_iff := hok
  read_eq_error_iff := by
    intro text e
    simp only [← hok]
    cases hread : read text with
    | ok value => simp
    | error e' => simp [herror hread, eq_comm]

/-- A kind in which every text has a value. -/
def total (value : String → α) (Means : String → α → Prop)
    (hmeans : ∀ text v, value text = v ↔ Means text v) : ValueKind α where
  read text := .ok (value text)
  Means := Means
  Refuses _ _ := False
  read_eq_ok_iff := by simp [hmeans]
  read_eq_error_iff := by simp

end ValueKind

/-! ## Words -/

/-- Between two members that share no name, a name finds the one that it belongs to. -/
theorem find?_pair_eq_some_iff {κ : Type} {a b k : κ} {names : κ → List String} {word : String}
    (hdisjoint : ∀ w ∈ names a, w ∉ names b) (hk : k = a ∨ k = b) :
    [a, b].find? (fun member => (names member).contains word) = some k ↔ word ∈ names k := by
  simp only [List.find?_cons, List.find?_nil, List.contains_eq_mem]
  by_cases ha : word ∈ names a
  · have hb := hdisjoint word ha
    obtain rfl | rfl := hk
    · simp [ha]
    · simp only [ha, decide_true, Option.some.injEq, hb, iff_false]
      rintro rfl
      exact hb ha
  · obtain rfl | rfl := hk
    · by_cases hb : word ∈ names b
      · simp only [ha, hb, decide_false, decide_true, Option.some.injEq, iff_false]
        rintro rfl
        exact ha hb
      · simp [ha, hb]
    · by_cases hb : word ∈ names k
      · simp [ha, hb]
      · simp [ha, hb]

/-- The words for a kind of source, in lower case. -/
def SourceKind.words : SourceKind → List String
  | template => ["url_template", "urltemplate", "template", "xyz"]
  | wmts => ["wmts"]

/-- The words for a kind of projection, in lower case. -/
def ProjectionKind.words : ProjectionKind → List String
  | geographic => ["geographic", "wgs84", "epsg:4326", "crs:84"]
  | webMercator => ["web_mercator", "webmercator", "mercator", "epsg:3857", "epsg:900913"]

theorem SourceKind.ofName?_eq_some_iff {text : String} {kind : SourceKind} :
    ofName? text = some kind ↔ Text.lowercase (Text.trim text) ∈ kind.words := by
  have hwords : spellings = words := by
    funext kind
    cases kind <;> rfl
  have hdisjoint : ∀ w ∈ words template, w ∉ words wmts := by decide
  unfold ofName?
  rw [hwords]
  generalize Text.lowercase (Text.trim text) = word
  exact find?_pair_eq_some_iff hdisjoint (by cases kind <;> simp)

theorem ProjectionKind.ofName?_eq_some_iff {text : String} {kind : ProjectionKind} :
    ofName? text = some kind ↔ Text.lowercase (Text.trim text) ∈ kind.words := by
  have hwords : spellings = words := by
    funext kind
    cases kind <;> rfl
  have hdisjoint : ∀ w ∈ words geographic, w ∉ words webMercator := by decide
  unfold ofName?
  rw [hwords]
  generalize Text.lowercase (Text.trim text) = word
  exact find?_pair_eq_some_iff hdisjoint (by cases kind <;> simp)

namespace Value

/-- The words for a truth value, in lower case. -/
def truthWords : Bool → List String
  | true => ["true", "yes", "1", "on"]
  | false => ["false", "no", "0", "off"]

theorem truth?_eq_some_iff {text : String} {b : Bool} :
    truth? text = some b ↔ Text.lowercase text ∈ truthWords b := by
  have hdisjoint : ∀ w ∈ truthWords true, w ∉ truthWords false := by decide
  rw [← find?_pair_eq_some_iff hdisjoint (by cases b <;> simp)]
  simp only [truth?, List.find?_cons, List.find?_nil, truthWords]
  split
  next htrue => rw [htrue]
  next htrue =>
    rw [Bool.not_eq_true] at htrue
    rw [htrue]
    split
    next hfalse => rw [hfalse]
    next hfalse =>
      rw [Bool.not_eq_true] at hfalse
      rw [hfalse]

/-! ## Lists of numbers -/

/-- The pieces between the commas of a text are these numbers, blanks around them left out. -/
def AreFloats (text : String) (xs : List Float) : Prop :=
  ∃ pieces, Text.ArePieces ',' text pieces ∧
    List.Forall₂ (fun piece x => Number.IsFloat (Text.trim piece).toList x) pieces xs

theorem mapM_eq_some_iff_forall₂ {α β : Type} {f : α → Option β} {l : List α} {r : List β} :
    l.mapM f = some r ↔ List.Forall₂ (fun a b => f a = some b) l r := by
  induction l generalizing r with
  | nil => simp [eq_comm]
  | cons a l ih =>
    simp only [List.mapM_cons, Option.bind_eq_bind, Option.bind_eq_some_iff, Option.pure_def,
      Option.some.injEq, ih, List.forall₂_cons_left_iff]
    constructor
    · rintro ⟨b, hb, bs, hbs, rfl⟩
      exact ⟨b, bs, hb, hbs, rfl⟩
    · rintro ⟨b, bs, hb, hbs, rfl⟩
      exact ⟨b, hb, bs, hbs, rfl⟩

theorem floats?_eq_some_iff {text : String} {xs : List Float} :
    floats? text = some xs ↔ AreFloats text xs := by
  simp only [floats?, mapM_eq_some_iff_forall₂, Number.float?_eq_some_iff, AreFloats,
    ← Text.pieces_eq_iff, exists_eq_left']

/-- The edges of a rectangle, in the order in which they are written. -/
def edges (r : Rectangle Float) : List Float := [r.minX, r.minY, r.maxX, r.maxY]

def Reversed (r : Rectangle Float) : Prop := r.maxX < r.minX ∨ r.maxY < r.minY

/-- The radii of an ellipsoid, in the order in which they are written. -/
def radii (e : Ellipsoid) : List Float := [e.radiusX, e.radiusY, e.radiusZ]

inductive IsEllipsoid : String → Ellipsoid → Prop
  | name {text : String} : Text.sameLetters text "wgs84" = true →
    IsEllipsoid text ⟨6378137.0, 6378137.0, 6356752.314245179⟩
  | radii {text : String} {e : Ellipsoid} :
    AreFloats text (radii e) → (∀ radius ∈ radii e, 0.0 < radius) → IsEllipsoid text e

theorem rectangle_eq_ok_iff {text : String} {r : Rectangle Float} :
    rectangle text = .ok r ↔ AreFloats text (edges r) ∧ ¬ Reversed r := by
  constructor
  · intro h
    rw [rectangle] at h
    split at h
    next minX minY maxX maxY hfour =>
      split_ifs at h with hreversed
      cases h
      exact ⟨floats?_eq_some_iff.mp hfour, hreversed⟩
    next => cases h
  · rintro ⟨hfour, hordered⟩
    rw [rectangle, floats?_eq_some_iff.mpr hfour]
    exact if_neg hordered

theorem rectangle_eq_error_iff {text : String} {e : Expectation} :
    rectangle text = .error e ↔
      (∃ r, AreFloats text (edges r) ∧ Reversed r) ∧ e = .orderedRectangle ∨
      (∀ r, ¬ AreFloats text (edges r)) ∧ e = .rectangle := by
  constructor
  · intro h
    rw [rectangle] at h
    split at h
    next minX minY maxX maxY hfour =>
      split_ifs at h with hreversed
      cases h
      exact .inl ⟨⟨⟨minX, minY, maxX, maxY⟩, floats?_eq_some_iff.mp hfour, hreversed⟩, rfl⟩
    next hother =>
      cases h
      exact .inr ⟨fun r hfour => hother _ _ _ _ (floats?_eq_some_iff.mpr hfour), rfl⟩
  · rintro (⟨⟨r, hfour, hreversed⟩, rfl⟩ | ⟨hother, rfl⟩)
    · rw [rectangle, floats?_eq_some_iff.mpr hfour]
      exact if_pos hreversed
    · rw [rectangle]
      split
      next minX minY maxX maxY hfour =>
        exact absurd (floats?_eq_some_iff.mp hfour) (hother ⟨minX, minY, maxX, maxY⟩)
      next => rfl

/-- Three radii have commas between them, and the name has none. -/
theorem not_sameLetters_of_radii {text : String} {e : Ellipsoid} (h : AreFloats text (radii e)) :
    ¬ Text.sameLetters text "wgs84" = true := by
  intro hsame
  rw [Text.sameLetters, beq_iff_eq] at hsame
  have hcomma : ',' ∉ text.toList := fun hmem => by
    have hlower := List.mem_map_of_mem (f := Char.toLower) hmem
    rw [hsame] at hlower
    exact absurd hlower (by decide)
  obtain ⟨pieces, hpieces, hfloats⟩ := h
  have hone := Text.pieces_eq_iff.mpr hpieces
  rw [Text.pieces, List.splitOn_eq_singleton hcomma] at hone
  rw [← hone] at hfloats
  exact absurd hfloats.length_eq (by simp [radii])

theorem ellipsoid_eq_ok_iff {text : String} {e : Ellipsoid} :
    ellipsoid text = .ok e ↔ IsEllipsoid text e := by
  constructor
  · intro h
    rw [ellipsoid] at h
    split_ifs at h with hname
    · cases h
      exact .name hname
    · split at h
      next x y z hthree =>
        split_ifs at h with hpositive
        cases h
        exact .radii (floats?_eq_some_iff.mp hthree) (by simpa [radii] using hpositive)
      next => cases h
  · intro h
    cases h with
    | name hname =>
      rw [ellipsoid, if_pos hname]
      rfl
    | radii hthree hpositive =>
      rw [ellipsoid, if_neg (not_sameLetters_of_radii hthree), floats?_eq_some_iff.mpr hthree]
      exact if_pos (by simpa [radii] using hpositive)

theorem eq_of_ellipsoid_eq_error {text : String} {e : Expectation}
    (h : ellipsoid text = .error e) : e = .ellipsoid := by
  rw [ellipsoid] at h
  split_ifs at h
  split at h
  · split_ifs at h
    cases h
    rfl
  · cases h
    rfl

end Value

/-! ## The kinds -/

namespace ValueKind

theorem elim_ok_eq_ok_iff {α : Type} {found : Option α} {expected : Expectation} {value : α} :
    found.elim (.error expected) .ok = (.ok value : Except Expectation α) ↔ found = some value := by
  cases found <;> simp

theorem eq_of_elim_ok_eq_error {α : Type} {found : Option α} {expected e : Expectation}
    (h : found.elim (.error expected) .ok = (.error e : Except Expectation α)) : e = expected := by
  cases found with
  | none => exact (Except.error.inj h).symm
  | some value => cases h

/-- A kind whose reader expects `expected` where `read?` finds no value. -/
def ofOption {α : Type} (read : String → Except Expectation α) (read? : String → Option α)
    (expected : String → Expectation) (Means : String → α → Prop)
    (hread : ∀ text, read text = (read? text).elim (.error (expected text)) .ok)
    (hmeans : ∀ {text value}, read? text = some value ↔ Means text value) : ValueKind α :=
  ofReader read Means expected
    (by
      intro text value
      rw [hread, elim_ok_eq_ok_iff, hmeans])
    (by
      intro text e h
      rw [hread] at h
      exact eq_of_elim_ok_eq_error h)

theorem orExpect_eq_elim {α : Type} (expected : Expectation) (read : String → Option α)
    (text : String) :
    Value.orExpect expected read text = (read text).elim (.error expected) .ok := by
  rw [Value.orExpect]
  cases read text <;> rfl

/-- A count of 32 bits. -/
def count (expected : Expectation) : ValueKind UInt32 :=
  ofOption (Value.orExpect expected Text.uint32?) Text.uint32? (fun _ => expected)
    (fun text n => Text.IsNatural text.toList n.toNat)
    (orExpect_eq_elim expected Text.uint32?) Text.uint32?_eq_some_iff

/-- A number of 32 bits with a sign. -/
def signed : ValueKind Int32 :=
  ofOption (Value.orExpect .signedInteger Text.int32?) Text.int32? (fun _ => .signedInteger)
    (fun text n => Text.IsInteger text.toList n.toInt)
    (orExpect_eq_elim .signedInteger Text.int32?) Text.int32?_eq_some_iff

def truth : ValueKind Bool :=
  ofOption (Value.orExpect .truthValue Value.truth?) Value.truth? (fun _ => .truthValue)
    (fun text b => Text.lowercase text ∈ Value.truthWords b)
    (orExpect_eq_elim .truthValue Value.truth?) Value.truth?_eq_some_iff

def source : ValueKind SourceKind :=
  ofOption SourceKind.read SourceKind.ofName?
    (fun text => .sourceKind (Text.lowercase (Text.trim text)))
    (fun text kind => Text.lowercase (Text.trim text) ∈ kind.words)
    (fun text => by rw [SourceKind.read]; cases SourceKind.ofName? text <;> rfl)
    SourceKind.ofName?_eq_some_iff

def projection : ValueKind ProjectionKind :=
  ofOption ProjectionKind.read ProjectionKind.ofName?
    (fun text => .projection (Text.trim text))
    (fun text kind => Text.lowercase (Text.trim text) ∈ kind.words)
    (fun text => by rw [ProjectionKind.read]; cases ProjectionKind.ofName? text <;> rfl)
    ProjectionKind.ofName?_eq_some_iff

def rectangle : ValueKind (Rectangle Float) where
  read := Value.rectangle
  Means text r := Value.AreFloats text (Value.edges r) ∧ ¬ Value.Reversed r
  Refuses text e :=
    (∃ r, Value.AreFloats text (Value.edges r) ∧ Value.Reversed r) ∧ e = .orderedRectangle ∨
    (∀ r, ¬ Value.AreFloats text (Value.edges r)) ∧ e = .rectangle
  read_eq_ok_iff := Value.rectangle_eq_ok_iff
  read_eq_error_iff := Value.rectangle_eq_error_iff

def ellipsoid : ValueKind Ellipsoid :=
  ofReader Value.ellipsoid Value.IsEllipsoid (fun _ => .ellipsoid) Value.ellipsoid_eq_ok_iff
    Value.eq_of_ellipsoid_eq_error

/-- A text stands for itself. -/
def text : ValueKind String := total id (fun text value => value = text) fun _ _ => eq_comm

/-- The pieces between commas, without the blanks around them and without those that are blank. -/
def items : ValueKind (List String) :=
  total Text.commaList Subdomains.AreItems fun _ _ => Subdomains.commaList_eq_iff

def subdomains : ValueKind Subdomains :=
  total Subdomains.parse Subdomains.Means fun _ _ => Subdomains.parse_eq_iff

/-! The reader of each kind is the one that headings are read with. -/

theorem read_source : source.read = SourceKind.read := by
  simp only [source, ofOption, ofReader]

theorem read_projection : projection.read = ProjectionKind.read := by
  simp only [projection, ofOption, ofReader]

theorem read_ellipsoid : ellipsoid.read = Value.ellipsoid := by
  simp only [ellipsoid, ofReader]

theorem read_rectangle : rectangle.read = Value.rectangle := rfl

theorem read_count (expected : Expectation) :
    (count expected).read = Value.orExpect expected Text.uint32? := by
  simp only [count, ofOption, ofReader]

theorem read_signed : signed.read = Value.orExpect .signedInteger Text.int32? := by
  simp only [signed, ofOption, ofReader]

theorem read_truth : truth.read = Value.orExpect .truthValue Value.truth? := by
  simp only [truth, ofOption, ofReader]

end ValueKind

end RasterOverlay
