import RasterOverlay.Proofs.AcceptedOverlay
import RasterOverlay.Proofs.TemplateCallbacks
import RasterOverlay.Proofs.TileIndices

/-!
The URL of a tile from a Web Map Tile Service. The causes for which a tile has none are listed once,
in the order in which they count and in whole numbers, and so are the texts that stand in the URL.
-/

namespace RasterOverlay

/-- The query that asks for a cell of a matrix. -/
def Wmts.Parameters.queryText (p : Wmts.Parameters) (label : String) (row column : Nat) : String :=
  "?service=wmts&request=gettile&version=" ++ p.version ++ "&layer=" ++ p.layer ++ "&style=" ++
    p.style ++ "&tilematrixset=" ++ p.matrixSet ++ "&format=" ++ p.format ++ "&tilematrix=" ++
    label ++ "&tilerow=" ++ toString row ++ "&tilecol=" ++ toString column ++
    match p.token with
    | none => ""
    | some (name, value) => "&" ++ name ++ "=" ++ value

namespace Overlay

/-- The level of a tile as the server counts it, which may be no level. -/
def serverLevel (o : Overlay) (t : Tile) : Int := t.level.toNat + o.levelBias.toInt

def matrixName (o : Overlay) (t : Tile) : String :=
  if o.matrixLabels = [] then toString (o.serverLevel t).toNat
  else o.matrixLabels.getD (o.serverLevel t).toNat ""

def northRow (o : Overlay) (t : Tile) : Nat :=
  (o.placement.grid.rowsAt t.level).toNat - 1 - t.row.toNat

/-- Whether a placeholder asks for a subdomain; in a path its case does not count. -/
def asksSubdomain (o : Overlay) (name : String) : Prop :=
  name = "s" ∨ (Wmts.RequestStyle.ofUrl o.url = .path ∧ name = "S")

instance (o : Overlay) (name : String) : Decidable (o.asksSubdomain name) :=
  inferInstanceAs (Decidable (_ ∨ _))

/-- Why a tile has no URL, if it has none: the first of the causes that applies. -/
def serviceFault? (o : Overlay) (t : Tile) : Option TileError :=
  if 30 < t.level.toNat then some (.outsideGrid t)
  else if o.matrixLabels ≠ [] ∧ o.matrixLabels.length ≤ t.level.toNat then
    some (.noMatrixLabel t.level.toNat o.matrixLabels.length)
  else if o.serverLevel t < 0 then some (.negativeLevel t.level o.levelBias)
  else if o.matrixLabels ≠ [] ∧ o.matrixLabels.length ≤ o.serverLevel t then
    some (.noMatrixLabel (o.serverLevel t).toNat o.matrixLabels.length)
  else if ¬ (t.column.toNat < (o.placement.grid.columnsAt t.level).toNat ∧
      t.row.toNat < (o.placement.grid.rowsAt t.level).toNat) then
    some (.outsideGrid t)
  else if o.subdomains.names = [] ∧ ∃ name ∈ Template.placeholders o.url, o.asksSubdomain name then
    some (.noSubdomains o.url)
  else none

/-- What a placeholder of a base URL stands for. -/
def baseText (o : Overlay) (t : Tile) (name : String) : String :=
  if name = "s" then o.subdomains.turn t else "\x7b" ++ name ++ "\x7d"

/-- What a placeholder of a path stands for. -/
def pathText (o : Overlay) (t : Tile) (row : Nat) (name : String) : String :=
  match name.map Char.toLower with
  | "layer" => o.wmts.parameters.layer
  | "style" => o.wmts.parameters.style
  | "tilematrixset" => o.wmts.parameters.matrixSet
  | "tilematrix" => o.matrixName t
  | "tilerow" => toString row
  | "tilecol" => toString t.column.toNat
  | "s" => o.subdomains.turn t
  | _ => "\x7b" ++ name ++ "\x7d"

/-- The URL of a tile, given the cut of the overlay's URL and the row to ask for. -/
def serviceUrl (o : Overlay) (c : Template.Cut) (t : Tile) (row : Nat) : String :=
  match Wmts.RequestStyle.ofUrl o.url with
  | .query => Wmts.Addressing.withoutQuery (c.fill (c.names.map (o.baseText t))) ++
      o.wmts.parameters.queryText (o.matrixName t) row t.column.toNat
  | .path => c.fill (c.names.map (o.pathText t row))

end Overlay

/-! Only two names are the one of the subdomain in lower case. -/

theorem toLower_eq_s {c : Char} (h : c.toLower = 's') : c = 's' ∨ c = 'S' := by
  rw [Char.toLower] at h
  split at h
  · right
    have hval : c.val + ('a'.val - 'A'.val) = 's'.val := congrArg Char.val h
    rw [show 's'.val = 'S'.val + ('a'.val - 'A'.val) by decide] at hval
    rw [Char.ext_iff]
    exact (UInt32.add_left_inj _).mp hval
  · exact Or.inl h

theorem map_toLower_eq_s_iff (name : String) :
    name.map Char.toLower = "s" ↔ name = "s" ∨ name = "S" := by
  constructor
  · intro h
    have hlist := congrArg String.toList h
    rw [String.toList_map, show "s".toList = ['s'] by decide, List.map_eq_singleton_iff] at hlist
    obtain ⟨c, hname, hc⟩ := hlist
    rw [← String.ofList_toList (s := name), hname]
    rcases toLower_eq_s hc with rfl | rfl
    · exact Or.inl rfl
    · exact Or.inr rfl
  · rintro (rfl | rfl)
    · rw [String.map_eq_internal]
      decide
    · rw [String.map_eq_internal]
      decide

theorem Text.ofNat_eq_repr (n : Nat) : ofNat n = n.repr := rfl

namespace Wmts.Addressing

variable (o : Overlay) {t : Tile}

/-! The label and the cell of a tile. -/

theorem matrixLabel_eq (ht : t.level.toNat ≤ 30) :
    (ofFields o).matrixLabel t.level =
      if o.matrixLabels ≠ [] ∧ o.matrixLabels.length ≤ t.level.toNat then
        .error (.noMatrixLabel t.level.toNat o.matrixLabels.length)
      else if o.serverLevel t < 0 then .error (.negativeLevel t.level o.levelBias)
      else if o.matrixLabels ≠ [] ∧ o.matrixLabels.length ≤ o.serverLevel t then
        .error (.noMatrixLabel (o.serverLevel t).toNat o.matrixLabels.length)
      else .ok (o.matrixName t) := by
  have hsome : 0 < o.matrixLabels.length ↔ o.matrixLabels ≠ [] := List.length_pos_iff
  by_cases hshort : o.matrixLabels ≠ [] ∧ o.matrixLabels.length ≤ t.level.toNat
  · rw [if_pos hshort, matrixLabel, if_pos ⟨hsome.mpr hshort.1, hshort.2⟩]
    rfl
  rw [if_neg hshort, matrixLabel, if_neg fun h => hshort ⟨hsome.mp h.1, h.2⟩]
  -- The level itself has a label, or none are needed; now the biased level is tested.
  by_cases hneg : o.serverLevel t < 0
  · rw [if_pos hneg, show (ofFields o).levelBias = o.levelBias from rfl,
      Level.biased_of_neg _ _ hneg]
    rfl
  have hbias := o.levelBias.toInt_lt
  obtain ⟨b, hb, hbn⟩ := Level.biased_of_nonneg t.level o.levelBias (Int.not_lt.mp hneg) (by omega)
  have hlevel : b.toNat = (o.serverLevel t).toNat := hbn
  have hlabels : (ofFields o).matrixLabels = o.matrixLabels := rfl
  rw [if_neg hneg, show (ofFields o).levelBias = o.levelBias from rfl, hb]
  simp only [bind, Except.bind, hlabels, hlevel, Overlay.matrixName]
  by_cases hnone : o.matrixLabels = []
  · rw [if_pos (List.length_eq_zero_iff.mpr hnone), if_neg fun h => h.1 hnone, if_pos hnone]
    rfl
  rw [if_neg (mt List.length_eq_zero_iff.mp hnone), if_neg hnone]
  -- A positive bias can still lead beyond the last label.
  by_cases hbeyond : o.matrixLabels.length ≤ o.serverLevel t
  · rw [if_pos ⟨hnone, hbeyond⟩, List.getElem?_eq_none (by omega)]
    rfl
  · have hlt : (o.serverLevel t).toNat < o.matrixLabels.length := by omega
    rw [if_neg fun h => hbeyond h.2, List.getElem?_eq_getElem hlt,
      List.getD_eq_getElem?_getD, List.getElem?_eq_getElem hlt]
    rfl

/-- A tile of the grid that has a label has a cell. -/
theorem matrixCell_of_contains {label : String}
    (hlabel : (ofFields o).matrixLabel t.level = .ok label)
    (hin : o.placement.grid.contains t = true) :
    ∃ row, (ofFields o).matrixCell o.placement.grid t = .ok ⟨label, row, t.column⟩ ∧
      row.toNat = o.northRow t := by
  obtain ⟨row, hrow, hrown⟩ := invertRow_of_lt ((Grid.contains_iff _ _).mp hin).2
  refine ⟨row, ?_, hrown⟩
  rw [matrixCell, hlabel, hin, hrow]
  rfl

theorem matrixCell_of_not_contains {label : String}
    (hlabel : (ofFields o).matrixLabel t.level = .ok label)
    (hout : o.placement.grid.contains t = false) :
    (ofFields o).matrixCell o.placement.grid t = .error (.outsideGrid t) := by
  rw [matrixCell, hlabel, hout]
  rfl

/-! Why a tile has no label, no cell or no subdomain, for any addressing. -/

section

variable {a : Addressing} {g : Grid Float} {e : TileError}

theorem error_of_matrixLabel {level : UInt32} (h : a.matrixLabel level = .error e) :
    e = .negativeLevel level a.levelBias ∨ ∃ n, e = .noMatrixLabel n a.matrixLabels.length := by
  simp only [matrixLabel] at h
  split at h
  · exact .inr ⟨_, (Except.error.inj h).symm⟩
  obtain hbiased | ⟨b, -, hlabel⟩ := bind_eq_error_iff.mp h
  · exact .inl (Level.error_of_biased hbiased)
  · split at hlabel
    · cases hlabel
    · split at hlabel
      · cases hlabel
      · exact .inr ⟨_, (Except.error.inj hlabel).symm⟩

theorem error_of_matrixCell (h : a.matrixCell g t = .error e) :
    a.matrixLabel t.level = .error e ∨ (e = .outsideGrid t ∧ g.contains t = false) := by
  rw [matrixCell, bind_eq_error_iff] at h
  obtain hlabel | ⟨label, -, h⟩ := h
  · exact .inl hlabel
  refine .inr ?_
  cases hin : g.contains t with
  | false =>
    rw [hin] at h
    exact ⟨(Except.error.inj h).symm, rfl⟩
  | true =>
    -- A row of the grid has a place from the north.
    obtain ⟨r, hr, -⟩ := invertRow_of_lt ((g.contains_iff t).mp hin).2
    rw [hin, hr] at h
    cases h

theorem error_of_subdomain (h : a.subdomain t = .error e) : e = .noSubdomains a.url :=
  (getOrFail_eq_error_iff.mp h).2

end

/-! The texts of the two styles. -/

theorem writeQuery_queryPairs (p : Parameters) (cell : MatrixCell) :
    "?" ++ writeQuery (queryPairs p cell) =
      p.queryText cell.label cell.row.toNat cell.column.toNat := by
  have hpieces : "?service=wmts&request=gettile&version=" =
        "?" ++ ("service" ++ ("=" ++ ("wmts" ++ ("&" ++ ("request" ++ ("=" ++ ("gettile" ++
          ("&" ++ ("version" ++ "="))))))))) ∧
      "&layer=" = "&" ++ ("layer" ++ "=") ∧ "&style=" = "&" ++ ("style" ++ "=") ∧
      "&tilematrixset=" = "&" ++ ("tilematrixset" ++ "=") ∧
      "&format=" = "&" ++ ("format" ++ "=") ∧ "&tilematrix=" = "&" ++ ("tilematrix" ++ "=") ∧
      "&tilerow=" = "&" ++ ("tilerow" ++ "=") ∧ "&tilecol=" = "&" ++ ("tilecol" ++ "=") := by
    decide
  have hrow : toString cell.row.toNat = Text.ofNat cell.row.toNat := rfl
  have hcolumn : toString cell.column.toNat = Text.ofNat cell.column.toNat := rfl
  -- The two sides differ only in where the fixed texts are cut.
  unfold writeQuery queryPairs Parameters.queryText
  rw [hrow, hcolumn]
  generalize Text.ofNat cell.row.toNat = row
  generalize Text.ofNat cell.column.toNat = column
  cases p.token with
  | none =>
    simp only [Option.toList_none, List.append_nil, List.map_cons, List.map_nil,
      String.intercalate_cons_cons, String.intercalate_singleton, String.append_assoc, hpieces,
      String.append_empty]
  | some token =>
    simp only [Option.toList_some, List.cons_append, List.nil_append, List.map_cons, List.map_nil,
      String.intercalate_cons_cons, String.intercalate_singleton, String.append_assoc, hpieces]

theorem subdomain_eq (t : Tile) :
    (ofFields o).subdomain t =
      (if o.subdomains.names = [] then some (.noSubdomains o.url) else none).elim
        (.ok (o.subdomains.turn t)) .error := by
  rw [subdomain, show (ofFields o).subdomains = o.subdomains from rfl, Subdomains.select?_eq]
  by_cases hnone : o.subdomains.names = []
  · rw [if_pos hnone, if_pos hnone]
    rfl
  · rw [if_neg hnone, if_neg hnone]
    rfl

/-- Why a placeholder stands for nothing, if it does. -/
def fieldFault? (o : Overlay) (name : String) : Option TileError :=
  if o.subdomains.names = [] ∧ o.asksSubdomain name then some (.noSubdomains o.url) else none

theorem baseValue_eq (hstyle : RequestStyle.ofUrl o.url = .query) (t : Tile) (name : String) :
    (if name = "s" then (ofFields o).subdomain t else .ok (inBraces name)) =
      (fieldFault? o name).elim (.ok (o.baseText t name)) .error := by
  have hasks : o.asksSubdomain name ↔ name = "s" := by
    simp [Overlay.asksSubdomain, hstyle]
  by_cases hs : name = "s"
  · simp only [subdomain_eq, fieldFault?, hasks, Overlay.baseText, if_pos hs, and_iff_left hs]
  · simp only [fieldFault?, hasks, Overlay.baseText, hs, and_false]
    rfl

theorem pathValue_eq (hstyle : RequestStyle.ofUrl o.url = .path) (cell : MatrixCell)
    (hlabel : cell.label = o.matrixName t) (hcolumn : cell.column = t.column) (name : String) :
    (ofFields o).pathValue t cell name =
      (fieldFault? o name).elim (.ok (o.pathText t cell.row.toNat name)) .error := by
  have hasks : o.asksSubdomain name ↔ name.map Char.toLower = "s" := by
    rw [map_toLower_eq_s_iff]
    simp [Overlay.asksSubdomain, hstyle]
  simp only [pathValue, fieldFault?, hasks, Overlay.pathText]
  generalize name.map Char.toLower = word
  by_cases hknown :
      word ∈ ["layer", "style", "tilematrixset", "tilematrix", "tilerow", "tilecol", "s"]
  · simp only [List.mem_cons, List.not_mem_nil, or_false] at hknown
    rcases hknown with rfl | rfl | rfl | rfl | rfl | rfl | rfl
    · simp [ofFields]
    · simp [ofFields]
    · simp [ofFields]
    · simp [hlabel]
    · simp [Text.ofNat_eq_repr]
    · simp [hcolumn, Text.ofNat_eq_repr]
    · simp [subdomain_eq]
  · simp only [List.mem_cons, List.not_mem_nil, or_false, not_or] at hknown
    simp [hknown, inBraces]

/-- One fault among several names is found whatever its place. -/
theorem findSome?_fieldFault? (names : List String) :
    names.findSome? (fieldFault? o) =
      if o.subdomains.names = [] ∧ ∃ name ∈ names, o.asksSubdomain name then
        some (.noSubdomains o.url)
      else none := by
  induction names with
  | nil => simp
  | cons name names ih =>
    rw [List.findSome?_cons, ih, fieldFault?]
    by_cases hnone : o.subdomains.names = []
    · by_cases hname : o.asksSubdomain name
      · simp [hnone, hname]
      · simp [hnone, hname]
    · simp [hnone]

theorem tileUrl_of_no_label {e : TileError}
    (hlabel : (ofFields o).matrixLabel t.level = .error e) :
    (ofFields o).tileUrl o.placement.grid t = .error e := by
  rw [tileUrl, matrixCell, hlabel]
  rfl

theorem tileUrl_of_no_cell {e : TileError}
    (hcell : (ofFields o).matrixCell o.placement.grid t = .error e) :
    (ofFields o).tileUrl o.placement.grid t = .error e := by
  rw [tileUrl, hcell]
  rfl

/-- The last part of a request: the URL is there if no placeholder misses a subdomain. -/
theorem tileUrl_of_cell {cell : MatrixCell}
    (hcell : (ofFields o).matrixCell o.placement.grid t = .ok cell)
    (hlabel : cell.label = o.matrixName t) (hcolumn : cell.column = t.column) :
    (ofFields o).tileUrl o.placement.grid t =
      ((Template.placeholders o.url).findSome? (fieldFault? o)).elim
        (.ok (o.serviceUrl (Template.cut o.url) t cell.row.toNat)) .error := by
  have hurl : (ofFields o).tileUrl o.placement.grid t =
      match RequestStyle.ofUrl o.url with
      | .query => (ofFields o).queryUrl t cell
      | .path => (ofFields o).pathUrl t cell := by
    rw [tileUrl, hcell]
    rfl
  rw [hurl, Overlay.serviceUrl, Template.names_cut]
  cases hstyle : RequestStyle.ofUrl o.url with
  | query =>
    -- The query is put behind the base URL after the placeholders of that are filled in.
    have hbase := Template.substitute_of_faults (baseValue_eq o hstyle t) o.url
    have hquery := writeQuery_queryPairs o.wmts.parameters cell
    rw [hlabel, hcolumn] at hquery
    simp only [queryUrl, baseUrl, show (ofFields o).url = o.url from rfl,
      show (ofFields o).parameters = o.wmts.parameters from rfl]
    rw [hbase, ← hquery]
    cases (Template.placeholders o.url).findSome? (fieldFault? o) with
    | none => simp [bind, Except.bind, pure, Except.pure, String.append_assoc]
    | some e => rfl
  | path =>
    exact Template.substitute_of_faults (pathValue_eq o hstyle cell hlabel hcolumn) o.url

end Wmts.Addressing

namespace TileLoader

theorem url_eq_of_wmts {o : Overlay} {l : TileLoader} (hl : ofOverlay o = .ok l)
    (hs : o.source = .wmts) (t : Tile) :
    l.url t =
      (o.serviceFault? t).elim (.ok (o.serviceUrl (Template.cut o.url) t (o.northRow t)))
        .error := by
  obtain ⟨-, -, rfl⟩ := (ofOverlay_eq_ok_iff_of_wmts hs l).mp hl
  rw [Overlay.serviceFault?]
  by_cases hdeep : 30 < t.level.toNat
  · rw [if_pos hdeep, url_of_too_deep _ hdeep]
    rfl
  rw [if_neg hdeep, url_of_level_le _ (Nat.not_lt.mp hdeep)]
  show (Wmts.Addressing.ofFields o).tileUrl o.placement.grid t = _
  have hlabel := Wmts.Addressing.matrixLabel_eq o (Nat.not_lt.mp hdeep)
  -- The first three causes are those of the label.
  by_cases hshort : o.matrixLabels ≠ [] ∧ o.matrixLabels.length ≤ t.level.toNat
  · rw [if_pos hshort] at hlabel ⊢
    exact Wmts.Addressing.tileUrl_of_no_label o hlabel
  rw [if_neg hshort] at hlabel ⊢
  by_cases hneg : o.serverLevel t < 0
  · rw [if_pos hneg] at hlabel ⊢
    exact Wmts.Addressing.tileUrl_of_no_label o hlabel
  rw [if_neg hneg] at hlabel ⊢
  by_cases hbeyond : o.matrixLabels ≠ [] ∧ o.matrixLabels.length ≤ o.serverLevel t
  · rw [if_pos hbeyond] at hlabel ⊢
    exact Wmts.Addressing.tileUrl_of_no_label o hlabel
  rw [if_neg hbeyond] at hlabel ⊢
  -- From here on the tile has a label, and the grid decides.
  have hcontains := Grid.contains_iff o.placement.grid t
  cases hin : o.placement.grid.contains t with
  | false =>
    rw [hin] at hcontains
    rw [if_pos fun h => absurd (hcontains.mpr h) (by decide)]
    exact Wmts.Addressing.tileUrl_of_no_cell o
      (Wmts.Addressing.matrixCell_of_not_contains o hlabel hin)
  | true =>
    obtain ⟨row, hcell, hrow⟩ := Wmts.Addressing.matrixCell_of_contains o hlabel hin
    rw [if_neg (not_not_intro (hcontains.mp hin)),
      Wmts.Addressing.tileUrl_of_cell o hcell rfl rfl, hrow,
      Wmts.Addressing.findSome?_fieldFault?]

/-- Asking a service for the URL of a tile fails with the first cause that applies; if none does,
the URL is that of the service with the label, the row and the column of the tile. -/
theorem service_url_outcome (o : Overlay) (l : TileLoader) (t : Tile) (hl : ofOverlay o = .ok l)
    (hs : o.source = .wmts) :
    ∃ c : Template.Cut, c.At o.url ∧
      l.url t =
        match o.serviceFault? t with
        | some e => .error e
        | none => .ok (o.serviceUrl c t (o.northRow t)) := by
  refine ⟨Template.cut o.url, Template.cut_at o.url, ?_⟩
  rw [url_eq_of_wmts hl hs]
  cases o.serviceFault? t with
  | none => rfl
  | some e => rfl

/-- The label is that of the level after the bias, and the row is counted from the north. -/
theorem service_url_outcome_of_labels :
    let o : Overlay :=
      { source := .wmts
        url := "{TileMatrix}/{TileRow}/{TileCol}"
        levelBias := 1
        matrixLabels := ["a", "b", "c"] }
    ∃ l, ofOverlay o = .ok l ∧ l.url ⟨1, 3, 0⟩ = .ok "c/1/3" := by
  intro o
  have hpath : Wmts.RequestStyle.ofUrl o.url ≠ .query := by decide +kernel
  have haccepted := (ofOverlay_eq_ok_iff_of_wmts (o := o) rfl _).mpr
    ⟨by decide +kernel, fun hquery => absurd hquery hpath, rfl⟩
  refine ⟨_, haccepted, ?_⟩
  obtain ⟨c, hc, hurl⟩ := service_url_outcome o _ ⟨1, 3, 0⟩ haccepted rfl
  have hfault : o.serviceFault? ⟨1, 3, 0⟩ = none := by decide +kernel
  have htext : o.serviceUrl (Template.cut o.url) ⟨1, 3, 0⟩ (o.northRow ⟨1, 3, 0⟩) = "c/1/3" := by
    decide +kernel
  rw [hurl, hc.unique (Template.cut_at _), hfault, htext]

end TileLoader

end RasterOverlay
