import RasterOverlay.Proofs.DistinctQueries
import RasterOverlay.Proofs.NamedPlaces

/-!
The placeholders of a path. A path of a service is filled in where one of seven names stands in braces,
whatever the case of its letters. All else is copied: unknown names stay in their braces as they were
spelled, and the texts of the service are not read again even if they look like placeholders. So the
spelling of the seven names is of no account to any tile.
-/

namespace RasterOverlay

namespace Wmts

/-- What a path can ask for. -/
inductive PathRole where
  | layer
  | style
  | matrixSet
  | matrix
  | row
  | column
  | subdomain
  deriving DecidableEq

namespace PathRole

def all : List PathRole := [layer, style, matrixSet, matrix, row, column, subdomain]

def name : PathRole → String
  | layer => "layer"
  | style => "style"
  | matrixSet => "tilematrixset"
  | matrix => "tilematrix"
  | row => "tilerow"
  | column => "tilecol"
  | subdomain => "s"

/-- Whether a placeholder has one of the seven names, up to the case of its letters. -/
def isNamed (name : String) : Bool := all.any fun role => Text.sameLetters role.name name

/-- What a role is replaced by, if it has a value. -/
def value (a : Addressing) (t : Tile) (cell : MatrixCell) : PathRole → Except TileError String
  | layer => .ok a.parameters.layer
  | style => .ok a.parameters.style
  | matrixSet => .ok a.parameters.matrixSet
  | matrix => .ok cell.label
  | row => .ok (Text.ofNat cell.row.toNat)
  | column => .ok (Text.ofNat cell.column.toNat)
  | subdomain => a.subdomain t

end PathRole

/-- The server's name for the level of a tile: that of the level after the bias, or its number. -/
def Addressing.levelName (a : Addressing) (level : UInt32) : String :=
  if a.matrixLabels = [] then toString (level.toNat + a.levelBias.toInt).toNat
  else a.matrixLabels.getD (level.toNat + a.levelBias.toInt).toNat ""

/-- What a role stands for on a tile. -/
def PathRole.text (a : Addressing) (g : Grid Float) (t : Tile) : PathRole → String
  | layer => a.parameters.layer
  | style => a.parameters.style
  | matrixSet => a.parameters.matrixSet
  | matrix => a.levelName t.level
  | row => toString ((g.rowsAt t.level).toNat - 1 - t.row.toNat)
  | column => toString t.column.toNat
  | subdomain => a.subdomains.turn t

/-! ## The names -/

namespace PathRole

theorem mem_all (role : PathRole) : role ∈ all := by
  cases role <;> decide

theorem isNamed_iff (name : String) :
    isNamed name = true ↔ ∃ role : PathRole, Text.sameLetters role.name name = true := by
  rw [isNamed, List.any_eq_true]
  constructor
  · rintro ⟨role, -, hname⟩
    exact ⟨role, hname⟩
  · rintro ⟨role, hname⟩
    exact ⟨role, role.mem_all, hname⟩

/-- The seven names are in lower case, so a placeholder is compared in lower case. -/
theorem sameLetters_name_iff (role : PathRole) (name : String) :
    Text.sameLetters role.name name = true ↔ name.map Char.toLower = role.name := by
  have hlower : role.name.toList.map Char.toLower = role.name.toList := by
    cases role <;> decide
  rw [Text.sameLetters, beq_iff_eq, hlower, ← String.toList_inj, String.toList_map, eq_comm]

end PathRole

theorem isNameChar_toLower (c : Char) :
    Template.isNameChar c.toLower = Template.isNameChar c := by
  by_cases hupper : c.isUpper = true
  · have hlower : c.toLower.isAlpha = true := by
      rw [Char.isAlpha_toLower_eq_isAlpha, Char.isAlpha, hupper, Bool.true_or]
    have hletter : c.isAlpha = true := by rw [Char.isAlpha, hupper, Bool.true_or]
    simp [Template.isNameChar, Char.isAlphanum, hlower, hletter]
  · rw [Char.toLower_eq_of_not_isUpper hupper]

/-- A name stays a name if the case of its letters is changed. -/
theorem isName_of_sameLetters {name name' : String} (h : Text.sameLetters name name' = true)
    (hname : Template.IsName name) : Template.IsName name' := by
  have hletters : name.toList.map Char.toLower = name'.toList.map Char.toLower := beq_iff_eq.mp h
  refine ⟨?_, ?_⟩
  · intro hnil
    rw [hnil, List.map_nil, List.map_eq_nil_iff] at hletters
    exact hname.ne_nil hletters
  · intro c hc
    have hlower : c.toLower ∈ name.toList.map Char.toLower := by
      rw [hletters]
      exact List.mem_map_of_mem hc
    obtain ⟨d, hd, hsame⟩ := List.mem_map.mp hlower
    rw [← isNameChar_toLower, ← hsame, isNameChar_toLower]
    exact hname.isNameChar d hd

/-! ## The values -/

namespace Addressing

variable {a : Addressing} {g : Grid Float} {t : Tile} {cell : MatrixCell} {name : String}

theorem pathValue_of_named {role : PathRole} (h : Text.sameLetters role.name name = true) :
    a.pathValue t cell name = role.value a t cell := by
  have hword := (role.sameLetters_name_iff name).mp h
  cases role with
  | layer => simp [pathValue, hword, PathRole.name, PathRole.value]
  | style => simp [pathValue, hword, PathRole.name, PathRole.value]
  | matrixSet => simp [pathValue, hword, PathRole.name, PathRole.value]
  | matrix => simp [pathValue, hword, PathRole.name, PathRole.value]
  | row => simp [pathValue, hword, PathRole.name, PathRole.value]
  | column => simp [pathValue, hword, PathRole.name, PathRole.value]
  | subdomain => simp [pathValue, hword, PathRole.name, PathRole.value]

theorem pathValue_of_not_named (h : PathRole.isNamed name = false) :
    a.pathValue t cell name = .ok (inBraces name) := by
  have hword : ∀ role ∈ PathRole.all, name.map Char.toLower ≠ role.name := by
    intro role _ hrole
    have hnamed := (PathRole.isNamed_iff name).mpr ⟨role, (role.sameLetters_name_iff name).mpr hrole⟩
    rw [h] at hnamed
    cases hnamed
  simp only [PathRole.all, List.forall_mem_cons, PathRole.name] at hword
  obtain ⟨hlayer, hstyle, hset, hmatrix, hrow, hcolumn, hsubdomain, -⟩ := hword
  simp only [pathValue]
  rw [if_neg hlayer, if_neg hstyle, if_neg hset, if_neg hmatrix, if_neg hrow, if_neg hcolumn,
    if_neg hsubdomain]

/-- The label of a cell is the name of its level. -/
theorem label_eq_levelName {level : UInt32} {label : String} (h : a.matrixLabel level = .ok label) :
    label = a.levelName level := by
  obtain ⟨b, hb, hnumber, hname⟩ := label_of_matrixLabel h
  have hlevel : b.toNat = (level.toNat + a.levelBias.toInt).toNat := by
    have hsum := Level.toNat_of_biased hb
    omega
  rw [levelName, ← hlevel]
  by_cases hnone : a.matrixLabels = []
  · rw [if_pos hnone, hnumber hnone]
    rfl
  · rw [if_neg hnone, List.getD_eq_getElem?_getD, hname hnone, Option.getD_some]

theorem turn_of_subdomain {s : String} (h : a.subdomain t = .ok s) : s = a.subdomains.turn t := by
  rw [subdomain, Subdomains.select?_eq] at h
  split at h
  · cases h
  · cases h
    rfl

theorem value_eq_text {role : PathRole} {text : String} (hcell : a.matrixCell g t = .ok cell)
    (h : role.value a t cell = .ok text) : text = role.text a g t := by
  obtain ⟨hlabel, hrow, hcolumn⟩ := matrixCell_eq_ok hcell
  cases role with
  | layer => exact (Except.ok.inj h).symm
  | style => exact (Except.ok.inj h).symm
  | matrixSet => exact (Except.ok.inj h).symm
  | matrix =>
    obtain rfl := Except.ok.inj h
    exact label_eq_levelName hlabel
  | row =>
    obtain rfl := Except.ok.inj h
    rw [(of_invertRow_eq_some hrow).2]
    rfl
  | column =>
    obtain rfl := Except.ok.inj h
    rw [hcolumn]
    rfl
  | subdomain => exact turn_of_subdomain h

theorem exists_roles_of_mapM {names values : List String} (hcell : a.matrixCell g t = .ok cell)
    (hnames : ∀ name ∈ names, PathRole.isNamed name = true)
    (h : names.mapM (a.pathValue t cell) = .ok values) :
    ∃ roles : List PathRole,
      List.Forall₂ (fun name role => Text.sameLetters role.name name = true) names roles ∧
        values = roles.map fun role => role.text a g t := by
  rw [mapM_eq_ok_iff_forall₂] at h
  induction h with
  | nil => exact ⟨[], .nil, rfl⟩
  | @cons name text names texts htext _ ih =>
    obtain ⟨hname, hrest⟩ := List.forall_mem_cons.mp hnames
    obtain ⟨roles, hroles, rfl⟩ := ih hrest
    obtain ⟨role, hrole⟩ := (PathRole.isNamed_iff name).mp hname
    rw [pathValue_of_named hrole] at htext
    refine ⟨role :: roles, .cons hrole hroles, ?_⟩
    rw [List.map_cons, value_eq_text hcell htext]

theorem tileUrl_of_path (hstyle : a.style = .path) :
    a.tileUrl g t = a.matrixCell g t >>= a.pathUrl t := by
  rw [tileUrl]
  simp only [hstyle]

/-! ## Another spelling -/

variable {url : String}

/-- No failure in front of the filling in of a path cites its URL. -/
theorem citing_of_matrixCell {e : TileError} (h : a.matrixCell g t = .error e) :
    e.citing url = e := by
  rcases error_of_matrixCell h with hlabel | ⟨rfl, -⟩
  · rcases error_of_matrixLabel hlabel with rfl | ⟨n, rfl⟩
    · rfl
    · rfl
  · rfl

theorem subdomain_respelled (a : Addressing) (url : String) (t : Tile) :
    { a with url := url }.subdomain t = (a.subdomain t).mapError (.citing url) := by
  rw [subdomain, subdomain]
  cases a.subdomains.select? t with
  | none => rfl
  | some s => rfl

theorem pathValue_respelled {name' : String}
    (h : Template.OnlyPicked PathRole.isNamed (fun n n' => Text.sameLetters n n' = true) name name') :
    { a with url := url }.pathValue t cell name' =
      (a.pathValue t cell name).mapError (.citing url) := by
  by_cases hnamed : PathRole.isNamed name = true
  · rw [Template.OnlyPicked, if_pos hnamed] at h
    obtain ⟨role, hrole⟩ := (PathRole.isNamed_iff name).mp hnamed
    have hrole' : Text.sameLetters role.name name' = true := by
      rw [Text.sameLetters, ← beq_iff_eq.mp h]
      exact hrole
    rw [pathValue_of_named hrole, pathValue_of_named hrole']
    cases role with
    | subdomain => exact subdomain_respelled a url t
    | layer => rfl
    | style => rfl
    | matrixSet => rfl
    | matrix => rfl
    | row => rfl
    | column => rfl
  · rw [Template.OnlyPicked, if_neg hnamed] at h
    rw [h, pathValue_of_not_named (Bool.eq_false_iff.mpr hnamed),
      pathValue_of_not_named (Bool.eq_false_iff.mpr hnamed)]
    rfl

theorem tileUrl_respelled (hstyle : a.style = .path) {c : Template.Cut}
    (hc : (Template.cutNamed PathRole.isNamed a.url).Renamed
      (fun n n' => Text.sameLetters n n' = true) c) (htext : c.text = url.toList) :
    { a with url := url }.tileUrl g t = (a.tileUrl g t).mapError (.citing url) := by
  have hparts := Template.parts_renamed (fun _ _ => isName_of_sameLetters) hc htext
  have hstyle' : { a with url := url }.style = .path := hstyle
  -- The cell of a tile is found without the URL.
  have hcell : { a with url := url }.matrixCell g t = a.matrixCell g t := rfl
  rw [tileUrl_of_path hstyle, tileUrl_of_path hstyle', hcell]
  cases h : a.matrixCell g t with
  | error e =>
    have hcites : e.citing url = e := citing_of_matrixCell h
    show Except.error e = Except.error (e.citing url)
    rw [hcites]
  | ok cell =>
    show Template.substitute _ url = Except.mapError _ (Template.substitute _ a.url)
    exact Template.substitute_renamed (fun _ _ hname => pathValue_respelled hname) hparts

end Addressing

end Wmts

/-- A path is filled in at its placeholders with one of the seven names, in any case of their letters,
and nowhere else: in a URL each of them is replaced by what its role stands for on the tile, and the
text between them is that of the path. With other cases of these names the path leads to the same URL
for each tile, or to the same failure, which may cite the path. -/
theorem Addressing.url_of_path_by_roles (a : Wmts.Addressing) (hstyle : a.style = .path) :
    ∃ c : Template.Cut, c.AtNamed Wmts.PathRole.isNamed a.url ∧
      (∀ (p : Placement) (t : Tile) (u : String), (Addressing.wmts a).url p t = .ok u →
        ∃ roles : List Wmts.PathRole,
          List.Forall₂ (fun name role => Text.sameLetters role.name name = true) c.names roles ∧
          u = c.fill (roles.map fun role => role.text a p.grid t)) ∧
      ∀ (c' : Template.Cut) (url : String),
        c.Renamed (fun name name' => Text.sameLetters name name' = true) c' →
        c'.text = url.toList →
        ∀ (p : Placement) (t : Tile), (Addressing.wmts { a with url := url }).url p t =
          ((Addressing.wmts a).url p t).mapError (.citing url) := by
  refine ⟨Template.cutNamed Wmts.PathRole.isNamed a.url, Template.cutNamed_at _ _, ?_, ?_⟩
  · intro p t u h
    have hurl : a.tileUrl p.grid t = .ok u := h
    rw [Wmts.Addressing.tileUrl_of_path hstyle, bind_eq_ok_iff] at hurl
    obtain ⟨cell, hcell, hpath⟩ := hurl
    rw [Wmts.Addressing.pathUrl, Template.substitute_eq_fill_named Wmts.PathRole.isNamed
      (fun _ => Wmts.Addressing.pathValue_of_not_named)] at hpath
    obtain ⟨values, hvalues, rfl⟩ := map_eq_ok_iff.mp hpath
    have hnames : ∀ name ∈ (Template.cutNamed Wmts.PathRole.isNamed a.url).names,
        Wmts.PathRole.isNamed name = true := by
      intro name hname
      rw [Template.names_cutNamed] at hname
      exact (List.mem_filter.mp hname).2
    obtain ⟨roles, hroles, rfl⟩ := Wmts.Addressing.exists_roles_of_mapM hcell hnames hvalues
    exact ⟨roles, hroles, rfl⟩
  · intro c' url hc' htext p t
    exact Wmts.Addressing.tileUrl_respelled hstyle hc' htext

/-- A layer and a subdomain that look like placeholders, a name that is not one of the seven and one
that touches further braces. -/
theorem Addressing.url_of_path_by_roles_in_capitals :
    let a : Wmts.Addressing :=
      ⟨"\x7b\x7bLayer\x7d\x7d/{Layer}/{Kind}/{TileRow}.{S}", .path,
        ⟨"{Style}", "S", "M", "F", "1", none⟩, ⟨["{layer}"]⟩, [], 0⟩
    let respelled := "\x7b\x7bLayer\x7d\x7d/{LAYER}/{Kind}/{tilerow}.{s}"
    let u := "\x7b\x7bLayer\x7d\x7d/{Style}/{Kind}/1.{layer}"
    let p := Placement.resolve none none none none
    a.style = .path ∧ (Addressing.wmts a).url p ⟨1, 3, 0⟩ = .ok u ∧
      (∃ roles : List Wmts.PathRole, List.Forall₂
        (fun name role => Text.sameLetters role.name name = true) ["Layer", "TileRow", "S"] roles ∧
        u = (Template.cutNamed Wmts.PathRole.isNamed a.url).fill
          (roles.map fun role => role.text a p.grid ⟨1, 3, 0⟩)) ∧
      (Addressing.wmts { a with url := respelled }).url p ⟨1, 3, 0⟩ = .ok u := by
  intro a respelled u p
  obtain ⟨c, hc, hfilled, hrespelled⟩ := Addressing.url_of_path_by_roles a rfl
  obtain rfl := hc.unique (Template.cutNamed_at _ _)
  have hfields : (Template.cutNamed Wmts.PathRole.isNamed a.url).fields =
      [("Layer".toList, "/{Kind}/".toList), ("TileRow".toList, ['.']), (['S'], [])] := by
    decide +kernel
  have hnames : (Template.cutNamed Wmts.PathRole.isNamed a.url).names =
      ["Layer", "TileRow", "S"] := by
    decide +kernel
  have hurl : (Addressing.wmts a).url p ⟨1, 3, 0⟩ = .ok u := by decide +kernel
  have hroles := hfilled p ⟨1, 3, 0⟩ u hurl
  rw [hnames] at hroles
  refine ⟨rfl, hurl, hroles, ?_⟩
  -- The respelled path has other names in the places of the old one.
  have hrenamed := hrespelled
    ⟨(Template.cutNamed Wmts.PathRole.isNamed a.url).lead,
      [("LAYER".toList, "/{Kind}/".toList), ("tilerow".toList, ['.']), (['s'], [])]⟩
    respelled ⟨rfl, ?_⟩ (by decide +kernel) p ⟨1, 3, 0⟩
  · rw [hrenamed, hurl]
    rfl
  · rw [hfields]
    exact .cons ⟨by decide, rfl⟩ (.cons ⟨by decide, rfl⟩ (.cons ⟨by decide, rfl⟩ .nil))

end RasterOverlay
