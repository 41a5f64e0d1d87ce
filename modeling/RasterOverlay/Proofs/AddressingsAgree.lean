import RasterOverlay.Proofs.ServiceUrl
import RasterOverlay.Proofs.TemplateUrl
import RasterOverlay.Proofs.WrittenTemplate

/-!
The same tiles by a template and by the path of a service. The two addressings know the level, the
column, the row from the north and the subdomain of a tile under different names and find them in
different ways. A template that is written with these four roles has one meaning: spelled in either
vocabulary it leads to the same URL.
-/

namespace RasterOverlay

open Template

/-- What both addressings can put into a URL. -/
inductive TileRole where
  | level
  | column
  | row
  | subdomain
  deriving DecidableEq

namespace TileRole

/-- The name of a role in a template. -/
def templateName : TileRole → FieldName
  | level => ⟨['z'], by decide, List.all_eq_true.mp (by decide)⟩
  | column => ⟨['x'], by decide, List.all_eq_true.mp (by decide)⟩
  | row => ⟨"reverseY".toList, by decide, List.all_eq_true.mp (by decide)⟩
  | subdomain => ⟨['s'], by decide, List.all_eq_true.mp (by decide)⟩

/-- The name of a role in the path of a service. -/
def pathName : TileRole → FieldName
  | level => ⟨"TileMatrix".toList, by decide, List.all_eq_true.mp (by decide)⟩
  | column => ⟨"TileCol".toList, by decide, List.all_eq_true.mp (by decide)⟩
  | row => ⟨"TileRow".toList, by decide, List.all_eq_true.mp (by decide)⟩
  | subdomain => ⟨['s'], by decide, List.all_eq_true.mp (by decide)⟩

/-- What a role stands for on a tile. -/
def value (subdomains : Subdomains) (bias : Int32) (g : Grid Float) (t : Tile) :
    TileRole → String
  | level => toString (t.level.toNat + bias.toInt).toNat
  | column => toString t.column.toNat
  | row => toString ((g.rowsAt t.level).toNat - 1 - t.row.toNat)
  | subdomain => subdomains.turn t

end TileRole

/-! A path is told from a base URL by its braces. -/

namespace Wmts.RequestStyle

theorem mentionsSubdomain_plain (text rest : List Char) (h : ∀ c ∈ text, c ≠ '{' ∧ c ≠ '}') :
    mentionsSubdomain (text ++ rest) = mentionsSubdomain rest := by
  induction text with
  | nil => rfl
  | cons c text ih =>
    have hc : c ≠ '{' := (h c List.mem_cons_self).1
    rw [List.cons_append, mentionsSubdomain, ih fun d hd => h d (List.mem_cons_of_mem c hd)]
    rintro tail rfl
    contradiction

theorem subdomain_mem_of_mentionsSubdomain (segments : List (Segment TileRole))
    (h : mentionsSubdomain (writtenText TileRole.pathName segments) = true) :
    .field .subdomain ∈ segments := by
  induction segments with
  | nil => contradiction
  | cons segment segments ih =>
    rw [writtenText_cons] at h
    cases segment with
    | plain p =>
      rw [Segment.text, mentionsSubdomain_plain _ _ p.no_braces] at h
      exact List.mem_cons_of_mem _ (ih h)
    | field role =>
      cases role with
      | subdomain => exact List.mem_cons_self
      | level => exact List.mem_cons_of_mem _ (ih h)
      | column => exact List.mem_cons_of_mem _ (ih h)
      | row => exact List.mem_cons_of_mem _ (ih h)

end Wmts.RequestStyle

namespace Template

variable {ρ : Type} (spell : ρ → FieldName)

/-- The roles of the placeholders, in their order. -/
def Segment.role? : Segment ρ → Option ρ
  | plain _ => none
  | field role => some role

theorem count_brace_writtenText (segments : List (Segment ρ)) :
    (writtenText spell segments).count '{' = (segments.filterMap Segment.role?).length := by
  induction segments with
  | nil => rfl
  | cons segment segments ih =>
    rw [writtenText_cons, List.count_append, ih]
    cases segment with
    | plain p =>
      have hnone : p.text.count '{' = 0 :=
        List.count_eq_zero.mpr fun hmem => (p.no_braces _ hmem).1 rfl
      simp [Segment.text, List.filterMap_cons, Segment.role?, hnone]
    | field role =>
      have hnone : (spell role).letters.count '{' = 0 :=
        List.count_eq_zero.mpr fun hmem => by
          have := (spell role).isNameChar _ hmem
          contradiction
      simp [Segment.text, Segment.role?, hnone, Nat.add_comm]

end Template

theorem Wmts.RequestStyle.ofUrl_written {segments : List (Segment TileRole)} {role : TileRole}
    (hmem : .field role ∈ segments) (hrole : role ≠ .subdomain) :
    ofUrl (written TileRole.pathName segments) = .path := by
  have hroles : role ∈ segments.filterMap Segment.role? :=
    List.mem_filterMap.mpr ⟨_, hmem, rfl⟩
  rw [ofUrl, written, String.toList_ofList, count_brace_writtenText]
  -- A single brace is that of the role, so it does not belong to a subdomain.
  cases hcount : segments.filterMap Segment.role? with
  | nil =>
    rw [hcount] at hroles
    contradiction
  | cons only others =>
    cases others with
    | nil =>
      rw [hcount, List.mem_singleton] at hroles
      have hnone : mentionsSubdomain (writtenText TileRole.pathName segments) ≠ true := by
        intro hmentions
        have hsub : TileRole.subdomain ∈ segments.filterMap Segment.role? :=
          List.mem_filterMap.mpr ⟨_, subdomain_mem_of_mentionsSubdomain segments hmentions, rfl⟩
        rw [hcount, List.mem_singleton] at hsub
        exact hrole (hroles.trans hsub.symm)
      simp [hnone]
    | cons next others => rfl

/-! Each role has its value in both vocabularies on the tiles of the grid. -/

theorem Padding.written_empty (key : String) (n : Nat) :
    Padding.empty.written key n = toString n := by
  rw [written, show Padding.empty.template? key = none from rfl, Option.elim_none, List.leftpad,
    Nat.zero_sub, List.replicate_zero, List.nil_append]
  rfl

section

variable {o : Overlay} {t : Tile}

theorem TemplateAddressing.value_of_role (ht : t.level.toNat ≤ 30)
    (hbias : 0 ≤ t.level.toNat + o.levelBias.toInt)
    (hrow : t.row.toNat < (o.placement.grid.rowsAt t.level).toNat)
    (hnames : o.subdomains.names ≠ []) (hpadding : o.padding = .empty) (role : TileRole) :
    (ofFields o).value o.placement.grid t (String.ofList role.templateName.letters) =
      .ok (role.value o.subdomains o.levelBias o.placement.grid t) := by
  cases role with
  | level =>
    have hvalue := value_level o ht
    rw [o.fieldFault?_level, if_neg (Int.not_lt.mpr hbias)] at hvalue
    refine hvalue.trans (congrArg Except.ok ?_)
    rw [Overlay.fieldText, hpadding, Padding.written_empty]
    rfl
  | column =>
    have hvalue := value_eq o ht "x"
    rw [o.fieldFault?_of_notMem t (by decide)] at hvalue
    refine hvalue.trans (congrArg Except.ok ?_)
    rw [Overlay.fieldText, hpadding, Padding.written_empty]
    rfl
  | row =>
    have hvalue := value_reversedRow (t := t) o
    rw [o.fieldFault?_reversedRow, if_neg (Nat.not_le.mpr hrow)] at hvalue
    refine hvalue.trans (congrArg Except.ok ?_)
    rw [Overlay.fieldText, hpadding, Padding.written_empty]
    rfl
  | subdomain =>
    have hvalue := value_subdomain (t := t) o
    rw [o.fieldFault?_subdomain, if_neg hnames] at hvalue
    exact hvalue

theorem Wmts.Addressing.pathText_of_role (hlabels : o.matrixLabels = []) (role : TileRole) :
    o.pathText t (o.northRow t) (String.ofList role.pathName.letters) =
      role.value o.subdomains o.levelBias o.placement.grid t := by
  have hlower : (String.ofList role.pathName.letters).map Char.toLower =
      match role with
      | .level => "tilematrix"
      | .column => "tilecol"
      | .row => "tilerow"
      | .subdomain => "s" := by
    rw [String.map_eq_internal]
    cases role <;> decide
  rw [Overlay.pathText, hlower]
  cases role with
  | level =>
    simp only [Overlay.matrixName, if_pos hlabels]
    rfl
  | column => rfl
  | row => rfl
  | subdomain => rfl

theorem Wmts.Addressing.pathValue_of_role (hstyle : RequestStyle.ofUrl o.url = .path)
    (hlabels : o.matrixLabels = []) (hnames : o.subdomains.names ≠ []) {cell : MatrixCell}
    (hlabel : cell.label = o.matrixName t) (hcolumn : cell.column = t.column)
    (hrow : cell.row.toNat = o.northRow t) (role : TileRole) :
    (ofFields o).pathValue t cell (String.ofList role.pathName.letters) =
      .ok (role.value o.subdomains o.levelBias o.placement.grid t) := by
  rw [pathValue_eq o hstyle cell hlabel hcolumn, fieldFault?, if_neg fun h => hnames h.1, hrow,
    pathText_of_role hlabels]
  rfl

/-- A path that is written with the four roles is filled in on the tiles of the grid. -/
theorem Wmts.Addressing.tileUrl_of_written (segments : List (Segment TileRole))
    (hurl : o.url = written TileRole.pathName segments)
    (hstyle : RequestStyle.ofUrl o.url = .path) (ht : t.level.toNat ≤ 30)
    (hbias : 0 ≤ t.level.toNat + o.levelBias.toInt) (hin : o.placement.grid.contains t = true)
    (hnames : o.subdomains.names ≠ []) (hlabels : o.matrixLabels = []) :
    (ofFields o).tileUrl o.placement.grid t =
      .ok (filledIn (TileRole.value o.subdomains o.levelBias o.placement.grid t) segments) := by
  have hlabel := matrixLabel_eq o ht
  have hlevel : ¬ o.serverLevel t < 0 := Int.not_lt.mpr hbias
  rw [if_neg fun h => h.1 hlabels, if_neg hlevel, if_neg fun h => h.1 hlabels] at hlabel
  obtain ⟨row, hcell, hrow⟩ := matrixCell_of_contains o hlabel hin
  have hpath : (ofFields o).tileUrl o.placement.grid t =
      (ofFields o).pathUrl t ⟨o.matrixName t, row, t.column⟩ := by
    rw [tileUrl, hcell, show (ofFields o).style = .path from hstyle]
    rfl
  rw [hpath, pathUrl, show (ofFields o).url = written TileRole.pathName segments from hurl]
  exact substitute_written _ segments fun role _ =>
    pathValue_of_role hstyle hlabels hnames rfl rfl hrow role

end

/-- A template and the path of a service that are written with the same segments lead to the same
URLs: on the tiles of the grid both have one, and it is the segments with the values of their
roles. The two overlays share the subdomains and the bias of the levels. -/
theorem Addressing.urls_agree_of_written (segments : List (Segment TileRole)) (o o' : Overlay)
    (p : Placement) (t : Tile)
    (hrole : ∃ role, .field role ∈ segments ∧ role ≠ TileRole.subdomain)
    (hurl : o.url = written TileRole.templateName segments)
    (hurl' : o'.url = written TileRole.pathName segments)
    (hsubdomains : o'.subdomains = o.subdomains) (hnames : o.subdomains.names ≠ [])
    (hbias : o'.levelBias = o.levelBias) (hpadding : o.padding = .empty)
    (hflip : o.flipRows = false) (hlabels : o'.matrixLabels = [])
    (hin : p.grid.contains t = true) (ht : t.level.toNat ≤ 30)
    (hlevel : 0 ≤ t.level.toNat + o.levelBias.toInt) :
    ∃ a w, TemplateAddressing.ofOverlay o = .ok a ∧ Wmts.Addressing.ofOverlay o' = .ok w ∧
      w.style = .path ∧
      (Addressing.template a).url p t =
        .ok (filledIn (TileRole.value o.subdomains o.levelBias p.grid t) segments) ∧
      (Addressing.wmts w).url p t =
        .ok (filledIn (TileRole.value o.subdomains o.levelBias p.grid t) segments) := by
  obtain ⟨role, hmem, hne⟩ := hrole
  have hstyle : Wmts.RequestStyle.ofUrl o'.url = .path := by
    rw [hurl']
    exact Wmts.RequestStyle.ofUrl_written hmem hne
  have honce : o.invertsRowTwice = false := by
    rw [Overlay.invertsRowTwice, hflip, Bool.false_and]
  refine ⟨.ofFields o, .ofFields o', (TemplateAddressing.ofOverlay_eq_ok_iff o _).mpr ⟨honce, rfl⟩,
    (Wmts.Addressing.ofOverlay_eq_ok_iff o' _).mpr ⟨?_, rfl⟩, hstyle, ?_, ?_⟩
  · intro hquery
    rw [hstyle] at hquery
    contradiction
  -- An addressing does not look at the grid of its own overlay, so that can be the given one.
  · have hvalue (role : TileRole) := TemplateAddressing.value_of_role
      (o := { o with grid := some p.grid }) ht hlevel ((Grid.contains_iff _ _).mp hin).2 hnames
      hpadding role
    show (TemplateAddressing.ofFields o).url p.grid t = _
    rw [TemplateAddressing.url,
      show (TemplateAddressing.ofFields o).template = written TileRole.templateName segments
        from hurl]
    exact substitute_written _ segments fun role _ => hvalue role
  · have hpath := Wmts.Addressing.tileUrl_of_written (o := { o' with grid := some p.grid })
      (t := t) segments hurl' hstyle ht (by rw [hbias]; exact hlevel) hin
      (by rw [hsubdomains]; exact hnames) hlabels
    refine Eq.trans hpath ?_
    rw [hsubdomains, hbias]
    rfl

/-- Two roles side by side, and levels that are shifted. -/
theorem Addressing.urls_agree_of_written_without_separator :
    let segments : List (Segment TileRole) := [.field .subdomain, .plain ⟨['/'], by simp⟩,
      .field .level, .field .column, .plain ⟨['-'], by simp⟩, .field .row]
    let o : Overlay :=
      { url := "{s}/{z}{x}-{reverseY}", levelBias := 1, subdomains := ⟨["a", "b"]⟩ }
    let o' : Overlay :=
      { url := "{s}/{TileMatrix}{TileCol}-{TileRow}", levelBias := 1, subdomains := ⟨["a", "b"]⟩ }
    let p := Placement.resolve none none none none
    o.url = written TileRole.templateName segments ∧
      o'.url = written TileRole.pathName segments ∧
      ∃ a w, TemplateAddressing.ofOverlay o = .ok a ∧ Wmts.Addressing.ofOverlay o' = .ok w ∧
        (Addressing.template a).url p ⟨1, 3, 0⟩ = .ok "a/23-1" ∧
        (Addressing.wmts w).url p ⟨1, 3, 0⟩ = .ok "a/23-1" := by
  intro segments o o' p
  have hurl : o.url = written TileRole.templateName segments := by decide +kernel
  have hurl' : o'.url = written TileRole.pathName segments := by decide +kernel
  have htext : filledIn (TileRole.value o.subdomains o.levelBias p.grid ⟨1, 3, 0⟩) segments =
      "a/23-1" := by decide +kernel
  obtain ⟨a, w, ha, hw, -, hagree⟩ := Addressing.urls_agree_of_written segments o o' p ⟨1, 3, 0⟩
    ⟨.level, by simp [segments], by decide⟩ hurl hurl' rfl (by decide) rfl rfl rfl rfl
    (by decide +kernel) (by decide) (by decide)
  rw [htext] at hagree
  exact ⟨hurl, hurl', a, w, ha, hw, hagree⟩

end RasterOverlay
