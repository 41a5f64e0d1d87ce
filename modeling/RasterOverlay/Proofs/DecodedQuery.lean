import RasterOverlay.Proofs.DistinctQueries
import RasterOverlay.Proofs.TemplateJoints
import RasterOverlay.Proofs.TrimmedTexts

/-!
The query of a request is read back into its pairs: behind the first question mark, at each ampersand
and at the first equals sign of each piece. The texts of the service are written as they are, so they
may not hold these separators themselves; what the base URL holds does not matter, since everything
behind its first question mark or number sign is dropped, also before its placeholders are filled in.
-/

namespace RasterOverlay

/-! ## Texts cut at a separator -/

namespace Text

/-- The texts in front of the first separator and behind it. -/
def cutAt? (separator : Char) (s : String) : Option (String × String) :=
  match s.toList.dropWhile (· != separator) with
  | [] => none
  | _ :: back => some (String.ofList (s.toList.takeWhile (· != separator)), String.ofList back)

theorem cutAt?_eq_some_iff (separator : Char) (s front back : String) :
    cutAt? separator s = some (front, back) ↔
      s = front ++ String.singleton separator ++ back ∧ separator ∉ front.toList := by
  constructor
  · intro h
    rw [cutAt?] at h
    split at h
    · cases h
    · rename_i c rest hdrop
      obtain ⟨rfl, rfl⟩ := Prod.mk.inj (Option.some.inj h)
      have hc : c = separator := by
        have hhead := List.head?_dropWhile_not (· != separator) s.toList
        rw [hdrop] at hhead
        simpa using hhead
      have hwhole : s.toList.takeWhile (· != separator) ++ separator :: rest = s.toList := by
        have hsplit := @List.takeWhile_append_dropWhile _ (· != separator) s.toList
        rwa [hdrop, hc] at hsplit
      refine ⟨String.toList_inj.mp ?_, ?_⟩
      · simpa using hwhole.symm
      · rw [String.toList_ofList]
        intro hmem
        have hkept := List.all_eq_true.mp List.all_takeWhile _ hmem
        simp at hkept
  · rintro ⟨rfl, hfront⟩
    have hkept : ∀ c ∈ front.toList, (c != separator) = true :=
      fun c hc => bne_iff_ne.mpr fun hsep => hfront (hsep ▸ hc)
    have htext : (front ++ String.singleton separator ++ back).toList =
        front.toList ++ separator :: back.toList := by simp
    rw [cutAt?, htext, List.dropWhile_append_of_pos hkept, List.takeWhile_append_of_pos hkept]
    simp

/-- A text that ends neither a piece of a query nor the query. -/
def IsQueryText (s : String) : Prop := '&' ∉ s.toList ∧ '#' ∉ s.toList

instance (s : String) : Decidable (IsQueryText s) := inferInstanceAs (Decidable (_ ∧ _))

theorem isQueryText_ofNat (n : Nat) : IsQueryText (ofNat n) := by
  have hdigit {c : Char} (hc : c ∈ (ofNat n).toList) : c.isDigit = true := by
    rw [ofNat, String.toList_ofList] at hc
    exact Nat.isDigit_of_mem_toDigits (by decide) (by decide) hc
  exact ⟨fun h => absurd (hdigit h) (by decide), fun h => absurd (hdigit h) (by decide)⟩

end Text

namespace Template

section

variable {ε : Type} {replace replace' : String → Except ε String}

/-- A callback that gives the same answers and perhaps more fills in a template alike. -/
theorem substitute_eq_ok_of_le
    (hle : ∀ name value, replace name = .ok value → replace' name = .ok value)
    {source text : String} (h : substitute replace source = .ok text) :
    substitute replace' source = .ok text := by
  obtain ⟨values, hvalues, htext⟩ := substitute_eq_ok_iff.mp h
  exact substitute_eq_ok_iff.mpr ⟨values, hvalues.imp hle, htext⟩

end

end Template

namespace Wmts

/-! ## The pairs of a query -/

/-- The pairs of a query: its pieces between the ampersands, each cut at its first equals sign. -/
def readQuery (query : String) : Option (List (String × String)) :=
  (Text.pieces '&' query).mapM (Text.cutAt? '=')

/-- A pair that stands in a query as one piece. -/
structure IsQueryPair (pair : String × String) : Prop where
  name : Text.IsQueryText pair.1
  equals : '=' ∉ pair.1.toList
  value : Text.IsQueryText pair.2

namespace IsQueryPair

variable {pair : String × String}

theorem cutAt?_eq (h : IsQueryPair pair) : Text.cutAt? '=' (pair.1 ++ "=" ++ pair.2) = some pair :=
  (Text.cutAt?_eq_some_iff _ _ _ _).mpr ⟨rfl, h.equals⟩

theorem isQueryText (h : IsQueryPair pair) : Text.IsQueryText (pair.1 ++ "=" ++ pair.2) := by
  have hname := h.name
  have hvalue := h.value
  simp only [Text.IsQueryText, String.toList_append, List.mem_append, not_or] at hname hvalue ⊢
  exact ⟨⟨⟨hname.1, by decide⟩, hvalue.1⟩, ⟨⟨hname.2, by decide⟩, hvalue.2⟩⟩

end IsQueryPair

section

variable {pairs : List (String × String)}

theorem readQuery_writeQuery (hne : pairs ≠ []) (h : ∀ pair ∈ pairs, IsQueryPair pair) :
    readQuery (Addressing.writeQuery pairs) = some pairs := by
  have hpieces : Text.pieces '&' (Addressing.writeQuery pairs) =
      pairs.map fun pair => pair.1 ++ "=" ++ pair.2 :=
    Text.pieces_intercalate (by simpa using hne)
      (List.forall_mem_map.mpr fun pair hpair => (h pair hpair).isQueryText.1)
  rw [readQuery, hpieces, List.mapM_map]
  clear hne hpieces
  induction pairs with
  | nil => rfl
  | cons pair pairs ih =>
    obtain ⟨hpair, hpairs⟩ := List.forall_mem_cons.mp h
    rw [List.mapM_cons, Function.comp_apply, hpair.cutAt?_eq, ih hpairs]
    rfl

theorem number_notMem_writeQuery (h : ∀ pair ∈ pairs, IsQueryPair pair) :
    '#' ∉ (Addressing.writeQuery pairs).toList := by
  rw [Addressing.writeQuery]
  induction pairs with
  | nil => exact List.not_mem_nil
  | cons pair pairs ih =>
    obtain ⟨hpair, hpairs⟩ := List.forall_mem_cons.mp h
    have hfirst := hpair.isQueryText.2
    -- Only behind a last pair there is no ampersand.
    cases pairs with
    | nil => exact hfirst
    | cons next pairs =>
      have hrest := ih hpairs
      rw [List.map_cons] at hrest
      rw [List.map_cons, List.map_cons, String.intercalate_cons_cons, String.toList_append,
        String.toList_append, List.mem_append, List.mem_append]
      rintro ((hin | hin) | hin)
      · exact hfirst hin
      · exact absurd hin (by decide)
      · exact hrest hin

end

namespace Addressing

variable {a : Addressing} {g : Grid Float} {t : Tile}

/-- None of the texts that a service writes into its queries holds a separator. -/
structure WritesPlainly (a : Addressing) : Prop where
  version : Text.IsQueryText a.parameters.version
  layer : Text.IsQueryText a.parameters.layer
  style : Text.IsQueryText a.parameters.style
  matrixSet : Text.IsQueryText a.parameters.matrixSet
  format : Text.IsQueryText a.parameters.format
  token : ∀ pair ∈ a.parameters.token, IsQueryPair pair
  labels : ∀ label ∈ a.matrixLabels, Text.IsQueryText label

theorem WritesPlainly.isQueryText_label (ha : a.WritesPlainly) {level : UInt32} {label : String}
    (h : a.matrixLabel level = .ok label) : Text.IsQueryText label := by
  obtain ⟨b, -, hnumber, hname⟩ := label_of_matrixLabel h
  by_cases hnone : a.matrixLabels = []
  · rw [hnumber hnone, ← Text.ofNat_eq_repr]
    exact Text.isQueryText_ofNat b.toNat
  · exact ha.labels label (List.mem_of_getElem? (hname hnone))

theorem WritesPlainly.isQueryPair (ha : a.WritesPlainly) {cell : MatrixCell}
    (hlabel : Text.IsQueryText cell.label) :
    ∀ pair ∈ queryPairs a.parameters cell, IsQueryPair pair := by
  have hfixed {name value : String} (hname : Text.IsQueryText name ∧ '=' ∉ name.toList)
      (hvalue : Text.IsQueryText value) : IsQueryPair (name, value) := ⟨hname.1, hname.2, hvalue⟩
  have hrow := Text.isQueryText_ofNat cell.row.toNat
  have hcolumn := Text.isQueryText_ofNat cell.column.toNat
  refine List.forall_mem_append.mpr ⟨?_, fun pair hpair => ha.token pair (by simpa using hpair)⟩
  simp only [List.forall_mem_cons]
  exact ⟨hfixed (by decide) (by decide), hfixed (by decide) (by decide),
    hfixed (by decide) ha.version, hfixed (by decide) ha.layer, hfixed (by decide) ha.style,
    hfixed (by decide) ha.matrixSet, hfixed (by decide) ha.format, hfixed (by decide) hlabel,
    hfixed (by decide) hrow, hfixed (by decide) hcolumn, List.forall_mem_nil _⟩

/-! ## The base URL up to its query -/

theorem takeWhile_append_of_stop {α : Type} {p : α → Bool} {c : α} (hc : p c = false)
    (s rest : List α) : (s ++ c :: rest).takeWhile p = s.takeWhile p := by
  induction s with
  | nil => rw [List.nil_append, List.takeWhile_cons_of_neg (by simp [hc]), List.takeWhile_nil]
  | cons d s ih => rw [List.cons_append, List.takeWhile_cons, List.takeWhile_cons, ih]

theorem withoutQuery_append {c : Char} (hc : c = '?' ∨ c = '#') (front back : String) :
    withoutQuery (front ++ String.singleton c ++ back) = withoutQuery front := by
  have htext : (front ++ String.singleton c ++ back).toList =
      front.toList ++ c :: back.toList := by simp
  have hstop : (c != '?' && c != '#') = false := by
    rcases hc with rfl | rfl
    · decide
    · decide
  have hkept := takeWhile_append_of_stop (p := fun c => c != '?' && c != '#') hstop front.toList
    back.toList
  rw [withoutQuery, htext, hkept, withoutQuery]

/-- What is dropped of a URL begins with a question mark or a number sign. -/
theorem withoutQuery_eq_or (url : String) :
    withoutQuery url = url ∨ ∃ c rest, (c = '?' ∨ c = '#') ∧
      url = withoutQuery url ++ String.singleton c ++ rest := by
  have hsplit := @List.takeWhile_append_dropWhile _ (fun c => c != '?' && c != '#') url.toList
  cases hdrop : url.toList.dropWhile fun c => c != '?' && c != '#' with
  | nil =>
    rw [hdrop, List.append_nil] at hsplit
    exact .inl (by rw [withoutQuery, hsplit, String.ofList_toList])
  | cons c rest =>
    have hstop : (c != '?' && c != '#') = false := by
      have hhead := List.head?_dropWhile_not (fun c => c != '?' && c != '#') url.toList
      rwa [hdrop] at hhead
    rw [Bool.and_eq_false_iff, bne_eq_false_iff_eq, bne_eq_false_iff_eq] at hstop
    rw [hdrop] at hsplit
    refine .inr ⟨c, String.ofList rest, hstop, String.toList_inj.mp ?_⟩
    simpa [withoutQuery] using hsplit.symm

theorem isJoint_of_query {c : Char} (hc : c = '?' ∨ c = '#') : Template.IsJoint c := by
  rcases hc with rfl | rfl
  · exact ⟨by decide, by decide, by decide⟩
  · exact ⟨by decide, by decide, by decide⟩

/-- The URL of a service is only named where a subdomain is missing. -/
theorem subdomain_of_url {s : String} (h : a.subdomain t = .ok s) (url : String) :
    { a with url := url }.subdomain t = .ok s := by
  rw [subdomain] at h ⊢
  cases hselect : a.subdomains.select? t with
  | none =>
    rw [hselect] at h
    cases h
  | some s' =>
    rw [hselect] at h
    exact h

/-- The base URL of a tile, up to its query, comes from the URL of the service up to its query. -/
theorem baseUrl_withoutQuery {base : String} (h : a.baseUrl t = .ok base) :
    ∃ front, { a with url := withoutQuery a.url }.baseUrl t = .ok front ∧
      withoutQuery front = withoutQuery base := by
  rcases withoutQuery_eq_or a.url with hsame | ⟨c, rest, hc, hurl⟩
  · rw [hsame]
    exact ⟨base, h, rfl⟩
  · -- The query of the service is filled in on its own, and it is dropped behind its first sign.
    rw [baseUrl, hurl, Template.substitute_append (isJoint_of_query hc), bind_eq_ok_iff] at h
    obtain ⟨front, hfront, h⟩ := h
    obtain ⟨back, -, h⟩ := bind_eq_ok_iff.mp h
    obtain rfl := pure_eq_ok_iff.mp h
    refine ⟨front, Template.substitute_eq_ok_of_le ?_ hfront, (withoutQuery_append hc _ _).symm⟩
    intro name value hvalue
    by_cases hname : name = "s"
    · rw [if_pos hname] at hvalue ⊢
      exact subdomain_of_url hvalue _
    · rw [if_neg hname] at hvalue ⊢
      exact hvalue

end Addressing

end Wmts

/-- The pairs that a tile is asked for with: those of the service, the label of the level, the row
counted from the north and the column, and the token if there is one. -/
def Wmts.Addressing.tilePairs (a : Wmts.Addressing) (g : Grid Float) (t : Tile) (label : String) :
    List (String × String) :=
  [("service", "wmts"), ("request", "gettile"), ("version", a.parameters.version),
    ("layer", a.parameters.layer), ("style", a.parameters.style),
    ("tilematrixset", a.parameters.matrixSet), ("format", a.parameters.format),
    ("tilematrix", label), ("tilerow", toString ((g.rowsAt t.level).toNat - 1 - t.row.toNat)),
    ("tilecol", toString t.column.toNat)] ++ a.parameters.token.toList

theorem Wmts.Addressing.queryPairs_eq_tilePairs {a : Wmts.Addressing} {g : Grid Float} {t : Tile}
    {cell : Wmts.MatrixCell} (h : a.matrixCell g t = .ok cell) :
    queryPairs a.parameters cell = a.tilePairs g t cell.label := by
  obtain ⟨-, hrow, hcolumn⟩ := matrixCell_eq_ok h
  have hvalue := (of_invertRow_eq_some hrow).2
  have htext (n : Nat) : toString n = Text.ofNat n := rfl
  rw [tilePairs, ← hvalue, ← hcolumn, htext, htext, queryPairs]

/-- A parameter is its value without the blanks around it; its default stands in for a value that is
absent or blank. -/
theorem Wmts.Options.text_eq_iff {default text : String} {value : Option String} :
    Wmts.Options.text default value = text ↔
      (∃ raw, value = some raw ∧ text ≠ "" ∧ Text.Trimmed text.toList ∧ Text.Surrounds text raw) ∨
        (∀ raw, value = some raw → Text.Blanks raw.toList) ∧ text = default := by
  rw [Wmts.Options.text, Option.getD_eq_iff, Option.bind_eq_some_iff, Option.bind_eq_none_iff]
  refine or_congr (exists_congr fun raw => and_congr_right fun _ => ?_)
    (and_congr (forall_congr' fun raw => imp_congr_right fun _ => Text.filled?_eq_none_iff) eq_comm)
  rw [Text.filled?_eq_some_iff, and_comm, eq_comm]
  exact and_congr_right fun hne => Text.trim_eq_iff hne

theorem Wmts.Options.token_eq_some_iff (o : Wmts.Options) (name value : String) :
    o.parameters.token = some (name, value) ↔
      o.tokenName.bind Text.filled? = some name ∧ o.tokenValue.bind Text.filled? = some value := by
  simp only [parameters]
  cases o.tokenName.bind Text.filled? with
  | none => simp
  | some name' =>
    cases o.tokenValue.bind Text.filled? with
    | none => simp
    | some value' => simp

/-- A request with a query is read back. It has no number sign; in front of its first question mark
stands the base URL of the tile up to its own query, and behind it the pairs of the tile, in their
order, the token among them if its name and its value are filled. The same request is made if the URL
of the service is cut off in front of its query. -/
theorem Addressing.query_reads_back (o : Overlay) (a : Wmts.Addressing) (p : Placement) (t : Tile)
    (u : String) (ha : Wmts.Addressing.ofOverlay o = .ok a) (hstyle : a.style = .query)
    (hplain : a.WritesPlainly) (h : (Addressing.wmts a).url p t = .ok u) :
    '#' ∉ u.toList ∧
    (∃ base label query, a.baseUrl t = .ok base ∧ a.matrixLabel t.level = .ok label ∧
      Text.cutAt? '?' u = some (Wmts.Addressing.withoutQuery base, query) ∧
      Wmts.readQuery query = some (a.tilePairs p.grid t label)) ∧
    (∀ name value, a.parameters.token = some (name, value) ↔
      o.wmts.tokenName.bind Text.filled? = some name ∧
        o.wmts.tokenValue.bind Text.filled? = some value) ∧
    (Addressing.wmts { a with url := Wmts.Addressing.withoutQuery a.url }).url p t = .ok u := by
  obtain ⟨cell, base, hcell, hbase, rfl⟩ :=
    (Wmts.Addressing.tileUrl_eq_ok_iff_of_query hstyle).mp h
  obtain ⟨hlabel, -, -⟩ := Wmts.Addressing.matrixCell_eq_ok hcell
  have hpairs := hplain.isQueryPair (hplain.isQueryText_label hlabel)
  obtain ⟨hquestion, hnumber⟩ := Wmts.Addressing.separators_notMem_withoutQuery base
  refine ⟨?_, ⟨base, cell.label, _, hbase, hlabel,
    (Text.cutAt?_eq_some_iff _ _ _ _).mpr ⟨rfl, hquestion⟩, ?_⟩, ?_, ?_⟩
  · rw [String.toList_append, String.toList_append, List.mem_append, List.mem_append]
    rintro ((hin | hin) | hin)
    · exact hnumber hin
    · exact absurd hin (by decide)
    · exact Wmts.number_notMem_writeQuery hpairs hin
  · have hne : Wmts.Addressing.queryPairs a.parameters cell ≠ [] := List.cons_ne_nil _ _
    rw [Wmts.readQuery_writeQuery hne hpairs, Wmts.Addressing.queryPairs_eq_tilePairs hcell]
  · obtain ⟨-, rfl⟩ := (Wmts.Addressing.ofOverlay_eq_ok_iff o a).mp ha
    exact o.wmts.token_eq_some_iff
  · -- A cell does not depend on the URL of the service, so only the base URL is made again.
    obtain ⟨front, hfront, hsame⟩ := Wmts.Addressing.baseUrl_withoutQuery hbase
    refine (Wmts.Addressing.tileUrl_eq_ok_iff_of_query
      (a := { a with url := Wmts.Addressing.withoutQuery a.url }) hstyle).mpr
      ⟨cell, front, hcell, hfront, ?_⟩
    rw [hsame]

/-- A subdomain with a question mark of its own, in a URL with a query and a fragment. -/
theorem Addressing.query_reads_back_of_subdomain :
    let o : Overlay :=
      { source := .wmts, url := "tiles:{s}/wmts?map=1&layer=old#top", subdomains := ⟨["a", "b?c=d"]⟩
        wmts := { tokenName := some " key ", tokenValue := some "x=y?" }
        matrixLabels := ["m0", "m1"] }
    let a := Wmts.Addressing.ofFields o
    let u := "tiles:b?service=wmts&request=gettile&version=1.0.0&layer=img&style=default" ++
      "&tilematrixset=c&format=tiles&tilematrix=m1&tilerow=1&tilecol=2&key=x=y?"
    Wmts.Addressing.ofOverlay o = .ok a ∧ (Addressing.wmts a).url o.placement ⟨1, 2, 0⟩ = .ok u ∧
      ∃ query, Text.cutAt? '?' u = some ("tiles:b", query) ∧
        Wmts.readQuery query = some [("service", "wmts"), ("request", "gettile"),
          ("version", "1.0.0"), ("layer", "img"), ("style", "default"), ("tilematrixset", "c"),
          ("format", "tiles"), ("tilematrix", "m1"), ("tilerow", "1"), ("tilecol", "2"),
          ("key", "x=y?")] := by
  intro o a u
  have hread : (Url.ofText (Wmts.Addressing.sampleUrl o)).toOption.isSome = true := by
    decide +kernel
  have haccepted : Wmts.Addressing.ofOverlay o = .ok a := by
    refine (Wmts.Addressing.ofOverlay_eq_ok_iff o a).mpr ⟨fun _ => ?_, rfl⟩
    cases hsample : Url.ofText (Wmts.Addressing.sampleUrl o) with
    | ok sample => exact ⟨sample, rfl⟩
    | error reason =>
      rw [hsample] at hread
      cases hread
  have hurl : (Addressing.wmts a).url o.placement ⟨1, 2, 0⟩ = .ok u := by decide +kernel
  have hplain : a.WritesPlainly := by
    refine ⟨by decide +kernel, by decide +kernel, by decide +kernel, by decide +kernel,
      by decide +kernel, ?_, by decide +kernel⟩
    have htoken : a.parameters.token = some ("key", "x=y?") := by decide +kernel
    rintro pair hpair
    rw [htoken] at hpair
    obtain rfl := Option.mem_some.mp hpair
    exact ⟨by decide, by decide, by decide⟩
  obtain ⟨-, ⟨base, label, query, hbase, hlabel, hcut, hpairs⟩, -, -⟩ :=
    query_reads_back o a o.placement ⟨1, 2, 0⟩ u haccepted (by decide +kernel) hplain hurl
  have hfilled : a.baseUrl ⟨1, 2, 0⟩ = .ok "tiles:b?c=d/wmts?map=1&layer=old#top" := by
    decide +kernel
  have hnamed : a.matrixLabel 1 = .ok "m1" := by decide +kernel
  obtain rfl := Except.ok.inj (hfilled.symm.trans hbase)
  obtain rfl := Except.ok.inj (hnamed.symm.trans hlabel)
  refine ⟨haccepted, hurl, query, ?_, ?_⟩
  · have hfront : Wmts.Addressing.withoutQuery "tiles:b?c=d/wmts?map=1&layer=old#top" =
        "tiles:b" := by decide +kernel
    rw [hcut, hfront]
  · rw [hpairs]
    decide +kernel

end RasterOverlay
