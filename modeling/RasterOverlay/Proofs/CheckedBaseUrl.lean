import RasterOverlay.Proofs.DistinctQueries
import RasterOverlay.Proofs.WrittenTemplate

/-!
The base URL of a service is checked once, with the first subdomain put in by a plain replacement,
but for each tile it is filled in as a template. A base URL has at most one opening brace, so the two
can only differ in what closes it: a further closing brace makes it no placeholder, and then every
tile has the URL as it was written, which is not the one that was checked.
-/

namespace RasterOverlay

namespace Template

theorem ofParts_literals (text : List Char) :
    Cut.ofParts (text.map .literal) = ⟨text, []⟩ := by
  have happend := ofParts_append_literals text []
  rwa [List.append_nil, Cut.ofParts, List.append_nil] at happend

/-- Without an opening brace a text is copied, whatever stands in front of it. -/
theorem partsAfter_of_notMem (opened : Bool) {text : List Char} (h : '{' ∉ text) :
    partsAfter opened text = text.map .literal := by
  induction text generalizing opened with
  | nil => rw [partsAfter, List.map_nil]
  | cons c text ih =>
    have hc : c ≠ '{' := fun hbrace => h (hbrace ▸ List.mem_cons_self)
    have hnone : placeholderAt? opened (c :: text) = none := by
      simp [placeholderAt?, hc]
    rw [partsAfter_of_none hnone, ih _ fun hmem => h (List.mem_cons_of_mem c hmem), List.map_cons]

end Template

namespace Wmts

/-! ## The plain replacement -/

theorem exists_of_mentionsSubdomain {s : List Char}
    (h : RequestStyle.mentionsSubdomain s = true) :
    ∃ front back, s = front ++ '{' :: 's' :: '}' :: back := by
  fun_induction RequestStyle.mentionsSubdomain s with
  | case1 rest => exact ⟨[], rest, rfl⟩
  | case2 c rest _ ih =>
    obtain ⟨front, back, rfl⟩ := ih h
    exact ⟨c :: front, back, rfl⟩
  | case3 => cases h

theorem putSubdomain_of_ne (name rest : List Char) {c : Char} (hc : c ≠ '{') :
    putSubdomain name (c :: rest) = c :: putSubdomain name rest := by
  rw [putSubdomain]
  intro inner hbrace
  exact absurd hbrace hc

theorem putSubdomain_append (name rest : List Char) {front : List Char} (h : '{' ∉ front) :
    putSubdomain name (front ++ rest) = front ++ putSubdomain name rest := by
  induction front with
  | nil => rfl
  | cons c front ih =>
    have hc : c ≠ '{' := fun hbrace => h (hbrace ▸ List.mem_cons_self)
    rw [List.cons_append, putSubdomain_of_ne _ _ hc,
      ih fun hmem => h (List.mem_cons_of_mem c hmem), List.cons_append]

theorem putSubdomain_of_notMem (name : List Char) {s : List Char} (h : '{' ∉ s) :
    putSubdomain name s = s := by
  have happend := putSubdomain_append name [] h
  rwa [List.append_nil, putSubdomain, List.append_nil] at happend

/-! ## The two forms of a base URL -/

theorem count_subdomain (front back : List Char) :
    (front ++ '{' :: 's' :: '}' :: back).count '{' = front.count '{' + 1 + back.count '{' := by
  have hs : 's' ≠ '{' := by decide
  have hclosing : '}' ≠ '{' := by decide
  rw [List.count_append, List.count_cons_self, List.count_cons_of_ne hs,
    List.count_cons_of_ne hclosing]
  omega

/-- A base URL has no opening brace, or one that begins the placeholder of the subdomain. -/
theorem RequestStyle.form_of_query {url : String} (h : ofUrl url = .query) :
    '{' ∉ url.toList ∨
      ∃ front back, url.toList = front ++ '{' :: 's' :: '}' :: back ∧ '{' ∉ front ∧ '{' ∉ back := by
  rw [ofUrl] at h
  split at h
  · rename_i hnone
    exact .inl (List.count_eq_zero.mp hnone)
  · rename_i hone
    split at h
    · rename_i hmentions
      obtain ⟨front, back, hurl⟩ := exists_of_mentionsSubdomain hmentions
      rw [hurl, count_subdomain] at hone
      -- The placeholder holds the one opening brace, so none is left on its sides.
      have hfront : front.count '{' = 0 := by omega
      have hback : back.count '{' = 0 := by omega
      exact .inr ⟨front, back, hurl, List.count_eq_zero.mp hfront, List.count_eq_zero.mp hback⟩
    · cases h
  · cases h

/-! ## The template -/

section

variable {url : String} {front back : List Char}

/-- The placeholder of the subdomain is there, and a further closing brace stands behind it. -/
def ClosesTwice (url : String) : Prop := ['{', 's', '}', '}'] <:+: url.toList

instance (url : String) : Decidable (ClosesTwice url) :=
  inferInstanceAs (Decidable (['{', 's', '}', '}'] <:+: url.toList))

theorem closesTwice_iff (hurl : url.toList = front ++ '{' :: 's' :: '}' :: back)
    (hfront : '{' ∉ front) (hback : '{' ∉ back) : ClosesTwice url ↔ back.head? = some '}' := by
  rw [ClosesTwice, hurl]
  constructor
  · rintro ⟨before, after, htext⟩
    rw [List.append_assoc] at htext
    -- There is one opening brace on each side, so the texts in front of it are the same.
    have hbefore : '{' ∉ before := by
      have hcount : (before ++ '{' :: 's' :: '}' :: '}' :: after).count '{' =
          (front ++ '{' :: 's' :: '}' :: back).count '{' := congrArg (List.count '{') htext
      rw [count_subdomain, count_subdomain, List.count_eq_zero.mpr hfront,
        List.count_eq_zero.mpr hback] at hcount
      refine List.count_eq_zero.mp ?_
      omega
    obtain ⟨-, hrest⟩ := split_at_first hbefore hfront htext
    have hbehind : '}' :: after = back := (List.cons.inj (List.cons.inj hrest).2).2
    rw [← hbehind]
    rfl
  · intro hhead
    obtain ⟨after, rfl⟩ := List.head?_eq_some_iff.mp hhead
    exact ⟨front, after, by simp⟩

theorem cut_of_notMem (h : '{' ∉ url.toList) : Template.cut url = ⟨url.toList, []⟩ := by
  rw [Template.cut, Template.parts, Template.partsAfter_of_notMem false h,
    Template.ofParts_literals]

theorem subdomainName_isNameChar : ∀ c ∈ ['s'], Template.isNameChar c = true :=
  List.forall_mem_singleton.mpr (by decide)

theorem cut_of_one_closing (hurl : url.toList = front ++ '{' :: 's' :: '}' :: back)
    (hfront : '{' ∉ front) (hback : '{' ∉ back) (hhead : back.head? ≠ some '}') :
    Template.cut url = ⟨front, [(['s'], back)]⟩ := by
  have hsome : Template.placeholderAt? false ('{' :: 's' :: '}' :: back) = some (['s'], back) :=
    (Template.placeholderAt?_eq_some _ _ _ _).mpr
      ⟨rfl, List.cons_ne_nil _ _, subdomainName_isNameChar, rfl, hhead⟩
  rw [Template.cut, Template.parts, hurl,
    Template.partsAfter_plain front _ fun c hc hbrace => hfront (hbrace ▸ hc),
    Template.partsAfter_of_some hsome, Template.partsAfter_of_notMem false hback,
    Template.ofParts_append_literals, Template.Cut.ofParts, Template.ofParts_literals,
    String.toList_ofList, List.append_nil]

theorem cut_of_closesTwice (hurl : url.toList = front ++ '{' :: 's' :: '}' :: back)
    (hfront : '{' ∉ front) (hback : '{' ∉ back) (hhead : back.head? = some '}') :
    Template.cut url = ⟨url.toList, []⟩ := by
  -- A placeholder that begins at the one opening brace would end at the first closing one.
  have hnone : Template.placeholderAt? false ('{' :: 's' :: '}' :: back) = none := by
    rw [Option.eq_none_iff_forall_ne_some]
    rintro ⟨name, after⟩ hsome
    obtain ⟨htext, -, hn, -, hafter⟩ := (Template.placeholderAt?_eq_some _ _ _ _).mp hsome
    obtain ⟨-, rfl⟩ := Template.name_eq_of_append ['s'] name back after subdomainName_isNameChar hn
      (List.cons.inj htext).2
    exact hafter hhead
  have hbehind : '{' ∉ 's' :: '}' :: back := by simpa using hback
  rw [Template.cut, Template.parts, hurl,
    Template.partsAfter_plain front _ fun c hc hbrace => hfront (hbrace ▸ hc),
    Template.partsAfter_of_none hnone, Template.partsAfter_of_notMem _ hbehind, ← List.map_cons,
    ← List.map_append, Template.ofParts_literals]

end

end Wmts

/-! ## The base URL of a tile -/

theorem Subdomains.turn_of_shard_eq_zero {s : Subdomains} {t : Tile} (hnames : s.names ≠ [])
    (hshard : shard s.names.length t = 0) : s.turn t = s.names.headD "s" := by
  rw [shard_eq] at hshard
  rw [turn, hshard]
  cases hlist : s.names with
  | nil => exact absurd hlist hnames
  | cons name names => rfl

namespace Wmts.Addressing

variable {o : Overlay} {t : Tile}

/-- The URL of an overlay with a text in each place where the placeholder of the subdomain is
written. -/
def urlWith (o : Overlay) (text : String) : String :=
  String.ofList (putSubdomain text.toList o.url.toList)

theorem baseUrl_eq_fill (hstyle : RequestStyle.ofUrl o.url = .query)
    (hnames : o.subdomains.names ≠ []) :
    (ofFields o).baseUrl t =
      .ok ((Template.cut o.url).fill ((Template.cut o.url).names.map (o.baseText t))) := by
  have hfilled := Template.substitute_of_faults (baseValue_eq o hstyle t) o.url
  rw [findSome?_fieldFault?, if_neg fun h => hnames h.1, ← Template.names_cut] at hfilled
  exact hfilled

theorem fill_uncut (url : String) : (⟨url.toList, []⟩ : Template.Cut).fill [] = url := by
  rw [Template.Cut.fill, List.zipWith_nil_right, String.join_nil, String.append_empty,
    String.ofList_toList]

/-- With one closing brace behind it the placeholder of the subdomain is filled in wherever it is
written. -/
theorem fill_of_not_closesTwice (hstyle : RequestStyle.ofUrl o.url = .query)
    (hclosed : ¬ ClosesTwice o.url) :
    (Template.cut o.url).fill ((Template.cut o.url).names.map (o.baseText t)) =
      urlWith o (o.subdomains.turn t) := by
  rcases RequestStyle.form_of_query hstyle with hnone | ⟨front, back, hurl, hfront, hback⟩
  · rw [cut_of_notMem hnone, urlWith, putSubdomain_of_notMem _ hnone, String.ofList_toList]
    exact fill_uncut o.url
  · have hhead := mt (closesTwice_iff hurl hfront hback).mpr hclosed
    rw [cut_of_one_closing hurl hfront hback hhead, urlWith, hurl, putSubdomain_append _ _ hfront,
      putSubdomain, putSubdomain_of_notMem _ hback]
    simp [Template.Cut.fill, Template.Cut.names, Overlay.baseText, String.join]

theorem fill_of_closesTwice (hstyle : RequestStyle.ofUrl o.url = .query)
    (hclosed : ClosesTwice o.url) :
    (Template.cut o.url).fill ((Template.cut o.url).names.map (o.baseText t)) = o.url := by
  rcases RequestStyle.form_of_query hstyle with hnone | ⟨front, back, hurl, hfront, hback⟩
  · rw [cut_of_notMem hnone]
    exact fill_uncut o.url
  · rw [cut_of_closesTwice hurl hfront hback ((closesTwice_iff hurl hfront hback).mp hclosed)]
    exact fill_uncut o.url

theorem urlWith_eq_url_iff (hstyle : RequestStyle.ofUrl o.url = .query)
    (hclosed : ClosesTwice o.url) (text : String) : urlWith o text = o.url ↔ text = "{s}" := by
  rcases RequestStyle.form_of_query hstyle with hnone | ⟨front, back, hurl, hfront, hback⟩
  · have hbrace : '{' ∈ o.url.toList := hclosed.subset List.mem_cons_self
    contradiction
  · have hput : (urlWith o text).toList = front ++ (text.toList ++ back) := by
      rw [urlWith, hurl, putSubdomain_append _ _ hfront, putSubdomain,
        putSubdomain_of_notMem _ hback, String.toList_ofList]
    have hwritten : o.url.toList = front ++ ("{s}".toList ++ back) := by
      rw [hurl]
      rfl
    rw [← String.toList_inj, hput, hwritten, List.append_cancel_left_eq,
      List.append_cancel_right_eq, String.toList_inj]

/-- The check of a base URL puts the first subdomain into it as a text. The base URL of a tile is the
URL with the tile's own subdomain put in like that, and so the checked one where it is the turn of the
first, unless a further closing brace stands behind the placeholder: then it is the URL as it was
written, whatever was checked. -/
theorem baseUrl_is_checked_iff (o : Overlay) (t : Tile)
    (hstyle : RequestStyle.ofUrl o.url = .query) (hnames : o.subdomains.names ≠ []) :
    (∀ a, ofOverlay o = .ok a ↔ (∃ u, Url.ofText (sampleUrl o) = .ok u) ∧ a = ofFields o) ∧
    (Subdomains.shard o.subdomains.names.length t = 0 →
      urlWith o (o.subdomains.turn t) = sampleUrl o) ∧
    ∃ base, (ofFields o).baseUrl t = .ok base ∧
      (base = urlWith o (o.subdomains.turn t) ↔
        ¬ ClosesTwice o.url ∨ o.subdomains.turn t = "{s}") ∧
      (ClosesTwice o.url → base = o.url) := by
  refine ⟨?_, ?_, ?_⟩
  · intro a
    rw [ofOverlay_eq_ok_iff, forall_prop_of_true hstyle]
  · intro hshard
    rw [Subdomains.turn_of_shard_eq_zero hnames hshard]
    rfl
  · refine ⟨_, baseUrl_eq_fill hstyle hnames, ?_⟩
    by_cases hclosed : ClosesTwice o.url
    · rw [fill_of_closesTwice hstyle hclosed]
      refine ⟨?_, fun _ => rfl⟩
      rw [eq_comm, urlWith_eq_url_iff hstyle hclosed, or_iff_right (not_not_intro hclosed)]
    · rw [fill_of_not_closesTwice hstyle hclosed]
      exact ⟨⟨fun _ => .inl hclosed, fun _ => rfl⟩, fun h => absurd h hclosed⟩

/-- The first of two subdomains has its turn. -/
theorem baseUrl_is_checked_of_first :
    let o : Overlay :=
      { source := .wmts, url := "https://{s}.t/wmts?map=1", subdomains := ⟨["a", "b"]⟩ }
    sampleUrl o = "https://a.t/wmts?map=1" ∧ (ofFields o).baseUrl ⟨2, 3, 1⟩ = .ok (sampleUrl o) := by
  intro o
  obtain ⟨-, hsample, base, hbase, hchecked, -⟩ :=
    baseUrl_is_checked_iff o ⟨2, 3, 1⟩ (by decide +kernel) (by decide)
  rw [hbase, hchecked.mpr (.inl (by decide +kernel)), hsample (by decide)]
  exact ⟨by decide +kernel, rfl⟩

/-- With a further closing brace the URL that is checked is one that no tile uses. -/
theorem baseUrl_is_not_checked :
    let o : Overlay :=
      { source := .wmts, url := "https://t\x7bs\x7d\x7d.example/wmts", subdomains := ⟨["a"]⟩ }
    RequestStyle.ofUrl o.url = .query ∧ o.subdomains.names ≠ [] ∧
      Subdomains.shard o.subdomains.names.length ⟨0, 0, 0⟩ = 0 ∧
      sampleUrl o = "https://ta\x7d.example/wmts" ∧
      urlWith o (o.subdomains.turn ⟨0, 0, 0⟩) = "https://ta\x7d.example/wmts" ∧
      (ofFields o).baseUrl ⟨0, 0, 0⟩ = .ok "https://t\x7bs\x7d\x7d.example/wmts" := by
  decide +kernel

end Wmts.Addressing

end RasterOverlay
