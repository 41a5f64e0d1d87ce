import RasterOverlay.Proofs.ServiceUrl

/-!
Two tiles never share a request with a query. None of the texts in such a request is controlled: a
label may look like the rest of a query, and the base URL changes with the subdomain. But the query
begins at the first question mark, and a number ends where the last sign before it is no digit, so
the row and the column are read from the end and what is left in front of them is the label.
-/

namespace RasterOverlay

/-! A text is split at the first or at the last of its separators in one way only. -/

section

variable {α : Type} {c : α} {s s' t t' : List α}

theorem split_at_first (hs : c ∉ s) (hs' : c ∉ s') (h : s ++ c :: t = s' ++ c :: t') :
    s = s' ∧ t = t' := by
  rcases List.append_eq_append_iff.mp h with ⟨mid, hmid, ht⟩ | ⟨mid, hmid, ht⟩
  · cases mid with
    | nil => exact ⟨by rw [hmid, List.append_nil], (List.cons.inj ht).2⟩
    | cons d mid =>
      -- The longer front would hold the separator.
      obtain ⟨rfl, -⟩ := List.cons.inj ht
      exact absurd (by rw [hmid]; simp) hs'
  · cases mid with
    | nil => exact ⟨by rw [hmid, List.append_nil], (List.cons.inj ht).2.symm⟩
    | cons d mid =>
      obtain ⟨rfl, -⟩ := List.cons.inj ht
      exact absurd (by rw [hmid]; simp) hs

theorem split_at_last (ht : c ∉ t) (ht' : c ∉ t') (h : s ++ c :: t = s' ++ c :: t') :
    s = s' ∧ t = t' := by
  have hreverse : t.reverse ++ c :: s.reverse = t'.reverse ++ c :: s'.reverse := by
    have := congrArg List.reverse h
    simpa using this
  obtain ⟨hback, hfront⟩ := split_at_first (by simpa using ht) (by simpa using ht') hreverse
  exact ⟨List.reverse_injective hfront, List.reverse_injective hback⟩

end

/-- A number behind a sign that is no digit is read from the end of a text. -/
theorem Text.number_at_end {c : Char} (hc : c.isDigit = false) {s s' : List Char} {n n' : Nat}
    (h : s ++ c :: Nat.toDigits 10 n = s' ++ c :: Nat.toDigits 10 n') : s = s' ∧ n = n' := by
  have hdigits (k : Nat) : c ∉ Nat.toDigits 10 k := by
    intro hmem
    rw [Nat.isDigit_of_mem_toDigits (by decide) (by decide) hmem] at hc
    contradiction
  obtain ⟨hfront, hnumber⟩ := split_at_last (hdigits n) (hdigits n') h
  refine ⟨hfront, ?_⟩
  calc n = Nat.ofDigitChars 10 (Nat.toDigits 10 n) 0 := Nat.ofDigitChars_ten_toDigits.symm
    _ = Nat.ofDigitChars 10 (Nat.toDigits 10 n') 0 := by rw [hnumber]
    _ = n' := Nat.ofDigitChars_ten_toDigits

namespace Wmts

/-- Only the label, the row and the column of a query change from cell to cell. -/
theorem Parameters.toList_queryText (p : Parameters) :
    ∃ front back : List Char, ∀ (label : String) (row column : Nat),
      (p.queryText label row column).toList =
        '?' :: (front ++ (label.toList ++ "&tilerow".toList ++ '=' :: Nat.toDigits 10 row ++
          "&tilecol".toList ++ '=' :: Nat.toDigits 10 column ++ back)) := by
  have hopening : "?service=wmts&request=gettile&version=".toList =
      '?' :: "service=wmts&request=gettile&version=".toList := by decide
  have hrow : "&tilerow=".toList = "&tilerow".toList ++ ['='] := by decide
  have hcolumn : "&tilecol=".toList = "&tilecol".toList ++ ['='] := by decide
  have hdigits (n : Nat) : (toString n).toList = Nat.toDigits 10 n := Nat.toList_repr
  obtain ⟨opening, back, hquery⟩ : ∃ opening back : String, ∀ (label : String) (row column : Nat),
      p.queryText label row column = "?service=wmts&request=gettile&version=" ++ opening ++
        label ++ "&tilerow=" ++ toString row ++ "&tilecol=" ++ toString column ++ back := by
    refine ⟨p.version ++ "&layer=" ++ p.layer ++ "&style=" ++ p.style ++ "&tilematrixset=" ++
      p.matrixSet ++ "&format=" ++ p.format ++ "&tilematrix=", ?_⟩
    cases htoken : p.token with
    | none =>
      refine ⟨"", fun label row column => ?_⟩
      unfold queryText
      rw [htoken]
      generalize toString row = row
      generalize toString column = column
      simp only [String.append_assoc]
    | some token =>
      refine ⟨"&" ++ token.1 ++ "=" ++ token.2, fun label row column => ?_⟩
      unfold queryText
      rw [htoken]
      generalize toString row = row
      generalize toString column = column
      simp only [String.append_assoc]
  refine ⟨"service=wmts&request=gettile&version=".toList ++ opening.toList, back.toList,
    fun label row column => ?_⟩
  rw [hquery]
  simp only [String.toList_append, hopening, hrow, hcolumn, hdigits, List.append_assoc,
    List.cons_append, List.nil_append]

theorem Addressing.separators_notMem_withoutQuery (url : String) :
    '?' ∉ (withoutQuery url).toList ∧ '#' ∉ (withoutQuery url).toList := by
  rw [withoutQuery, String.toList_ofList]
  constructor
  · intro hmem
    have hkept := List.all_eq_true.mp List.all_takeWhile _ hmem
    contradiction
  · intro hmem
    have hkept := List.all_eq_true.mp List.all_takeWhile _ hmem
    contradiction

theorem Parameters.queryText_inj (p : Parameters) {base base' : String} {label label' : String}
    {row row' column column' : Nat}
    (h : Addressing.withoutQuery base ++ p.queryText label row column =
      Addressing.withoutQuery base' ++ p.queryText label' row' column') :
    label = label' ∧ row = row' ∧ column = column' := by
  obtain ⟨front, back, htext⟩ := p.toList_queryText
  have hnone (url : String) : '?' ∉ (Addressing.withoutQuery url).toList :=
    (Addressing.separators_notMem_withoutQuery url).1
  have hlist := congrArg String.toList h
  simp only [String.toList_append, htext] at hlist
  obtain ⟨-, hquery⟩ := split_at_first (hnone base) (hnone base') hlist
  have hcells := List.append_cancel_right (List.append_cancel_left hquery)
  obtain ⟨hrows, hcolumn⟩ := Text.number_at_end (by decide) hcells
  obtain ⟨hlabels, hrow⟩ := Text.number_at_end (by decide) (List.append_cancel_right hrows)
  exact ⟨String.toList_inj.mp (List.append_cancel_right hlabels), hrow, hcolumn⟩

end Wmts

/-! What a tile was is read back from its cell: its level from the label, and then its row. -/

theorem Level.toNat_of_biased {level b : UInt32} {bias : Int32}
    (h : Level.biased level bias = .ok b) : (b.toNat : Int) = level.toNat + bias.toInt := by
  have hsum := Level.toInt_sum level bias
  by_cases hin : 0 ≤ level.toUInt64.toInt64 + bias.toInt64 ∧
      level.toUInt64.toInt64 + bias.toInt64 ≤ 0xffffffff
  · have hlow := Int64.le_iff_toInt_le.mp hin.1
    have hhigh := Int64.le_iff_toInt_le.mp hin.2
    rw [hsum, Int64.toInt_zero] at hlow
    rw [hsum, show (0xffffffff : Int64).toInt = 2 ^ 32 - 1 by decide] at hhigh
    obtain ⟨b', hb', hvalue⟩ := Level.biased_of_nonneg level bias hlow (by omega)
    rw [hb'] at h
    cases h
    omega
  · rw [Level.biased, if_neg hin] at h
    contradiction

theorem Level.biased_inj {level level' b : UInt32} {bias : Int32}
    (h : Level.biased level bias = .ok b) (h' : Level.biased level' bias = .ok b) :
    level = level' := by
  have hb := Level.toNat_of_biased h
  have hb' := Level.toNat_of_biased h'
  exact UInt32.toNat_inj.mp (by omega)

theorem invertRow_inj {rows row row' r : UInt32} (h : invertRow rows row = some r)
    (h' : invertRow rows row' = some r) : row = row' := by
  obtain ⟨hin, hr⟩ := of_invertRow_eq_some h
  obtain ⟨hin', hr'⟩ := of_invertRow_eq_some h'
  exact UInt32.toNat_inj.mp (by omega)

namespace Wmts.Addressing

variable {a : Addressing} {g : Grid Float} {t : Tile}

/-- A label is that of the biased level: its number, or the name at its place. -/
theorem label_of_matrixLabel {level : UInt32} {label : String}
    (h : a.matrixLabel level = .ok label) :
    ∃ b, Level.biased level a.levelBias = .ok b ∧
      (a.matrixLabels = [] → label = b.toNat.repr) ∧
      (a.matrixLabels ≠ [] → a.matrixLabels[b.toNat]? = some label) := by
  rw [matrixLabel] at h
  by_cases hshort : 0 < a.matrixLabels.length ∧ a.matrixLabels.length ≤ level.toNat
  · rw [if_pos hshort] at h
    cases h
  rw [if_neg hshort] at h
  obtain ⟨b, hb, h⟩ := bind_eq_ok_iff.mp h
  refine ⟨b, hb, ?_⟩
  by_cases hnone : a.matrixLabels = []
  · rw [if_pos (List.length_eq_zero_iff.mpr hnone)] at h
    cases h
    exact ⟨fun _ => rfl, fun hsome => absurd hnone hsome⟩
  · rw [if_neg (mt List.length_eq_zero_iff.mp hnone)] at h
    refine ⟨fun hempty => absurd hempty hnone, fun _ => ?_⟩
    cases hplace : a.matrixLabels[b.toNat]? with
    | none =>
      rw [hplace] at h
      cases h
    | some name =>
      rw [hplace] at h
      cases h
      rfl

/-- Labels without repetition tell the levels apart. -/
theorem matrixLabel_inj (hlabels : a.matrixLabels.Nodup) {level level' : UInt32} {label : String}
    (h : a.matrixLabel level = .ok label) (h' : a.matrixLabel level' = .ok label) :
    level = level' := by
  obtain ⟨b, hb, hnumber, hname⟩ := label_of_matrixLabel h
  obtain ⟨b', hb', hnumber', hname'⟩ := label_of_matrixLabel h'
  suffices hbiased : b = b' by
    subst hbiased
    exact Level.biased_inj hb hb'
  apply UInt32.toNat_inj.mp
  by_cases hnone : a.matrixLabels = []
  · exact Nat.repr_injective ((hnumber hnone).symm.trans (hnumber' hnone))
  · have hplace := hname hnone
    have hlt : b.toNat < a.matrixLabels.length := (List.getElem?_eq_some_iff.mp hplace).1
    exact (List.getElem?_inj hlt hlabels).mp (hplace.trans (hname' hnone).symm)

theorem matrixCell_eq_ok {cell : MatrixCell} (h : a.matrixCell g t = .ok cell) :
    a.matrixLabel t.level = .ok cell.label ∧
      invertRow (g.rowsAt t.level) t.row = some cell.row ∧ cell.column = t.column := by
  rw [matrixCell, bind_eq_ok_iff] at h
  obtain ⟨label, hlabel, h⟩ := h
  cases hin : g.contains t with
  | false =>
    rw [hin] at h
    cases h
  | true =>
    rw [hin] at h
    cases hrow : invertRow (g.rowsAt t.level) t.row with
    | none =>
      rw [hrow] at h
      cases h
    | some row =>
      rw [hrow] at h
      cases h
      exact ⟨hlabel, rfl, rfl⟩

theorem matrixCell_inj (hlabels : a.matrixLabels.Nodup) {t' : Tile} {cell : MatrixCell}
    (h : a.matrixCell g t = .ok cell) (h' : a.matrixCell g t' = .ok cell) : t = t' := by
  obtain ⟨hlabel, hrow, hcolumn⟩ := matrixCell_eq_ok h
  obtain ⟨hlabel', hrow', hcolumn'⟩ := matrixCell_eq_ok h'
  obtain ⟨level, column, row⟩ := t
  obtain ⟨level', column', row'⟩ := t'
  -- The rows can only be compared once they are known to be of one level.
  obtain rfl : level = level' := matrixLabel_inj hlabels hlabel hlabel'
  obtain rfl : row = row' := invertRow_inj hrow hrow'
  obtain rfl : column = column' := hcolumn.symm.trans hcolumn'
  rfl

/-- A URL with a query is the base URL of its tile and the query of its cell. -/
theorem tileUrl_eq_ok_iff_of_query (hstyle : a.style = .query) {u : String} :
    a.tileUrl g t = .ok u ↔
      ∃ cell base, a.matrixCell g t = .ok cell ∧ a.baseUrl t = .ok base ∧
        u = withoutQuery base ++ "?" ++ writeQuery (queryPairs a.parameters cell) := by
  simp only [tileUrl, hstyle, queryUrl, bind_eq_ok_iff, pure_eq_ok_iff]
  constructor
  · rintro ⟨cell, hcell, base, hbase, rfl⟩
    exact ⟨cell, base, hcell, hbase, rfl⟩
  · rintro ⟨cell, base, hcell, hbase, rfl⟩
    exact ⟨cell, hcell, base, hbase, rfl⟩

theorem tileUrl_eq_ok_of_query (hstyle : a.style = .query) {u : String}
    (h : a.tileUrl g t = .ok u) :
    ∃ cell base, a.matrixCell g t = .ok cell ∧
      u = withoutQuery base ++
        a.parameters.queryText cell.label cell.row.toNat cell.column.toNat := by
  obtain ⟨cell, base, hcell, -, rfl⟩ := (tileUrl_eq_ok_iff_of_query hstyle).mp h
  refine ⟨cell, base, hcell, ?_⟩
  rw [← writeQuery_queryPairs, ← String.append_assoc]

end Wmts.Addressing

/-- Tiles that a service is asked for with a query have different URLs, unless a name is given to
two levels: two tiles with the same URL are the same tile, whatever the texts of the service are. -/
theorem Addressing.url_injective_of_query (a : Wmts.Addressing) (p : Placement) (t t' : Tile)
    (u : String) (hstyle : a.style = .query) (hlabels : a.matrixLabels.Nodup)
    (h : (Addressing.wmts a).url p t = .ok u) (h' : (Addressing.wmts a).url p t' = .ok u) :
    t = t' := by
  obtain ⟨cell, base, hcell, rfl⟩ := Wmts.Addressing.tileUrl_eq_ok_of_query hstyle h
  obtain ⟨cell', base', hcell', hsame⟩ := Wmts.Addressing.tileUrl_eq_ok_of_query hstyle h'
  obtain ⟨hlabel, hrow, hcolumn⟩ := a.parameters.queryText_inj hsame
  -- Equal texts come from one cell, and a cell from one tile.
  have hcells : cell = cell' := by
    cases cell
    cases cell'
    rw [Wmts.MatrixCell.mk.injEq]
    exact ⟨hlabel, UInt32.toNat_inj.mp hrow, UInt32.toNat_inj.mp hcolumn⟩
  rw [← hcells] at hcell'
  exact Wmts.Addressing.matrixCell_inj hlabels hcell hcell'

/-- A label that goes on like a query, and a subdomain with a query of its own. -/
theorem Addressing.url_injective_of_query_in_label :
    let parameters : Wmts.Parameters := ⟨"L", "S", "M", "F", "1", some ("tilecol", "0")⟩
    let a : Wmts.Addressing :=
      ⟨"https://{s}/", .query, parameters, ⟨["t", "t?u"]⟩, ["m", "m&tilerow=1&tilecol=1"], 0⟩
    let p := Placement.resolve none none none none
    let u := "https://t?service=wmts&request=gettile&version=1&layer=L&style=S&tilematrixset=M" ++
      "&format=F&tilematrix=m&tilerow=0&tilecol=1&tilecol=0"
    (Addressing.wmts a).url p ⟨0, 1, 0⟩ = .ok u ∧
      ∀ t', (Addressing.wmts a).url p t' = .ok u → t' = ⟨0, 1, 0⟩ := by
  intro parameters a p u
  have hurl : (Addressing.wmts a).url p ⟨0, 1, 0⟩ = .ok u := by decide +kernel
  refine ⟨hurl, fun t' ht' => ?_⟩
  exact Addressing.url_injective_of_query a p t' ⟨0, 1, 0⟩ u rfl (by decide) ht' hurl

end RasterOverlay
