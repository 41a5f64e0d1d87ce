import RasterOverlay.Proofs.WrittenTemplate
import RasterOverlay.TileError

/-!
Placeholders that are picked by their names. A text is cut at those placeholders only that have a
picked name; all others stay in it, braces and spelling included. Other names can then be written in
the places of such a cut: the scanner finds them where the old ones stood and finds nothing else, since
what it looks at beside a name are the two braces and their neighbours.
-/

namespace RasterOverlay

namespace TemplatePart

/-- The part itself if it is a placeholder with a picked name, and else its characters. -/
def pick (picked : String → Bool) : TemplatePart → List TemplatePart
  | literal c => [literal c]
  | placeholder name =>
    if picked name then [placeholder name] else (placeholder name).source.map literal

theorem pick_of_picked {picked : String → Bool} {name : String} (h : picked name = true) :
    (placeholder name).pick picked = [placeholder name] :=
  if_pos h

theorem pick_of_not_picked {picked : String → Bool} {name : String} (h : picked name = false) :
    (placeholder name).pick picked = (placeholder name).source.map literal :=
  if_neg (by rw [h]; exact Bool.false_ne_true)

theorem flatMap_source_literals (text : List Char) :
    (text.map literal).flatMap source = text := by
  induction text with
  | nil => rfl
  | cons c text ih => rw [List.map_cons, List.flatMap_cons, ih, source, List.singleton_append]

theorem flatMap_source_pick (picked : String → Bool) (part : TemplatePart) :
    (part.pick picked).flatMap source = part.source := by
  cases part with
  | literal c => rfl
  | placeholder name =>
    cases hname : picked name with
    | true => rw [pick_of_picked hname, List.flatMap_singleton]
    | false => rw [pick_of_not_picked hname, flatMap_source_literals]

end TemplatePart

namespace Template

/-- A text is cut at its placeholders with a picked name: at all of them, and nowhere else. -/
structure Cut.AtNamed (picked : String → Bool) (c : Cut) (source : String) : Prop where
  whole : c.text = source.toList
  exact_places : ∀ p : Place, p ∈ c.places ↔
    p.text = source.toList ∧ p.Standalone ∧ picked (String.ofList p.name) = true

theorem Cut.AtNamed.unique {picked : String → Bool} {c c' : Cut} {source : String}
    (h : c.AtNamed picked source) (h' : c'.AtNamed picked source) : c = c' :=
  Cut.eq_of_places (h.whole.trans h'.whole.symm) fun p =>
    (h.exact_places p).trans (h'.exact_places p).symm

/-- The places that the scanner finds and whose names are picked. -/
def cutNamed (picked : String → Bool) (source : String) : Cut :=
  .ofParts ((parts source).flatMap (TemplatePart.pick picked))

variable (picked : String → Bool)

/-! The cut at the picked names is the cut of the text with some of its places left out. -/

theorem flatMap_source_flatMap_pick (ps : List TemplatePart) :
    (ps.flatMap (TemplatePart.pick picked)).flatMap TemplatePart.source =
      ps.flatMap TemplatePart.source := by
  rw [List.flatMap_assoc]
  simp only [TemplatePart.flatMap_source_pick]

theorem text_pick (ps : List TemplatePart) :
    (Cut.ofParts (ps.flatMap (TemplatePart.pick picked))).text = (Cut.ofParts ps).text := by
  rw [text_ofParts, flatMap_source_flatMap_pick, text_ofParts]

theorem fieldPlaces_pick (before : List Char) (ps : List TemplatePart) :
    fieldPlaces (before ++ (Cut.ofParts (ps.flatMap (TemplatePart.pick picked))).lead)
        (Cut.ofParts (ps.flatMap (TemplatePart.pick picked))).fields =
      (fieldPlaces (before ++ (Cut.ofParts ps).lead) (Cut.ofParts ps).fields).filter
        fun p => picked (String.ofList p.name) := by
  -- The text in front of the parts that are left grows by each part that is passed.
  induction ps generalizing before with
  | nil => rfl
  | cons part ps ih =>
    rw [List.flatMap_cons]
    cases part with
    | literal c =>
      have hnext := ih (before ++ [c])
      simp only [List.append_assoc, List.singleton_append] at hnext
      exact hnext
    | placeholder name =>
      -- The places behind this one have it and its braces in front of them.
      have hnext := ih (before ++ '{' :: (name.toList ++ ['}']))
      simp only [List.append_assoc, List.cons_append, List.nil_append] at hnext
      have hrest : ∀ qs : List TemplatePart,
          fieldPlaces (before ++ (Cut.ofParts (.placeholder name :: qs)).lead)
              (Cut.ofParts (.placeholder name :: qs)).fields =
            ⟨before, name.toList, (Cut.ofParts qs).text⟩ ::
              fieldPlaces (before ++ '{' :: (name.toList ++ '}' :: (Cut.ofParts qs).lead))
                (Cut.ofParts qs).fields := by
        intro qs
        simp only [Cut.ofParts, fieldPlaces, Cut.text, List.append_nil]
      cases hname : picked name with
      | true =>
        rw [TemplatePart.pick_of_picked hname, List.singleton_append, hrest, hrest, hnext,
          text_pick, List.filter_cons_of_pos (by rw [String.ofList_toList]; exact hname)]
      | false =>
        rw [TemplatePart.pick_of_not_picked hname, ofParts_append_literals, hrest,
          List.filter_cons_of_neg (by rw [String.ofList_toList, hname]; exact Bool.false_ne_true),
          ← hnext]
        simp only [TemplatePart.source, List.cons_append, List.append_assoc, List.nil_append]

theorem places_cutNamed (source : String) :
    (cutNamed picked source).places =
      (cut source).places.filter fun p => picked (String.ofList p.name) :=
  fieldPlaces_pick picked [] (parts source)

theorem cutNamed_at (source : String) : (cutNamed picked source).AtNamed picked source := by
  refine ⟨?_, ?_⟩
  · rw [cutNamed, text_pick]
    exact text_cut source
  · intro p
    rw [places_cutNamed, List.mem_filter, mem_places_cut_iff, and_assoc]

theorem names_cutNamed (source : String) :
    (cutNamed picked source).names = (placeholders source).filter picked := by
  rw [Cut.names_eq_map_places, places_cutNamed, ← names_cut, Cut.names_eq_map_places,
    List.filter_map]
  rfl

/-! A callback that puts the braces back around all other names fills in the cut at the picked
ones. -/

section

variable {m : Type → Type} [Monad m] [LawfulMonad m] {replace : String → m String}

theorem mapM_render_literals (replace : String → m String) (text : List Char) :
    (text.map TemplatePart.literal).mapM (TemplatePart.render replace) =
      pure (text.map String.singleton) := by
  rw [List.mapM_map]
  exact List.mapM_pure

theorem join_mapM_render_pick
    (h : ∀ name, picked name = false → replace name = pure ("\x7b" ++ name ++ "\x7d"))
    (part : TemplatePart) :
    String.join <$> (part.pick picked).mapM (TemplatePart.render replace) =
      TemplatePart.render replace part := by
  have hsingle : ∀ one : TemplatePart,
      String.join <$> [one].mapM (TemplatePart.render replace) =
        TemplatePart.render replace one := by
    intro one
    simp [String.join]
  cases part with
  | literal c => exact hsingle (.literal c)
  | placeholder name =>
    cases hname : picked name with
    | true =>
      rw [TemplatePart.pick_of_picked hname]
      exact hsingle (.placeholder name)
    | false =>
      have htext : String.ofList (TemplatePart.placeholder name).source =
          "\x7b" ++ name ++ "\x7d" := by
        apply String.toList_inj.mp
        simp [TemplatePart.source]
      rw [TemplatePart.pick_of_not_picked hname, mapM_render_literals, map_pure, join_singletons,
        htext]
      exact (h name hname).symm

theorem substitute_eq_fill_named
    (h : ∀ name, picked name = false → replace name = pure ("\x7b" ++ name ++ "\x7d"))
    (source : String) :
    substitute replace source =
      (cutNamed picked source).fill <$> (cutNamed picked source).names.mapM replace := by
  rw [cutNamed, ← join_mapM_render, substitute, bind_pure_comp]
  induction parts source with
  | nil => rfl
  | cons part ps ih =>
    have hpart := join_mapM_render_pick picked h part
    calc String.join <$> (part :: ps).mapM (TemplatePart.render replace)
        = TemplatePart.render replace part >>= fun first =>
            (first ++ ·) <$> (String.join <$> ps.mapM (TemplatePart.render replace)) := by
          simp [String.join_cons]
      _ = String.join <$>
            ((part :: ps).flatMap (TemplatePart.pick picked)).mapM
              (TemplatePart.render replace) := by
          rw [ih, ← hpart, List.flatMap_cons]
          simp [List.mapM_append, String.join_append]

end

/-! ## Other names in the same places -/

/-- A text of letters that can stand in the braces of a placeholder. -/
structure IsName (name : String) : Prop where
  ne_nil : name.toList ≠ []
  isNameChar : ∀ c ∈ name.toList, isNameChar c = true

end Template

/-- The same part, up to the name of a placeholder. -/
inductive TemplatePart.Renamed (R : String → String → Prop) : TemplatePart → TemplatePart → Prop
  | literal (c : Char) : Renamed R (.literal c) (.literal c)
  | placeholder {name name' : String} (h : R name name') :
    Renamed R (.placeholder name) (.placeholder name')

namespace Template

open TemplatePart (Renamed)

variable {picked : String → Bool} {R : String → String → Prop} {ps ps' : List TemplatePart}

theorem head?_renamed (h : List.Forall₂ (Renamed R) ps ps') :
    (ps'.flatMap TemplatePart.source).head? = (ps.flatMap TemplatePart.source).head? := by
  cases h with
  | nil => rfl
  | cons hpart hrest =>
    cases hpart with
    | literal c => rfl
    | placeholder hname => rfl

/-- A text without an opening brace is made of characters, and these are not renamed. -/
theorem exists_of_renamed_front {front rest' : List Char} (hfront : '{' ∉ front)
    (h : List.Forall₂ (Renamed R) ps ps') (htext : ps'.flatMap TemplatePart.source = front ++ rest') :
    ∃ qs qs', List.Forall₂ (Renamed R) qs qs' ∧
      ps.flatMap TemplatePart.source = front ++ qs.flatMap TemplatePart.source ∧
      qs'.flatMap TemplatePart.source = rest' := by
  induction front generalizing ps ps' with
  | nil => exact ⟨ps, ps', h, rfl, htext⟩
  | cons c front ih =>
    cases h with
    | nil => cases htext
    | cons hpart hrest =>
      cases hpart with
      | literal d =>
        obtain ⟨rfl, htail⟩ := List.cons.inj htext
        obtain ⟨qs, qs', hqs, hsource, hback⟩ :=
          ih (fun hmem => hfront (List.mem_cons_of_mem _ hmem)) hrest htail
        refine ⟨qs, qs', hqs, ?_, hback⟩
        rw [List.flatMap_cons, hsource, TemplatePart.source, List.singleton_append,
          List.cons_append]
      | placeholder hname =>
        -- A placeholder would begin with a brace.
        obtain ⟨rfl, -⟩ := List.cons.inj htext
        exact absurd List.mem_cons_self hfront

/-- Where the scanner sees no placeholder in the old text, it sees none in the new one: the name and the
closing brace of a new one would be characters that were not renamed. -/
theorem placeholderAt?_renamed_eq_none {opened opened' : Bool} {c : Char} {rest : List Char}
    (hnone : placeholderAt? opened (c :: rest) = none)
    (h : List.Forall₂ (Renamed R) (partsAfter opened' rest) ps') :
    placeholderAt? opened (c :: ps'.flatMap TemplatePart.source) = none := by
  rw [Option.eq_none_iff_forall_ne_some]
  rintro ⟨name, after⟩ hsome
  obtain ⟨htext, hne, hn, hopened, hafter⟩ := (placeholderAt?_eq_some _ _ _ _).mp hsome
  obtain ⟨rfl, hbehind⟩ := List.cons.inj htext
  have hbraceless : '{' ∉ name ++ ['}'] := by
    intro hmem
    rcases List.mem_append.mp hmem with hletter | hclosing
    · exact absurd (hn _ hletter) (by decide)
    · exact absurd hclosing (by decide)
  have hfront : ps'.flatMap TemplatePart.source = (name ++ ['}']) ++ after := by
    rw [hbehind, List.append_assoc, List.singleton_append]
  obtain ⟨qs, qs', hqs, hsource, hback⟩ := exists_of_renamed_front hbraceless h hfront
  -- The old text goes on with the same name, so the scan would have seen it there.
  have hseen : placeholderAt? opened ('{' :: rest) = some (name, qs.flatMap TemplatePart.source) := by
    refine (placeholderAt?_eq_some _ _ _ _).mpr ⟨?_, hne, hn, hopened, ?_⟩
    · rw [flatMap_source_partsAfter] at hsource
      rw [hsource, List.append_assoc, List.singleton_append]
    · rw [← head?_renamed hqs, hback]
      exact hafter
  rw [hnone] at hseen
  cases hseen

/-- A new name is seen in the place of an old one. What stands behind the closing brace begins as it did,
so no second brace touches it. -/
theorem partsAfter_of_renamed {opened : Bool} {after : List Char} {name' : String}
    (hvalid : IsName name') (hafter : after.head? ≠ some '}')
    (h : List.Forall₂ (Renamed R) (partsAfter opened after) ps') :
    partsAfter false ((TemplatePart.placeholder name' :: ps').flatMap TemplatePart.source) =
      .placeholder name' :: partsAfter false (ps'.flatMap TemplatePart.source) := by
  have hhead : (ps'.flatMap TemplatePart.source).head? ≠ some '}' := by
    rw [head?_renamed h, flatMap_source_partsAfter]
    exact hafter
  have hscan := partsAfter_of_some ((placeholderAt?_eq_some false _ _ _).mpr
    ⟨rfl, hvalid.ne_nil, hvalid.isNameChar, rfl, hhead⟩)
  rw [String.ofList_toList] at hscan
  rw [List.flatMap_cons, TemplatePart.source, List.append_assoc, List.cons_append,
    List.singleton_append, hscan]

/-- The scanner finds new names where it found the old ones. The induction is on the scan of the old
text. -/
theorem partsAfter_renamed (hR : ∀ name name', R name name' → IsName name → IsName name')
    (opened : Bool) (s : List Char) (h : List.Forall₂ (Renamed R) (partsAfter opened s) ps') :
    partsAfter opened (ps'.flatMap TemplatePart.source) = ps' := by
  fun_induction partsAfter opened s generalizing ps' with
  | case1 opened =>
    cases h
    rw [List.flatMap_nil, partsAfter]
  | case2 opened c rest name after hsome _ ih =>
    obtain ⟨-, hne, hn, rfl, hafter⟩ := (placeholderAt?_eq_some _ _ _ _).mp hsome
    cases h with
    | cons hpart hrest =>
      cases hpart with
      | placeholder hname =>
        have hvalid := hR _ _ hname ⟨by rwa [String.toList_ofList], by rwa [String.toList_ofList]⟩
        rw [partsAfter_of_renamed hvalid hafter hrest, ih hrest]
  | case3 opened c rest hnone ih =>
    cases h with
    | cons hpart hrest =>
      cases hpart with
      | literal =>
        have hnone' := placeholderAt?_renamed_eq_none hnone hrest
        rw [List.flatMap_cons, TemplatePart.source, List.singleton_append,
          partsAfter_of_none hnone', ih hrest]

/-- The cut with other names in its places. -/
structure Cut.Renamed (R : String → String → Prop) (c c' : Cut) : Prop where
  lead : c'.lead = c.lead
  fields : List.Forall₂
    (fun field field' => R (String.ofList field.1) (String.ofList field'.1) ∧ field'.2 = field.2)
    c.fields c'.fields

/-- The names that are picked are replaced, and the others stay. -/
def OnlyPicked (picked : String → Bool) (R : String → String → Prop) (name name' : String) : Prop :=
  if picked name then R name name' else name' = name

theorem exists_of_cut_renamed {c' : Cut}
    (h : (Cut.ofParts (ps.flatMap (TemplatePart.pick picked))).Renamed R c') :
    ∃ ps', List.Forall₂ (Renamed (OnlyPicked picked R)) ps ps' ∧
      ps'.flatMap TemplatePart.source = c'.text := by
  obtain ⟨lead', fields'⟩ := c'
  obtain ⟨hlead, hfields⟩ := h
  dsimp only at hlead hfields
  -- The induction is on the parts: a picked placeholder takes its new name from the cut, and one that
  -- is not picked lies in a text of the cut, which stays as it is.
  induction ps generalizing lead' fields' with
  | nil =>
    cases hfields
    subst hlead
    exact ⟨[], .nil, rfl⟩
  | cons part ps ih =>
    rw [List.flatMap_cons] at hlead hfields
    cases part with
    | literal c =>
      obtain ⟨ps', hps, htext⟩ := ih _ _ rfl hfields
      refine ⟨.literal c :: ps', .cons (.literal c) hps, ?_⟩
      rw [List.flatMap_cons, htext, hlead]
      rfl
    | placeholder name =>
      cases hname : picked name with
      | true =>
        rw [TemplatePart.pick_of_picked hname] at hlead hfields
        cases hfields with
        | @cons _ field' _ fields' hfield hrest =>
          obtain ⟨name', literal'⟩ := field'
          obtain ⟨hR, hliteral⟩ := hfield
          obtain ⟨ps', hps, htext⟩ := ih literal' fields' hliteral hrest
          rw [String.ofList_toList] at hR
          refine ⟨.placeholder (String.ofList name') :: ps', .cons (.placeholder ?_) hps, ?_⟩
          · rw [OnlyPicked, if_pos hname]
            exact hR
          · rw [List.flatMap_cons, htext, hlead]
            simp [TemplatePart.source, Cut.text, Cut.ofParts, fieldsText]
      | false =>
        rw [TemplatePart.pick_of_not_picked hname, ofParts_append_literals] at hlead hfields
        obtain ⟨ps', hps, htext⟩ := ih _ _ rfl hfields
        refine ⟨.placeholder name :: ps', .cons (.placeholder ?_) hps, ?_⟩
        · rw [OnlyPicked, if_neg (by rw [hname]; exact Bool.false_ne_true)]
        · rw [List.flatMap_cons, htext, hlead, Cut.text, Cut.text, List.append_assoc]

/-- Two templates that differ only in the names at the picked places have the same parts up to these
names. -/
theorem parts_renamed {source source' : String} {c' : Cut}
    (hR : ∀ name name', R name name' → IsName name → IsName name')
    (h : (cutNamed picked source).Renamed R c') (htext : c'.text = source'.toList) :
    List.Forall₂ (Renamed (OnlyPicked picked R)) (parts source) (parts source') := by
  obtain ⟨ps', hps, hsource⟩ := exists_of_cut_renamed h
  have hnames : ∀ name name', OnlyPicked picked R name name' → IsName name → IsName name' := by
    intro name name' hname hvalid
    by_cases hpicked : picked name = true
    · rw [OnlyPicked, if_pos hpicked] at hname
      exact hR name name' hname hvalid
    · rw [OnlyPicked, if_neg hpicked] at hname
      rwa [hname]
  have hscan : parts source' = ps' := by
    rw [parts, ← htext, ← hsource]
    exact partsAfter_renamed hnames false source.toList hps
  rw [hscan]
  exact hps

section

variable {ε : Type} {replace replace' : String → Except ε String} {wording : ε → ε}

theorem mapM_render_renamed
    (h : ∀ name name', R name name' → replace' name' = (replace name).mapError wording)
    (hps : List.Forall₂ (Renamed R) ps ps') :
    ps'.mapM (TemplatePart.render replace') =
      (ps.mapM (TemplatePart.render replace)).mapError wording := by
  -- A chain is stopped where it was stopped before, by the reworded failure.
  have hbind : ∀ {α β : Type} (x : Except ε α) (f f' : α → Except ε β),
      (∀ a, f' a = (f a).mapError wording) →
        x.mapError wording >>= f' = (x >>= f).mapError wording := by
    intro α β x f f' hf
    cases x with
    | error e => rfl
    | ok a => exact hf a
  induction hps with
  | nil => rfl
  | @cons part part' ps ps' hpart _ ih =>
    have hrender : TemplatePart.render replace' part' =
        (TemplatePart.render replace part).mapError wording := by
      cases hpart with
      | literal c => rfl
      | placeholder hname => exact h _ _ hname
    rw [List.mapM_cons, List.mapM_cons, hrender, ih]
    apply hbind
    intro first
    apply hbind
    intro texts
    rfl

/-- Templates with the same parts up to names are filled in alike if the new names are answered as the
old ones are, up to the wording of failures. -/
theorem substitute_renamed {source source' : String}
    (h : ∀ name name', R name name' → replace' name' = (replace name).mapError wording)
    (hparts : List.Forall₂ (Renamed R) (parts source) (parts source')) :
    substitute replace' source' = (substitute replace source).mapError wording := by
  rw [substitute, substitute, mapM_render_renamed h hparts]
  cases (parts source).mapM (TemplatePart.render replace) with
  | error e => rfl
  | ok texts => rfl

end

end Template

/-! ## What a failure cites -/

/-- The same failure with another URL in its text, if it cites the URL that was to be filled in. -/
def TileError.citing (url : String) : TileError → TileError
  | noSubdomains _ => noSubdomains url
  | e => e

end RasterOverlay
