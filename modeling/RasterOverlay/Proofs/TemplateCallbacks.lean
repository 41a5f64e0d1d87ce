import RasterOverlay.Proofs.Outcomes
import RasterOverlay.Proofs.TemplateCut

/-!
Templates are filled in by a callback. In every monad the names of the cut are asked for from left
to right and the answers are put in their places; in particular a callback that fails and keeps a
state is asked up to its first failure, and its state is that of the last call.
-/

namespace RasterOverlay.Template

variable {σ ε : Type}

/-- The callback answers these names in turn with these values, and its state changes on the way. -/
inductive Answers (resolve : String → σ → Except ε String × σ) :
    σ → List String → List String → σ → Prop where
  | none (s : σ) : Answers resolve s [] [] s
  | next {s t u : σ} {name value : String} {names values : List String}
      (first : resolve name s = (.ok value, t)) (rest : Answers resolve t names values u) :
      Answers resolve s (name :: names) (value :: values) u

/-- A callback that also notes the names that it is called with. -/
def recorded (resolve : String → σ → Except ε String × σ) (name : String)
    (noted : σ × List String) : Except ε String × (σ × List String) :=
  ((resolve name noted.1).1, (resolve name noted.1).2, noted.2 ++ [name])

/-- The template filled in by a callback that may fail and that keeps a state when it does. -/
def fillWith (resolve : String → σ → Except ε String × σ) (source : String) (s : σ) :
    Except ε String × σ :=
  (substitute (fun name => (ExceptT.mk (resolve name) : ExceptT ε (StateM σ) String))
    source).run.run s

/-! Filling in a template is asking for its names and then filling its cut. -/

theorem fill_lead (c : Char) (lead : List Char) (fields : List (List Char × List Char))
    (values : List String) :
    (⟨c :: lead, fields⟩ : Cut).fill values =
      String.singleton c ++ (⟨lead, fields⟩ : Cut).fill values := by
  rw [Cut.fill, String.ofList_cons, String.append_assoc]
  rfl

theorem fill_field (name lead : List Char) (fields : List (List Char × List Char))
    (value : String) (values : List String) :
    (⟨[], (name, lead) :: fields⟩ : Cut).fill (value :: values) =
      value ++ (⟨lead, fields⟩ : Cut).fill values := by
  rw [Cut.fill, List.zipWith_cons_cons, String.join_cons, String.ofList_nil, String.empty_append,
    String.append_assoc]
  rfl

theorem join_mapM_render {m : Type → Type} [Monad m] [LawfulMonad m] (replace : String → m String)
    (ps : List TemplatePart) :
    String.join <$> ps.mapM (TemplatePart.render replace) =
      (Cut.ofParts ps).fill <$> (Cut.ofParts ps).names.mapM replace := by
  induction ps with
  | nil => simp [Cut.ofParts, Cut.names, Cut.fill]
  | cons part ps ih =>
    cases part with
    | literal c =>
      have hfill : (Cut.ofParts (.literal c :: ps)).fill =
          fun values => String.singleton c ++ (Cut.ofParts ps).fill values :=
        funext (fill_lead c _ _)
      calc String.join <$> (TemplatePart.literal c :: ps).mapM (TemplatePart.render replace)
          = (String.singleton c ++ ·) <$>
              (String.join <$> ps.mapM (TemplatePart.render replace)) := by
            simp [TemplatePart.render, String.join_cons]
        _ = _ := by
            rw [ih, hfill]
            simp [Cut.ofParts, Cut.names]
    | placeholder name =>
      have hfill (value : String) (values : List String) :
          (Cut.ofParts (.placeholder name :: ps)).fill (value :: values) =
            value ++ (Cut.ofParts ps).fill values := fill_field _ _ _ value values
      calc String.join <$> (TemplatePart.placeholder name :: ps).mapM (TemplatePart.render replace)
          = replace name >>= fun value =>
              (value ++ ·) <$> (String.join <$> ps.mapM (TemplatePart.render replace)) := by
            simp [TemplatePart.render, String.join_cons]
        _ = _ := by
            rw [ih]
            have hnames : (Cut.ofParts (.placeholder name :: ps)).names =
                name :: (Cut.ofParts ps).names := by simp [Cut.ofParts, Cut.names]
            simp [hnames, hfill]

theorem substitute_eq_fill {m : Type → Type} [Monad m] [LawfulMonad m] (replace : String → m String)
    (source : String) :
    substitute replace source = (cut source).fill <$> (placeholders source).mapM replace := by
  rw [substitute, ← names_cut, cut, ← join_mapM_render, map_eq_pure_bind]

/-- A template is filled in if each of its placeholders is answered, and with these answers. -/
theorem substitute_eq_ok_iff {replace : String → Except ε String} {source text : String} :
    substitute replace source = .ok text ↔
      ∃ values, List.Forall₂ (fun name value => replace name = .ok value) (placeholders source) values ∧
        (cut source).fill values = text := by
  rw [substitute_eq_fill]
  simp only [← mapM_eq_ok_iff_forall₂]
  exact map_eq_ok_iff

/-! A callback without a state is known from which names it refuses and what it answers for the
others. -/

/-- The result is the first refusal in the order of the text, or the cut with all answers. -/
theorem substitute_of_faults {replace : String → Except ε String} {fault? : String → Option ε}
    {text : String → String}
    (h : ∀ name, replace name = (fault? name).elim (.ok (text name)) .error) (source : String) :
    substitute replace source = ((placeholders source).findSome? fault?).elim
      (.ok ((cut source).fill ((placeholders source).map text))) .error := by
  rw [substitute_eq_fill]
  -- The names are asked for first; the induction is on their list.
  suffices hasked : (placeholders source).mapM replace =
      ((placeholders source).findSome? fault?).elim (.ok ((placeholders source).map text))
        .error by
    rw [hasked]
    cases (placeholders source).findSome? fault? with
    | none => rfl
    | some e => rfl
  induction placeholders source with
  | nil => rfl
  | cons name names ih =>
    rw [List.mapM_cons, List.findSome?_cons, h name]
    cases fault? name with
    | some e => rfl
    | none =>
      -- The first name is answered, so the outcome is that of the others.
      rw [ih]
      cases names.findSome? fault? with
      | none => rfl
      | some e => rfl

/-! A run of a callback over some names ends behind the last name or at the first failure. -/

variable {resolve : String → σ → Except ε String × σ}

/-- Asking for all names in turn. -/
def askAll (resolve : String → σ → Except ε String × σ) (names : List String) (s : σ) :
    Except ε (List String) × σ :=
  (names.mapM fun name => (ExceptT.mk (resolve name) : ExceptT ε (StateM σ) String)).run.run s

theorem fillWith_eq_askAll (source : String) (s : σ) :
    fillWith resolve source s =
      ((askAll resolve (placeholders source) s).1.map (cut source).fill,
        (askAll resolve (placeholders source) s).2) := by
  rw [fillWith, substitute_eq_fill, ExceptT.run_map]
  rfl

theorem askAll_of_ok {s s' : σ} {name value : String} (names : List String)
    (h : resolve name s = (.ok value, s')) :
    askAll resolve (name :: names) s =
      ((askAll resolve names s').1.map (value :: ·), (askAll resolve names s').2) := by
  have hfirst : (ExceptT.mk (resolve name) : ExceptT ε (StateM σ) String).run.run s =
      (pure (.ok value, s') : Id _) := h
  rw [askAll, List.mapM_cons, ExceptT.run_bind, StateT.run_bind, hfirst, pure_bind]
  simp only [bind_pure_comp, ExceptT.run_map, StateT.run_map]
  rfl

theorem askAll_of_error {s s' : σ} {name : String} {e : ε} (names : List String)
    (h : resolve name s = (.error e, s')) : askAll resolve (name :: names) s = (.error e, s') := by
  have hfirst : (ExceptT.mk (resolve name) : ExceptT ε (StateM σ) String).run.run s =
      (pure (.error e, s') : Id _) := h
  rw [askAll, List.mapM_cons, ExceptT.run_bind, StateT.run_bind, hfirst, pure_bind]
  rfl

theorem askAll_of_answers {s s' : σ} {names values : List String}
    (h : Answers resolve s names values s') : askAll resolve names s = (.ok values, s') := by
  induction h with
  | none s => rfl
  | next first _ ih =>
    rw [askAll_of_ok _ first, ih]
    rfl

theorem askAll_of_failure {s s' s'' : σ} {before values : List String} {name : String} {e : ε}
    (h : Answers resolve s before values s') (hfail : resolve name s' = (.error e, s''))
    (after : List String) : askAll resolve (before ++ name :: after) s = (.error e, s'') := by
  induction h with
  | none s => exact askAll_of_error after hfail
  | next first _ ih =>
    rw [List.cons_append, askAll_of_ok _ first, ih hfail]
    rfl

theorem answers_or_fails (resolve : String → σ → Except ε String × σ) (names : List String)
    (s : σ) :
    (∃ values s', Answers resolve s names values s') ∨
      ∃ before name after values s' e s'', names = before ++ name :: after ∧
        Answers resolve s before values s' ∧ resolve name s' = (.error e, s'') := by
  induction names generalizing s with
  | nil => exact Or.inl ⟨[], s, .none s⟩
  | cons name names ih =>
    cases h : resolve name s with
    | mk answer s' =>
    cases answer with
    -- A first answer goes in front of whatever the rest of the names brings.
    | error e => exact Or.inr ⟨[], name, names, [], s, e, s', rfl, .none s, h⟩
    | ok value =>
      rcases ih s' with ⟨values, s'', hrest⟩ |
        ⟨before, name', after, values, t, e, t', hnames, hrest, hfail⟩
      · exact Or.inl ⟨value :: values, s'', .next h hrest⟩
      · refine Or.inr ⟨name :: before, name', after, value :: values, t, e, t', ?_, .next h hrest,
          hfail⟩
        rw [hnames, List.cons_append]

theorem Answers.recorded {s s' : σ} {names values : List String}
    (h : Answers resolve s names values s') (noted : List String) :
    Answers (recorded resolve) (s, noted) names values (s', noted ++ names) := by
  induction h generalizing noted with
  | none s =>
    rw [List.append_nil]
    exact .none (s, noted)
  | @next s t u name value names values first _ ih =>
    refine .next (t := (t, noted ++ [name])) ?_ ?_
    · rw [Template.recorded, first]
    · simpa using ih (noted ++ [name])

/-- A recorded run is the run itself, and the names that it notes are the first ones of the list. -/
theorem askAll_recorded (resolve : String → σ → Except ε String × σ) (names : List String) (s : σ) :
    ∃ asked, asked <+: names ∧ ∀ noted, askAll (recorded resolve) names (s, noted) =
      ((askAll resolve names s).1, ((askAll resolve names s).2, noted ++ asked)) := by
  rcases answers_or_fails resolve names s with
    ⟨values, s', h⟩ | ⟨before, name, after, values, s', e, s'', rfl, h, hfail⟩
  · refine ⟨names, List.prefix_rfl, ?_⟩
    intro noted
    rw [askAll_of_answers (h.recorded noted), askAll_of_answers h]
  · -- The name that is refused is noted as well.
    refine ⟨before ++ [name], ⟨after, by simp⟩, ?_⟩
    intro noted
    have hfail' : recorded resolve name (s', noted ++ before) =
        (.error e, (s'', noted ++ before ++ [name])) := by
      rw [recorded, hfail]
    rw [askAll_of_failure (h.recorded noted) hfail', askAll_of_failure h hfail,
      List.append_assoc]

theorem mentions_iff (source key : String) :
    mentions source key = true ↔
      ∃ name ∈ placeholders source, name.toList.map Char.toLower = key.toList.map Char.toLower := by
  rw [mentions, List.any_eq_true]
  simp only [Text.sameLetters, beq_iff_eq]
  exact exists_congr fun name => and_congr_right fun _ => eq_comm

/-- Templates are cut and filled in at their placeholders only. The cut is the one cut of the text
at all places that the grammar allows; its names are what is listed and what is searched. A callback is
called with these names in turn, up to its first failure, which is the result; without one, the
result is the cut with the answers in place of the names. -/
theorem substitute_fills_the_cut (source : String) :
    ∃ c : Cut, c.At source ∧ (∀ c' : Cut, c'.At source → c' = c) ∧
      placeholders source = c.names ∧
      (∀ key, mentions source key = true ↔
        ∃ name ∈ c.names, name.toList.map Char.toLower = key.toList.map Char.toLower) ∧
      ∀ (σ ε : Type) (resolve : String → σ → Except ε String × σ) (s : σ),
        (∃ values s', Answers resolve s c.names values s' ∧
          fillWith resolve source s = (.ok (c.fill values), s') ∧
          fillWith (recorded resolve) source (s, []) = (.ok (c.fill values), s', c.names)) ∨
        ∃ before name after values s' e s'', c.names = before ++ name :: after ∧
          Answers resolve s before values s' ∧ resolve name s' = (.error e, s'') ∧
          fillWith resolve source s = (.error e, s'') ∧
          fillWith (recorded resolve) source (s, []) = (.error e, s'', before ++ [name]) := by
  refine ⟨cut source, cut_at source, fun c' hc' => hc'.unique (cut_at source),
    (names_cut source).symm, ?_, ?_⟩
  · rw [names_cut]
    exact mentions_iff source
  · intro σ ε resolve s
    -- A recorded run is the run itself with the names beside the state.
    rw [names_cut]
    simp only [fillWith_eq_askAll]
    rcases answers_or_fails resolve (placeholders source) s with
      ⟨values, s', h⟩ | ⟨before, name, after, values, s', e, s'', hnames, h, hfail⟩
    · refine Or.inl ⟨values, s', h, ?_, ?_⟩
      · rw [askAll_of_answers h]
        rfl
      · rw [askAll_of_answers (h.recorded [])]
        rfl
    · have hfail' :
          recorded resolve name (s', [] ++ before) = (.error e, s'', before ++ [name]) := by
        rw [recorded, hfail]
        rfl
      refine Or.inr ⟨before, name, after, values, s', e, s'', hnames, h, hfail, ?_, ?_⟩
      · rw [hnames, askAll_of_failure h hfail]
        rfl
      · rw [hnames, askAll_of_failure (h.recorded []) hfail']
        rfl

end RasterOverlay.Template
