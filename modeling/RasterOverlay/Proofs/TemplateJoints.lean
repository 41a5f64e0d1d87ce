import RasterOverlay.Proofs.WrittenTemplate

/-!
A template falls apart at every character that is no brace and no letter of a name. Such a character
stands in no placeholder and takes none away from its neighbours, so the parts of the whole are those
of the two sides, however their braces are closed. Filling in the whole is filling in the front and,
unless that fails, the back.
-/

namespace RasterOverlay.Template

/-- A character that is never part of a placeholder. -/
structure IsJoint (c : Char) : Prop where
  not_letter : isNameChar c = false
  ne_opening : c ≠ '{'
  ne_closing : c ≠ '}'

variable {c : Char}

theorem IsJoint.notMem_placeholder (hc : IsJoint c) {name : List Char}
    (hn : ∀ d ∈ name, isNameChar d = true) : c ∉ '{' :: (name ++ ['}']) := by
  have hname : c ∉ name := fun hmem => by
    have hletter := hn c hmem
    rw [hc.not_letter] at hletter
    contradiction
  simp [hname, hc.ne_opening, hc.ne_closing]

/-- A placeholder that begins in front of a joint ends in front of it. -/
theorem placeholderAt?_append (hc : IsJoint c) (opened : Bool) (s rest : List Char) :
    placeholderAt? opened (s ++ c :: rest) =
      (placeholderAt? opened s).map fun found => (found.1, found.2 ++ c :: rest) := by
  ext ⟨name, after⟩
  simp only [Option.map_eq_some_iff, Prod.exists, Prod.mk.injEq]
  constructor
  · intro h
    obtain ⟨htext, hne, hn, hopened, hafter⟩ := (placeholderAt?_eq_some _ _ _ _).mp h
    have hbraced : s ++ c :: rest = '{' :: (name ++ ['}']) ++ after := by
      rw [htext, List.cons_append, List.append_assoc, List.singleton_append]
    rcases List.append_eq_append_iff.mp hbraced with ⟨mid, hmid, hrest⟩ | ⟨mid, hs, hmid⟩
    · cases mid with
      | nil =>
        -- The placeholder ends right in front of the joint.
        rw [List.append_nil] at hmid
        refine ⟨name, [], (placeholderAt?_eq_some _ _ _ _).mpr
          ⟨hmid.symm, hne, hn, hopened, by simp⟩, rfl, hrest⟩
      | cons d mid =>
        obtain ⟨rfl, -⟩ := List.cons.inj hrest
        exact absurd (by rw [hmid]; simp) (hc.notMem_placeholder hn)
    · refine ⟨name, mid, (placeholderAt?_eq_some _ _ _ _).mpr ⟨?_, hne, hn, hopened, ?_⟩, rfl,
        hmid.symm⟩
      · rw [hs, List.cons_append, List.append_assoc, List.singleton_append]
      · intro hclosed
        cases mid with
        | nil => cases hclosed
        | cons d mid => exact hafter (by rw [hmid]; exact hclosed)
  · rintro ⟨name, inside, h, rfl, rfl⟩
    obtain ⟨rfl, hne, hn, hopened, hinside⟩ := (placeholderAt?_eq_some _ _ _ _).mp h
    refine (placeholderAt?_eq_some _ _ _ _).mpr ⟨by simp, hne, hn, hopened, ?_⟩
    cases inside with
    | nil => simpa using hc.ne_closing
    | cons d inside => exact hinside

theorem partsAfter_append (hc : IsJoint c) (opened : Bool) (s rest : List Char) :
    partsAfter opened (s ++ c :: rest) =
      partsAfter opened s ++ .literal c :: partsAfter false rest := by
  fun_induction partsAfter opened s with
  | case1 opened =>
    have hnone : placeholderAt? opened (c :: rest) = none :=
      placeholderAt?_append hc opened [] rest
    have hclosed : (c == '{') = false := beq_eq_false_iff_ne.mpr hc.ne_opening
    rw [List.nil_append, partsAfter_of_none hnone, hclosed, List.nil_append]
  | case2 opened d s name after h _ ih =>
    have hsome : placeholderAt? opened (d :: (s ++ c :: rest)) =
        some (name, after ++ c :: rest) := by
      rw [← List.cons_append, placeholderAt?_append hc, h, Option.map_some]
    rw [List.cons_append, partsAfter_of_some hsome, ih, List.cons_append]
  | case3 opened d s h ih =>
    have hnone : placeholderAt? opened (d :: (s ++ c :: rest)) = none := by
      rw [← List.cons_append, placeholderAt?_append hc, h, Option.map_none]
    rw [List.cons_append, partsAfter_of_none hnone, ih, List.cons_append]

theorem parts_append (hc : IsJoint c) (a b : String) :
    parts (a ++ String.singleton c ++ b) = parts a ++ .literal c :: parts b := by
  have htext : (a ++ String.singleton c ++ b).toList = a.toList ++ c :: b.toList := by simp
  rw [parts, htext, partsAfter_append hc, parts, parts]

/-- A template is filled in from one side of a joint to the other. -/
theorem substitute_append {m : Type → Type} [Monad m] [LawfulMonad m] (hc : IsJoint c)
    (replace : String → m String) (a b : String) :
    substitute replace (a ++ String.singleton c ++ b) = (do
      let front ← substitute replace a
      let back ← substitute replace b
      return front ++ String.singleton c ++ back) := by
  have hjoin (texts later : List String) :
      String.join (texts ++ String.singleton c :: later) =
        String.join texts ++ String.singleton c ++ String.join later := by
    rw [String.join_append, String.join_cons, String.append_assoc]
  simp only [substitute, parts_append hc, List.mapM_append, List.mapM_cons, TemplatePart.render,
    bind_assoc, pure_bind, hjoin]

/-! ## Runs across a joint -/

section

variable {σ ε : Type} {resolve : String → σ → Except ε String × σ} {a : String} {s s' : σ}

theorem IsJoint.of_not_letter (hletter : ¬ IsNameLetter c) (hopening : c ≠ '{')
    (hclosing : c ≠ '}') : IsJoint c where
  not_letter := by rwa [← Bool.not_eq_true, isNameChar_iff]
  ne_opening := hopening
  ne_closing := hclosing

theorem placeholders_append (hc : IsJoint c) (a b : String) :
    placeholders (a ++ String.singleton c ++ b) = placeholders a ++ placeholders b := by
  rw [placeholders, parts_append hc, List.filterMap_append, List.filterMap_cons, TemplatePart.name?,
    placeholders, placeholders]

/-- The names that a callback is called with while a template is filled in. -/
def asked (resolve : String → σ → Except ε String × σ) (source : String) (s : σ) : List String :=
  (fillWith (recorded resolve) source (s, [])).2.2

/-- Noting the names does not change a run, and what is noted does not depend on earlier notes. -/
theorem fillWith_recorded (resolve : String → σ → Except ε String × σ) (source : String) (s : σ)
    (noted : List String) :
    fillWith (recorded resolve) source (s, noted) =
      ((fillWith resolve source s).1, (fillWith resolve source s).2,
        noted ++ asked resolve source s) := by
  obtain ⟨names, -, hrun⟩ := askAll_recorded resolve (placeholders source) s
  have hasked : asked resolve source s = names := by
    rw [asked, fillWith_eq_askAll, hrun, List.nil_append]
  rw [hasked, fillWith_eq_askAll, fillWith_eq_askAll, hrun]

/-- A failure in front of a joint ends the run there. -/
theorem fillWith_append_of_error {e : ε} (hc : IsJoint c) (h : fillWith resolve a s = (.error e, s'))
    (b : String) : fillWith resolve (a ++ String.singleton c ++ b) s = (.error e, s') := by
  have hfront : (substitute
      (fun name => (ExceptT.mk (resolve name) : ExceptT ε (StateM σ) String)) a).run.run s =
      (pure (.error e, s') : Id _) := h
  rw [fillWith, substitute_append hc, ExceptT.run_bind, StateT.run_bind, hfront, pure_bind]
  rfl

/-- Behind a joint the run goes on with the state that the front has left. -/
theorem fillWith_append_of_ok {front : String} (hc : IsJoint c)
    (h : fillWith resolve a s = (.ok front, s')) (b : String) :
    fillWith resolve (a ++ String.singleton c ++ b) s =
      ((fillWith resolve b s').1.map (front ++ String.singleton c ++ ·),
        (fillWith resolve b s').2) := by
  have hfront : (substitute
      (fun name => (ExceptT.mk (resolve name) : ExceptT ε (StateM σ) String)) a).run.run s =
      (pure (.ok front, s') : Id _) := h
  rw [fillWith, substitute_append hc, ExceptT.run_bind, StateT.run_bind, hfront, pure_bind]
  simp only [bind_pure_comp, ExceptT.run_map, StateT.run_map]
  rfl

theorem asked_append_of_error {e : ε} (hc : IsJoint c) (h : fillWith resolve a s = (.error e, s'))
    (b : String) : asked resolve (a ++ String.singleton c ++ b) s = asked resolve a s := by
  have hfront := fillWith_recorded resolve a s []
  rw [h, List.nil_append] at hfront
  rw [asked, fillWith_append_of_error hc hfront]

theorem asked_append_of_ok {front : String} (hc : IsJoint c)
    (h : fillWith resolve a s = (.ok front, s')) (b : String) :
    asked resolve (a ++ String.singleton c ++ b) s = asked resolve a s ++ asked resolve b s' := by
  have hfront := fillWith_recorded resolve a s []
  rw [h, List.nil_append] at hfront
  rw [asked, fillWith_append_of_ok hc hfront, fillWith_recorded]

/-- A template with a character that is no brace and no letter of a name is filled in piece by piece,
whatever braces the two pieces have. Its placeholders are those of the front and those of the back. A
callback is asked for the front first; a failure there is the outcome of the whole, and otherwise it is
asked for the back in the state that it has then, and the texts are put together again. -/
theorem filled_in_piecewise (a b : String) (c : Char) (hletter : ¬ IsNameLetter c)
    (hopening : c ≠ '{') (hclosing : c ≠ '}') :
    placeholders (a ++ String.singleton c ++ b) = placeholders a ++ placeholders b ∧
    ∀ (σ ε : Type) (resolve : String → σ → Except ε String × σ) (s s' : σ),
      (∀ e, fillWith resolve a s = (.error e, s') →
        fillWith resolve (a ++ String.singleton c ++ b) s = (.error e, s') ∧
        asked resolve (a ++ String.singleton c ++ b) s = asked resolve a s) ∧
      ∀ front, fillWith resolve a s = (.ok front, s') →
        fillWith resolve (a ++ String.singleton c ++ b) s =
          ((fillWith resolve b s').1.map (front ++ String.singleton c ++ ·),
            (fillWith resolve b s').2) ∧
        asked resolve (a ++ String.singleton c ++ b) s = asked resolve a s ++ asked resolve b s' := by
  have hc := IsJoint.of_not_letter hletter hopening hclosing
  refine ⟨placeholders_append hc a b, ?_⟩
  intro σ ε resolve s s'
  constructor
  · intro e h
    exact ⟨fillWith_append_of_error hc h b, asked_append_of_error hc h b⟩
  · intro front h
    exact ⟨fillWith_append_of_ok hc h b, asked_append_of_ok hc h b⟩

/-- Each side of the slash has braces too many, and the callback gives out after two answers. -/
theorem filled_in_piecewise_at_a_slash :
    let resolve (name : String) (calls : ℕ) : Except String String × ℕ :=
      if calls < 2 then (.ok (name ++ name), calls + 1) else (.error name, calls)
    fillWith resolve "{x}\x7b\x7bz\x7d" 0 = (.ok "xx\x7b\x7bz\x7d", 1) ∧
      fillWith resolve "z\x7d\x7d/{y}{x}" 1 = (.error "x", 2) ∧
      fillWith resolve "{x}\x7b\x7bz\x7d/z\x7d\x7d/{y}{x}" 0 = (.error "x", 2) ∧
      asked resolve "{x}\x7b\x7bz\x7d/z\x7d\x7d/{y}{x}" 0 = ["x", "y", "x"] := by
  intro resolve
  have hslash : ¬ IsNameLetter '/' := by
    rw [← isNameChar_iff]
    decide
  have hfront : fillWith resolve "{x}\x7b\x7bz\x7d" 0 = (.ok "xx\x7b\x7bz\x7d", 1) := by
    decide +kernel
  have hback : fillWith resolve "z\x7d\x7d/{y}{x}" 1 = (.error "x", 2) := by
    decide +kernel
  obtain ⟨-, hrun⟩ := filled_in_piecewise "{x}\x7b\x7bz\x7d" "z\x7d\x7d/{y}{x}" '/' hslash (by decide)
    (by decide)
  obtain ⟨hwhole, hasked⟩ := (hrun ℕ String resolve 0 1).2 _ hfront
  rw [hback] at hwhole
  refine ⟨hfront, hback, hwhole, hasked.trans ?_⟩
  decide +kernel

end

end RasterOverlay.Template
