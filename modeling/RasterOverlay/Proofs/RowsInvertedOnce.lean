import RasterOverlay.Proofs.AcceptedOverlay
import RasterOverlay.Proofs.TemplateCallbacks

/-!
No row is inverted twice. An overlay whose rows are flipped may not ask for inverted rows as well; this
is tested when the overlay is checked and again when its addressing is made, and the two tests refuse
the same overlays. They go by the placeholders of the template, in any case of their letters, and a tile
is only ever asked about these, so with flipped rows the inverted row is not even computed.
-/

namespace RasterOverlay

namespace Template

variable {σ ε : Type}

/-! ## The names that are asked for -/

/-- A callback without a state is asked as in the monad of its failures. -/
theorem askAll_stateless (replace : String → Except ε String) (names : List String) (s : σ) :
    askAll (fun name s => (replace name, s)) names s = (names.mapM replace, s) := by
  induction names with
  | nil => rfl
  | cons name names ih =>
    rw [List.mapM_cons]
    cases h : replace name with
    | error e =>
      apply askAll_of_error
      rw [h]
    | ok value =>
      have hfirst : (fun name s => (replace name, s)) name s = (.ok value, s) := by
        dsimp only
        rw [h]
      rw [askAll_of_ok names hfirst, ih]
      cases names.mapM replace with
      | error e => rfl
      | ok values => rfl

/-- What a template becomes, and the names that were asked for on the way. -/
def filledAndAsked (replace : String → Except ε String) (source : String) :
    Except ε String × List String :=
  let run := fillWith (recorded fun name state => (replace name, state)) source ((), [])
  (run.1, run.2.2)

theorem filledAndAsked_eq (replace : String → Except ε String) (source : String) :
    ∃ asked, asked <+: placeholders source ∧
      filledAndAsked replace source = (substitute replace source, asked) := by
  obtain ⟨asked, hfront, hrun⟩ :=
    askAll_recorded (fun name (state : Unit) => (replace name, state)) (placeholders source) ()
  refine ⟨asked, hfront, ?_⟩
  have hnoted := hrun []
  rw [askAll_stateless] at hnoted
  rw [filledAndAsked, fillWith_eq_askAll, hnoted, substitute_eq_fill]
  cases (placeholders source).mapM replace with
  | error e => rfl
  | ok values => rfl

end Template

namespace Overlay

variable {o : Overlay}

/-- Rows are flipped, and a placeholder of the template asks for inverted rows. -/
structure InvertsTwice (o : Overlay) : Prop where
  flips : o.flipRows = true
  asked : ∃ p : Template.Place, p.text = o.url.toList ∧ p.Standalone ∧
    Text.sameLetters "reverseY" (String.ofList p.name) = true

theorem invertsRowTwice_iff (o : Overlay) : o.invertsRowTwice = true ↔ o.InvertsTwice := by
  rw [invertsRowTwice, Bool.and_eq_true, Template.mentions, List.any_eq_true]
  constructor
  · rintro ⟨hflips, name, hmem, hname⟩
    obtain ⟨p, htext, hp, rfl⟩ := (Template.mem_placeholders_iff _ _).mp hmem
    exact ⟨hflips, p, htext, hp, hname⟩
  · rintro ⟨hflips, p, htext, hp, hname⟩
    exact ⟨hflips, _, (Template.mem_placeholders_iff _ _).mpr ⟨p, htext, hp, rfl⟩, hname⟩

theorem ofOverlay_eq_error_iff (o : Overlay) (e : TileError) :
    TemplateAddressing.ofOverlay o = .error e ↔
      e = .unusable .rowInvertedTwice ∧ o.InvertsTwice := by
  rw [← invertsRowTwice_iff, TemplateAddressing.ofOverlay]
  by_cases htwice : o.invertsRowTwice = true
  · simp [htwice, eq_comm]
  · simp [htwice]

/-- Without flipped rows an overlay is checked for everything else. -/
theorem defect?_eq_of_template (hs : o.source = .template) :
    o.defect? = ({ o with flipRows := false } : Overlay).defect?.or
      (if o.invertsRowTwice then some .rowInvertedTwice else none) := by
  have honce : ∀ source, ({ o with source, flipRows := false } : Overlay).invertsRowTwice = false :=
    fun _ => rfl
  simp only [defect?, hs, honce, true_and, Bool.false_eq_true, and_false, if_false]
  split_ifs <;> rfl

theorem validate_eq_error_iff (hs : o.source = .template) (e : TileError) :
    o.validate = .error e ↔
      ({ o with flipRows := false } : Overlay).validate = .error e ∨
      (({ o with flipRows := false } : Overlay).validate = .ok () ∧
        TemplateAddressing.ofOverlay o = .error e) := by
  rw [validate, defect?_eq_of_template hs, validate, TemplateAddressing.ofOverlay]
  cases ({ o with flipRows := false } : Overlay).defect? with
  | some defect => simp
  | none =>
    by_cases htwice : o.invertsRowTwice = true
    · simp [htwice]
    · simp [htwice]

/-- An overlay that passes its check has an addressing. -/
theorem ofOverlay_of_validate (hs : o.source = .template) (h : o.validate = .ok ()) :
    TemplateAddressing.ofOverlay o = .ok (.ofFields o) := by
  refine (TemplateAddressing.ofOverlay_eq_ok_iff o _).mpr ⟨?_, rfl⟩
  rw [← Bool.not_eq_true]
  intro htwice
  have hvalid := o.defect?_eq_none_iff.mp (o.validate_eq_ok_iff.mp h)
  exact hvalid.2.2.2.2.2 ⟨hs, htwice⟩

theorem not_asked_of_ofOverlay {a : TemplateAddressing} (hflips : o.flipRows = true)
    (ha : TemplateAddressing.ofOverlay o = .ok a) :
    ∀ name ∈ Template.placeholders a.template, Text.sameLetters "reverseY" name = false := by
  obtain ⟨honce, rfl⟩ := (TemplateAddressing.ofOverlay_eq_ok_iff o a).mp ha
  rw [invertsRowTwice, hflips, Bool.true_and, Template.mentions, List.any_eq_false] at honce
  intro name hname
  exact Bool.eq_false_iff.mpr (honce name hname)

/-- The two tests for rows that are inverted twice refuse the same overlays with a template, for the
same reason: those that flip rows and have a placeholder for inverted rows. So making the addressing
cannot fail after the check. With an addressing that flips rows, no URL of any tile asks for the name of
inverted rows, in whatever case and between whatever braces it stands in the template. -/
theorem rows_inverted_once (o : Overlay) (hs : o.source = .template) :
    (∀ e, TemplateAddressing.ofOverlay o = .error e ↔
      e = .unusable .rowInvertedTwice ∧ o.InvertsTwice) ∧
    (∀ e, o.validate = .error e ↔
      ({ o with flipRows := false } : Overlay).validate = .error e ∨
      (({ o with flipRows := false } : Overlay).validate = .ok () ∧
        TemplateAddressing.ofOverlay o = .error e)) ∧
    (o.validate = .ok () → ∃ a, TemplateAddressing.ofOverlay o = .ok a ∧
      Addressing.ofOverlay o = .ok (.template a)) ∧
    ∀ a, TemplateAddressing.ofOverlay o = .ok a → o.flipRows = true →
      ∀ (p : Placement) (t : Tile), ∃ asked,
        Template.filledAndAsked (a.value p.grid t) a.template =
          ((Addressing.template a).url p t, asked) ∧
        ∀ name ∈ asked, Text.sameLetters "reverseY" name = false := by
  refine ⟨o.ofOverlay_eq_error_iff, validate_eq_error_iff hs, ?_, ?_⟩
  · intro hvalid
    have ha := ofOverlay_of_validate hs hvalid
    refine ⟨_, ha, ?_⟩
    rw [Addressing.ofOverlay, hvalid, hs, ha]
    rfl
  · intro a ha hflips p t
    obtain ⟨asked, hfront, hrun⟩ := Template.filledAndAsked_eq (a.value p.grid t) a.template
    refine ⟨asked, hrun, ?_⟩
    intro name hname
    exact not_asked_of_ofOverlay hflips ha name (hfront.subset hname)

/-- Inverted rows in capitals are refused twice; between further braces they are never asked for. -/
theorem rows_inverted_once_in_capitals :
    let o : Overlay := { url := "{y}/{REVERSEY}", flipRows := true }
    let o' : Overlay := { url := "{y}/\x7b\x7breverseY\x7d\x7d/{x}", flipRows := true }
    let p := Placement.resolve none none none none
    o.validate = .error (.unusable .rowInvertedTwice) ∧
      TemplateAddressing.ofOverlay o = .error (.unusable .rowInvertedTwice) ∧
      o'.validate = .ok () ∧ ∃ a, TemplateAddressing.ofOverlay o' = .ok a ∧
        Template.filledAndAsked (a.value p.grid ⟨3, 5, 2⟩) a.template =
          (.ok "5/\x7b\x7breverseY\x7d\x7d/5", ["y", "x"]) ∧
        ∀ name ∈ ["y", "x"], Text.sameLetters "reverseY" name = false := by
  intro o o' p
  have htwice : TemplateAddressing.ofOverlay o = .error (.unusable .rowInvertedTwice) := by
    rw [TemplateAddressing.ofOverlay, if_pos (by decide +kernel)]
  have hrest : ({ o with flipRows := false } : Overlay).validate = .ok () := by decide +kernel
  have hvalid : o'.validate = .ok () := by decide +kernel
  obtain ⟨-, hrefused, -, -⟩ := rows_inverted_once o rfl
  obtain ⟨-, -, haccepted, honce⟩ := rows_inverted_once o' rfl
  obtain ⟨a, ha, -⟩ := haccepted hvalid
  obtain ⟨-, rfl⟩ := (TemplateAddressing.ofOverlay_eq_ok_iff _ _).mp ha
  obtain ⟨asked, hrun, hasked⟩ := honce _ ha rfl p ⟨3, 5, 2⟩
  have hnames : Template.filledAndAsked ((TemplateAddressing.ofFields o').value p.grid ⟨3, 5, 2⟩)
      o'.url = (.ok "5/\x7b\x7breverseY\x7d\x7d/5", ["y", "x"]) := by
    decide +kernel
  obtain rfl : ["y", "x"] = asked := congrArg Prod.snd (hnames.symm.trans hrun)
  exact ⟨(hrefused _).mpr (.inr ⟨hrest, htwice⟩), htwice, hvalid, _, ha, hnames, hasked⟩

end Overlay

end RasterOverlay
