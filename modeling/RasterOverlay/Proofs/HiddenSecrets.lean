import Mathlib
import RasterOverlay.Proofs.AcceptedOverlay
import RasterOverlay.Proofs.CommandRuns

/-!
The values of request headers and of the access token are secrets. Describing an overlay must not
show them, and not by its errors either. An overlay is compared with a copy of it that holds no
secret: the copy is described by the same lines and refused for the same reasons, so overlays that
have the same copy cannot be told apart by `info`.
-/

namespace RasterOverlay

/-! ## Copies without secrets -/

/-- A value that tells nothing, except that there is one. -/
def masked (value : Option String) : Option String :=
  (value.bind Text.filled?).map fun _ => "-"

def Wmts.Options.redacted (s : Wmts.Options) : Wmts.Options :=
  { s with tokenValue := masked s.tokenValue }

def Wmts.Parameters.redacted (p : Wmts.Parameters) : Wmts.Parameters :=
  { p with token := p.token.map fun (name, _) => (name, "-") }

def Wmts.Addressing.redacted (a : Wmts.Addressing) : Wmts.Addressing :=
  { a with parameters := a.parameters.redacted }

def Addressing.redacted : Addressing → Addressing
  | .template a => .template a
  | .wmts a => .wmts a.redacted

/-- The overlay with each secret masked. -/
def Overlay.redacted (o : Overlay) : Overlay :=
  { o with
    headers := o.headers.map fun (name, _) => (name, "")
    wmts := o.wmts.redacted }

/-- Two overlays that differ at most in their secrets: in the values of headers, and in the value of
the token if both have one or both have none. -/
structure Overlay.SameButSecrets (o o' : Overlay) : Prop where
  others_eq : o' = { o with
    headers := o'.headers
    wmts := { o.wmts with tokenValue := o'.wmts.tokenValue } }
  names_eq : o'.headers.map Prod.fst = o.headers.map Prod.fst
  blank_iff : o'.wmts.tokenValue.bind Text.filled? = none ↔
    o.wmts.tokenValue.bind Text.filled? = none

theorem masked_congr {value value' : Option String}
    (h : value'.bind Text.filled? = none ↔ value.bind Text.filled? = none) :
    masked value' = masked value := by
  rw [masked, masked]
  cases hvalue : value.bind Text.filled? with
  | none => rw [h.mpr hvalue]
  | some text =>
    cases hvalue' : value'.bind Text.filled? with
    | none =>
      rw [h.mp hvalue'] at hvalue
      cases hvalue
    | some text' => rfl

theorem Overlay.SameButSecrets.redacted_eq {o o' : Overlay} (h : o.SameButSecrets o') :
    o'.redacted = o.redacted := by
  have hheaders : o'.headers.map (fun (name, _) => (name, "")) =
      o.headers.map fun (name, _) => (name, "") := by
    have hnames := congrArg (List.map fun name => (name, "")) h.names_eq
    rw [List.map_map, List.map_map] at hnames
    exact hnames
  have htoken := masked_congr h.blank_iff
  have hothers := h.others_eq
  rw [redacted, redacted, hheaders, Wmts.Options.redacted, Wmts.Options.redacted, htoken, hothers]

theorem filled?_masked (value : Option String) :
    (masked value).bind Text.filled? = (value.bind Text.filled?).map fun _ => "-" := by
  have hdash : Text.filled? "-" = some "-" := by decide
  rw [masked]
  cases value.bind Text.filled? with
  | none => rfl
  | some text => rw [Option.map_some, Option.bind_some, hdash]

/-- Requests have the same parameters as before, except for the value of the token. -/
theorem Wmts.Options.parameters_redacted (s : Wmts.Options) :
    s.redacted.parameters = s.parameters.redacted := by
  have htoken : s.redacted.parameters.token = s.parameters.redacted.token := by
    simp only [parameters, Wmts.Parameters.redacted, redacted, filled?_masked]
    cases s.tokenName.bind Text.filled? with
    | none => rfl
    | some name =>
      cases s.tokenValue.bind Text.filled? with
      | none => rfl
      | some value => rfl
  exact congrArg (fun token => { s.parameters with token := token }) htoken

/-! ## What is told of an overlay -/

/-- The name of the token is printed whether its value is masked or not. -/
theorem Wmts.Parameters.map_token_redacted {α : Type} (p : Parameters) (f : String → α) :
    (p.redacted.token.map fun (name, _) => f name) = p.token.map fun (name, _) => f name := by
  rw [redacted, Option.map_map]
  rfl

theorem Command.describe_redacted (o : Overlay) : describe o.redacted = describe o := by
  have hnames : o.redacted.headers.map Prod.fst = o.headers.map Prod.fst := by
    rw [Overlay.redacted, List.map_map]
    rfl
  have hempty : o.redacted.headers.isEmpty = o.headers.isEmpty := List.isEmpty_map
  have hparameters : o.redacted.wmts.parameters = o.wmts.parameters.redacted :=
    o.wmts.parameters_redacted
  have hplacement : o.redacted.placement = o.placement := rfl
  simp only [describe, hnames, hempty, hparameters, hplacement,
    Wmts.Parameters.map_token_redacted]
  -- what is left to compare does not read headers or tokens
  rfl

theorem Wmts.Addressing.ofOverlay_redacted (o : Overlay) :
    ofOverlay o.redacted = (ofOverlay o).map redacted := by
  have hurl : o.redacted.url = o.url := rfl
  have hsample : sampleUrl o.redacted = sampleUrl o := rfl
  have hfields : ofFields o.redacted = (ofFields o).redacted :=
    congrArg (fun p => { ofFields o with parameters := p }) o.wmts.parameters_redacted
  rw [ofOverlay_eq, ofOverlay_eq, hurl, hsample, hfields]
  by_cases hstyle : RequestStyle.ofUrl o.url = .query
  · rw [if_pos hstyle, if_pos hstyle]
    cases Url.ofText (sampleUrl o) with
    | error reason => rfl
    | ok u => rfl
  · rw [if_neg hstyle, if_neg hstyle]
    rfl

theorem Addressing.ofOverlay_redacted (o : Overlay) :
    ofOverlay o.redacted = (ofOverlay o).map redacted := by
  have hvalid : o.redacted.validate = o.validate := o.validate_of_unchecked _ _ _ _
  have hsource : o.redacted.source = o.source := rfl
  have htemplate : TemplateAddressing.ofOverlay o.redacted = TemplateAddressing.ofOverlay o := rfl
  rw [ofOverlay, ofOverlay, hvalid, hsource, htemplate, Wmts.Addressing.ofOverlay_redacted]
  cases o.validate with
  | error e => rfl
  | ok valid =>
    cases o.source with
    | template => cases TemplateAddressing.ofOverlay o <;> rfl
    | wmts => cases Wmts.Addressing.ofOverlay o <;> rfl

/-! ## Two overlays -/

namespace Command

theorem info_of_ofFile {o : Overlay} {path : String} {content : FileContent}
    (h : Overlay.ofFile path content = .ok o) :
    info path content =
      ((Addressing.ofOverlay o).mapError Failure.tile).map fun _ => describe o := by
  have hloaded : loadOverlay path content = .ok o := by
    rw [loadOverlay, h]
    rfl
  simp only [info, hloaded, bind, Except.bind]
  cases Addressing.ofOverlay o with
  | error e => rfl
  | ok a => rfl

/-- Overlays that differ only in their secrets are refused for the same reason or accepted both,
and described by the same lines. Where their files are read, `info` does and leaves the same. -/
theorem info_hides_secrets (o o' : Overlay) (h : o.SameButSecrets o') :
    (∀ e, Addressing.ofOverlay o = .error e ↔ Addressing.ofOverlay o' = .error e) ∧
    ((∃ a, Addressing.ofOverlay o = .ok a) ↔ ∃ a, Addressing.ofOverlay o' = .ok a) ∧
    describe o = describe o' ∧
    ∀ (w w' : World) line config, Arguments.parse line = .ok (.info config) →
      w.home = w'.home →
      Overlay.ofFile (w.overlayPath config) (w.fileAt (w.overlayPath config)) = .ok o →
      Overlay.ofFile (w'.overlayPath config) (w'.fileAt (w'.overlayPath config)) = .ok o' →
      w.run line = w'.run line := by
  have hsame : (Addressing.ofOverlay o).map Addressing.redacted =
      (Addressing.ofOverlay o').map Addressing.redacted := by
    rw [← Addressing.ofOverlay_redacted, ← Addressing.ofOverlay_redacted, h.redacted_eq]
  have hlines : describe o = describe o' := by
    rw [← describe_redacted o, ← describe_redacted o', h.redacted_eq]
  refine ⟨eq_error_iff_of_map_eq hsame, exists_ok_iff_of_map_eq hsame, hlines, ?_⟩
  intro w w' line config hline hhome ho ho'
  have hpath : w'.overlayPath config = w.overlayPath config := by
    rw [World.overlayPath, World.overlayPath, hhome]
  have hinfo : info (w.overlayPath config) (w.fileAt (w.overlayPath config)) =
      info (w'.overlayPath config) (w'.fileAt (w'.overlayPath config)) := by
    rw [info_of_ofFile ho, info_of_ofFile ho', hlines]
    cases hmade : Addressing.ofOverlay o with
    | error e => rw [(eq_error_iff_of_map_eq hsame e).mp hmade]
    | ok a =>
      obtain ⟨a', hmade'⟩ := (exists_ok_iff_of_map_eq hsame).mp ⟨a, hmade⟩
      rw [hmade']
      rfl
  rw [run_of_parse_info w hline, run_of_parse_info w' hline, hinfo, hpath, hhome]

/-- Another header, another token and a base URL that is refused for both. -/
theorem info_hides_secrets_of_a_service :
    let o (referer token : String) : Overlay := {
      source := .wmts
      url := "a b"
      headers := [("Referer", referer)]
      wmts := { tokenName := some "key", tokenValue := some token } }
    describe (o "a" "b") = describe (o "c" "d") ∧
      ∃ e, Addressing.ofOverlay (o "a" "b") = .error e ∧
        Addressing.ofOverlay (o "c" "d") = .error e := by
  intro o
  have hsecrets : (o "a" "b").SameButSecrets (o "c" "d") := by
    refine ⟨rfl, rfl, ?_⟩
    decide +kernel
  obtain ⟨herror, -, hlines, -⟩ := info_hides_secrets (o "a" "b") (o "c" "d") hsecrets
  have hrefused : ∃ e, Addressing.ofOverlay (o "a" "b") = .error e := by
    have hnot : (Addressing.ofOverlay (o "a" "b")).toOption.isSome = false := by decide +kernel
    cases hmade : Addressing.ofOverlay (o "a" "b") with
    | error e => exact ⟨e, rfl⟩
    | ok a =>
      rw [hmade] at hnot
      cases hnot
  obtain ⟨e, he⟩ := hrefused
  exact ⟨hlines, e, he, (herror e).mp he⟩

end Command

end RasterOverlay
