import Mathlib
import RasterOverlay.Proofs.CommandLines
import RasterOverlay.Proofs.CommandRuns

/-!
The commands `resolve` and `fetch` on the same overlay and the same tile. Each of them goes through
the same checks, but not in the same order: one checks the level before it makes the addressing, the
other makes a loader of the addressing and leaves the level to the load. Since both stop at the
first failure, only what stops them may differ, never whether they are stopped.
-/

namespace RasterOverlay.Command

/-- A URL is printed if and only if there is a loader whose tile has this URL. -/
theorem resolve_eq_ok_iff {a : TileArguments} {path : String} {content : FileContent} {u : String} :
    resolve a path content = .ok u ↔
      ∃ l t, prepareFetch a path content = .ok (l, t) ∧ l.url t = .ok u := by
  simp only [resolve, prepareFetch, bind_eq_ok_iff, mapError_eq_ok_iff, pure_eq_ok_iff]
  constructor
  · rintro ⟨o, ho, t, ht, ⟨⟩, hlevel, addressing, hmade, hurl⟩
    refine ⟨TileLoader.withAddressing o addressing, t, ⟨o, ho, t, ht, _, ?_, rfl⟩, ?_⟩
    · exact (TileLoader.ofOverlay_eq_ok_iff o _).mpr ⟨addressing, hmade, rfl⟩
    · exact bind_eq_ok_iff.mpr ⟨(), hlevel, hurl⟩
  · rintro ⟨l, t, ⟨o, ho, t', ht, l', hl, heq⟩, hurl⟩
    cases heq
    obtain ⟨addressing, hmade, rfl⟩ := (TileLoader.ofOverlay_eq_ok_iff o l).mp hl
    obtain ⟨⟨⟩, hlevel, hurl⟩ := bind_eq_ok_iff.mp hurl
    exact ⟨o, ho, t, ht, (), hlevel, addressing, hmade, hurl⟩

/-- Either both commands get as far as one URL, or neither of them does. -/
theorem resolve_and_fetch_cases (w : World) {line line' : List String} {a : TileArguments}
    {output : Option String} {json : Bool}
    (h : Arguments.parse line = .ok (.resolve a))
    (h' : Arguments.parse line' = .ok (.fetch a output json)) :
    (∃ u headers, (w.run line).1 = .success [u] ∧
      requestsOf (w.run line').2 = [⟨u, headers⟩]) ∨
    ((w.run line).1.exitCode = 1 ∧ requestsOf (w.run line').2 = [] ∧
      savedFiles (w.run line').2 = [] ∧ (w.run line').1.exitCode = 1) := by
  have hresolve := run_of_parse_resolve w h
  have hfetch := run_of_parse_fetch w h'
  generalize w.overlayPath a.config = path at hresolve hfetch
  cases hurl : resolve a path (w.fileAt path) with
  | ok u =>
    obtain ⟨l, t, hprepared, htile⟩ := resolve_eq_ok_iff.mp hurl
    obtain ⟨outcome, later, hrun, hlater⟩ :=
      run_fetch_of_url w [Deed.read path] htile output json
    have hall : w.run line' = (outcome, [Deed.read path] ++ [Deed.timed] ++
        [Deed.sent ⟨u, l.headers⟩] ++ [Deed.timed] ++ later) := by
      rw [hfetch, hprepared]
      exact hrun
    refine Or.inl ⟨u, l.headers, ?_, ?_⟩
    · rw [hresolve, hurl]
    · rw [hall, requestsOf_append, hlater]
      rfl
  | error f =>
    have hexit : (w.run line).1.exitCode = 1 := by
      rw [hresolve, hurl]
      rfl
    refine Or.inr ⟨hexit, ?_⟩
    cases hprepared : prepareFetch a path (w.fileAt path) with
    | error f' =>
      rw [hprepared] at hfetch
      rw [hfetch]
      exact ⟨rfl, rfl, rfl⟩
    | ok p =>
      obtain ⟨l, t⟩ := p
      -- the loader was made, so it is the tile that has no URL
      obtain ⟨e, htile⟩ : ∃ e, l.url t = .error e := by
        cases htile : l.url t with
        | error e => exact ⟨e, rfl⟩
        | ok u =>
          rw [resolve_eq_ok_iff.mpr ⟨l, t, hprepared, htile⟩] at hurl
          cases hurl
      obtain ⟨outcome, hrun, hfailed⟩ :=
        run_fetch_of_no_url w [Deed.read path] htile output json
      have hall : w.run line' = (outcome, [Deed.read path] ++ [Deed.timed] ++ [Deed.timed]) := by
        rw [hfetch, hprepared]
        exact hrun
      rw [hall]
      exact ⟨rfl, rfl, hfailed⟩

/-- `resolve` and `fetch` take the same words for a tile. For the same tile in the same world,
`resolve` prints a URL if and only if `fetch` sends a request, and it is a request to this URL; if
`resolve` fails, then `fetch` sends nothing, saves nothing and fails as well. -/
theorem resolve_agrees_with_fetch (w : World) (line : List String) (a : TileArguments)
    (h : Arguments.parse line = .ok (.resolve a)) :
    (∃ front rest, line = front ++ "resolve" :: rest ∧
      Arguments.parse (front ++ "fetch" :: rest) = .ok (.fetch a none false)) ∧
    ∀ line' output json, Arguments.parse line' = .ok (.fetch a output json) →
      (∀ u, (w.run line).1 = .success [u] ↔
        ∃ headers, requestsOf (w.run line').2 = [⟨u, headers⟩]) ∧
      ((∀ u, (w.run line).1 ≠ .success [u]) →
        (w.run line).1.exitCode = 1 ∧ requestsOf (w.run line').2 = [] ∧
          savedFiles (w.run line').2 = [] ∧ (w.run line').1.exitCode = 1) := by
  refine ⟨parse_fetch_of_parse_resolve h, ?_⟩
  intro line' output json h'
  rcases resolve_and_fetch_cases w h h' with ⟨u, headers, hprinted, hsent⟩ | hfailed
  · rw [hprinted, hsent]
    constructor
    · intro u'
      constructor
      · intro heq
        have hu : [u] = [u'] := congrArg Outcome.output heq
        cases hu
        exact ⟨headers, rfl⟩
      · rintro ⟨headers', heq⟩
        cases heq
        rfl
    · intro hno
      exact absurd rfl (hno u)
  · obtain ⟨hexit, hsilent, hrest⟩ := hfailed
    constructor
    · intro u
      rw [hsilent]
      constructor
      · intro heq
        rw [heq] at hexit
        have hzero : (0 : UInt32) = 1 := hexit
        exact absurd hzero (by decide)
      · rintro ⟨headers, heq⟩
        cases heq
    · intro _
      exact ⟨hexit, hsilent, hrest⟩

/-- One tile has a URL, the other is too deep. -/
theorem resolve_agrees_with_fetch_on_two_tiles :
    let w : World := {
      fileAt := fun _ => .bytes "[overlay]\nurl = a\x7bx\x7d".toUTF8
      saveFile := fun _ _ _ => .ok ()
      answer := fun _ _ => .ok ⟨200, ⟨#[1]⟩⟩
      clock := List.length
      home := "" }
    (w.run ["resolve", "--level", "1", "--x", "2", "--y", "0"]).1 = .success ["a2"] ∧
      (∃ headers, requestsOf (w.run ["fetch", "--output", "b", "--level", "1", "--x", "2",
        "--y", "0"]).2 = [⟨"a2", headers⟩]) ∧
      (w.run ["resolve", "--level", "31", "--x", "2", "--y", "0"]).1.exitCode = 1 ∧
      savedFiles (w.run ["fetch", "--output", "b", "--level", "31", "--x", "2",
        "--y", "0"]).2 = [] := by
  intro w
  obtain ⟨-, hshallow⟩ := resolve_agrees_with_fetch w
    ["resolve", "--level", "1", "--x", "2", "--y", "0"] ⟨none, 1, .index 2 0⟩ rfl
  obtain ⟨-, hdeep⟩ := resolve_agrees_with_fetch w
    ["resolve", "--level", "31", "--x", "2", "--y", "0"] ⟨none, 31, .index 2 0⟩ rfl
  obtain ⟨hprinted, -⟩ := hshallow ["fetch", "--output", "b", "--level", "1", "--x", "2",
    "--y", "0"] (some "b") false rfl
  obtain ⟨-, hfailed⟩ := hdeep ["fetch", "--output", "b", "--level", "31", "--x", "2",
    "--y", "0"] (some "b") false rfl
  have hurl : (w.run ["resolve", "--level", "1", "--x", "2", "--y", "0"]).1 = .success ["a2"] := by
    decide +kernel
  have hexit : (w.run ["resolve", "--level", "31", "--x", "2", "--y", "0"]).1.exitCode ≠ 0 := by
    decide +kernel
  have hno (u : String) :
      (w.run ["resolve", "--level", "31", "--x", "2", "--y", "0"]).1 ≠ .success [u] := by
    intro h
    rw [h] at hexit
    exact hexit rfl
  obtain ⟨hone, -, hunsaved, -⟩ := hfailed hno
  exact ⟨hurl, (hprinted "a2").mp hurl, hone, hunsaved⟩

end RasterOverlay.Command
