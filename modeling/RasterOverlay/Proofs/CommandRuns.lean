import Mathlib
import RasterOverlay.Command.Run

/-!
Runs of commands in a world. A command meets the world only through its surroundings, so a run is
judged by what they were used for: the file that was read, the requests that were sent and the files
that were written, in their order.
-/

namespace RasterOverlay.Command

/-- What a command does to the world around it. -/
inductive Deed where
  | read (path : String)
  | saved (path : String) (image : ByteArray)
  | sent (r : Request)
  | timed

/-- A world that commands are run in. Its answers may depend on all that was done before. -/
structure World where
  fileAt : String → FileContent
  saveFile : List Deed → String → ByteArray → Except String Unit
  answer : List Deed → Request → Except TileError Response
  clock : List Deed → Nat
  home : String

/-- The requests among some deeds. -/
def requestsOf (deeds : List Deed) : List Request :=
  deeds.filterMap fun
    | .sent r => some r
    | _ => none

theorem requestsOf_append (before after : List Deed) :
    requestsOf (before ++ after) = requestsOf before ++ requestsOf after :=
  List.filterMap_append

/-- The files that were written. -/
def savedFiles (deeds : List Deed) : List (String × ByteArray) :=
  deeds.filterMap fun
    | .saved path image => some (path, image)
    | _ => none

namespace World

/-- The surroundings that write down every deed. -/
def surroundings (w : World) : Surroundings (StateM (List Deed)) where
  fileAt path := modifyGet fun deeds => (w.fileAt path, deeds ++ [Deed.read path])
  saveFile path image :=
    modifyGet fun deeds => (w.saveFile deeds path image, deeds ++ [.saved path image])
  send r := modifyGet fun deeds => (w.answer deeds r, deeds ++ [.sent r])
  clock := modifyGet fun deeds => (w.clock deeds, deeds ++ [Deed.timed])
  home := w.home

/-- What a command line leaves behind, and what was done for it. -/
def run (w : World) (line : List String) : Outcome × List Deed :=
  (Command.run w.surroundings line).run []

/-- The path of the overlay file, which may be left to the default. -/
def overlayPath (w : World) (config : Option String) : String :=
  config.getD (defaultPath w.home)

end World

/-! ## The load of a tile -/

section

variable (w : World) (deeds : List Deed)

theorem run_fileAt (path : String) :
    (w.surroundings.fileAt path).run deeds =
      (pure (w.fileAt path, deeds ++ [.read path]) : Id _) := rfl

theorem run_clock :
    w.surroundings.clock.run deeds = (pure (w.clock deeds, deeds ++ [Deed.timed]) : Id _) := rfl

theorem run_send (r : Request) :
    (w.surroundings.send r).run deeds = (pure (w.answer deeds r, deeds ++ [.sent r]) : Id _) := rfl

theorem run_saveFile (path : String) (image : ByteArray) :
    (w.surroundings.saveFile path image).run deeds =
      (pure (w.saveFile deeds path image, deeds ++ [.saved path image]) : Id _) := rfl

/-- Saving sends nothing. -/
theorem run_saveImage (output : Option String) (image : Option ByteArray) :
    ∃ result later, (saveImage w.surroundings output image).run deeds =
      (pure (result, deeds ++ later) : Id _) ∧ requestsOf later = [] := by
  -- without a path or without an image nothing is done
  have hidle : (saveImage w.surroundings output image).run deeds =
      (pure (.ok none, deeds) : Id _) → ∃ result later,
        (saveImage w.surroundings output image).run deeds =
          (pure (result, deeds ++ later) : Id _) ∧ requestsOf later = [] := by
    intro h
    exact ⟨.ok none, [], by rw [h, List.append_nil], rfl⟩
  cases output with
  | none =>
    apply hidle
    rfl
  | some path =>
    cases image with
    | none =>
      apply hidle
      rfl
    | some image =>
      rw [saveImage, StateT.run_bind, run_saveFile, pure_bind]
      cases w.saveFile deeds path image with
      | ok => exact ⟨.ok (some path), [.saved path image], rfl, rfl⟩
      | error reason => exact ⟨.error (.notWritten path reason), [.saved path image], rfl, rfl⟩

/-- A tile without a URL is neither asked for nor saved. -/
theorem run_fetch_of_no_url {l : TileLoader} {t : Tile} {e : TileError} (h : l.url t = .error e)
    (output : Option String) (json : Bool) :
    ∃ outcome, (fetch w.surroundings l t output json).run deeds =
      (pure (outcome, deeds ++ [Deed.timed] ++ [Deed.timed]) : Id _) ∧ outcome.exitCode = 1 := by
  have hload : (l.load w.surroundings.send t).run (deeds ++ [Deed.timed]) =
      (pure (.failed e (l.outlook t), deeds ++ [Deed.timed]) : Id _) := by
    rw [TileLoader.load, h]
    rfl
  have hsave (deeds' : List Deed) : (saveImage w.surroundings output
      (LoadedTile.failed e (l.outlook t)).image).run deeds' = (pure (.ok none, deeds') : Id _) := by
    cases output with
    | none => rfl
    | some path => rfl
  simp only [fetch, StateT.run_bind, run_clock, pure_bind, hload, hsave]
  exact ⟨_, rfl, rfl⟩

/-- A tile with a URL is asked for once. -/
theorem run_fetch_of_url {l : TileLoader} {t : Tile} {u : String} (h : l.url t = .ok u)
    (output : Option String) (json : Bool) :
    ∃ outcome later, (fetch w.surroundings l t output json).run deeds =
      (pure (outcome, deeds ++ [Deed.timed] ++ [Deed.sent ⟨u, l.headers⟩] ++ [Deed.timed] ++
        later) : Id _) ∧ requestsOf later = [] := by
  have hload (deeds' : List Deed) : ∃ result, (l.load w.surroundings.send t).run deeds' =
      (pure (result, deeds' ++ [Deed.sent ⟨u, l.headers⟩]) : Id _) := by
    rw [TileLoader.load, h]
    simp only [StateT.run_bind, run_send, pure_bind]
    exact ⟨_, rfl⟩
  obtain ⟨result, hload⟩ := hload (deeds ++ [Deed.timed])
  obtain ⟨saved, later, hsave, hlater⟩ := run_saveImage w
    (deeds ++ [Deed.timed] ++ [Deed.sent ⟨u, l.headers⟩] ++ [Deed.timed]) output result.image
  simp only [fetch, StateT.run_bind, run_clock, pure_bind, hload, hsave]
  cases saved with
  | error f => exact ⟨_, later, rfl, hlater⟩
  | ok path => exact ⟨_, later, rfl, hlater⟩

end

/-! ## The commands -/

section

variable (w : World) {line : List String} {a : TileArguments}

theorem run_of_parse_info {config : Option String} (h : Arguments.parse line = .ok (.info config)) :
    w.run line = (match info (w.overlayPath config) (w.fileAt (w.overlayPath config)) with
      | .ok lines => .success lines
      | .error f => .failure w.home [] f, [.read (w.overlayPath config)]) := by
  have hpath : config.getD (defaultPath w.surroundings.home) = w.overlayPath config := rfl
  simp only [World.run, Command.run, h, hpath, StateT.run_bind, run_fileAt, pure_bind]
  cases info (w.overlayPath config) (w.fileAt (w.overlayPath config)) with
  | ok lines => rfl
  | error f => rfl

theorem run_of_parse_resolve (h : Arguments.parse line = .ok (.resolve a)) :
    w.run line = (match resolve a (w.overlayPath a.config) (w.fileAt (w.overlayPath a.config)) with
      | .ok u => .success [u]
      | .error f => .failure w.home [] f, [.read (w.overlayPath a.config)]) := by
  have hpath : a.config.getD (defaultPath w.surroundings.home) = w.overlayPath a.config := rfl
  simp only [World.run, Command.run, h, hpath, StateT.run_bind, run_fileAt, pure_bind]
  cases resolve a (w.overlayPath a.config) (w.fileAt (w.overlayPath a.config)) with
  | ok u => rfl
  | error f => rfl

theorem run_of_parse_fetch {output : Option String} {json : Bool}
    (h : Arguments.parse line = .ok (.fetch a output json)) :
    w.run line = match prepareFetch a (w.overlayPath a.config)
        (w.fileAt (w.overlayPath a.config)) with
      | .ok (l, t) => (fetch w.surroundings l t output json).run [.read (w.overlayPath a.config)]
      | .error f => (.failure w.home [] f, [.read (w.overlayPath a.config)]) := by
  have hpath : a.config.getD (defaultPath w.surroundings.home) = w.overlayPath a.config := rfl
  simp only [World.run, Command.run, h, hpath, StateT.run_bind, run_fileAt, pure_bind]
  cases prepareFetch a (w.overlayPath a.config) (w.fileAt (w.overlayPath a.config)) with
  | ok p => rfl
  | error f => rfl

end

end RasterOverlay.Command
