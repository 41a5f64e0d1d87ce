import RasterOverlay.Command.Arguments
import RasterOverlay.Command.Failure
import RasterOverlay.Command.Report
import RasterOverlay.Overlay.File

/-!
The commands. What a command needs of the world around it is the record `Surroundings`, so that a
command is a function of the files it finds and of the answers that its requests get.
-/

namespace RasterOverlay.Command

structure Surroundings (m : Type → Type) where
  fileAt : String → m FileContent
  /-- Writes a file, or tells why it could not. -/
  saveFile : String → ByteArray → m (Except String Unit)
  send : Request → m (Except TileError Response)
  /-- A clock in milliseconds. -/
  clock : m Nat
  /-- The directory of the user. -/
  home : String

/-- What a command leaves behind on its outputs. -/
structure Outcome where
  exitCode : UInt32
  output : List String
  errors : List String
  deriving DecidableEq

/-- The place of the overlay file in a user's directory. -/
def defaultPath (home : String) : String :=
  let separator := if home.isEmpty || home.toList.getLast? == some '/' then "" else "/"
  home ++ separator ++ ".rastertile/overlay.ini"

namespace Outcome

def success (output : List String) : Outcome := ⟨0, output, []⟩

/-- A failure after some output. -/
def failure (home : String) (output : List String) (f : Failure) : Outcome :=
  ⟨1, output, f.lines (defaultPath home)⟩

end Outcome

/-- The tile that the arguments choose. -/
def TileArguments.tile (a : TileArguments) (p : Placement) : Except Failure Tile :=
  match a.choice with
  | .index column row => .ok ⟨a.level, column, row⟩
  | .position longitude latitude =>
    match p.tileAtDegrees? longitude latitude a.level with
    | some tile => .ok tile
    | none => .error (.outsidePosition longitude latitude a.level)

/-- The overlay of the file that a path leads to. -/
def loadOverlay (path : String) (content : FileContent) : Except Failure Overlay :=
  (Overlay.ofFile path content).mapError .file

/-- The lines that describe the overlay, if it can be used. -/
def info (path : String) (content : FileContent) : Except Failure (List String) := do
  let overlay ← loadOverlay path content
  let _ ← (Addressing.ofOverlay overlay).mapError .tile
  return describe overlay

/-- The URL of the chosen tile. -/
def resolve (a : TileArguments) (path : String) (content : FileContent) :
    Except Failure String := do
  let overlay ← loadOverlay path content
  let tile ← a.tile overlay.placement
  (Level.check tile).mapError .tile
  let addressing ← (Addressing.ofOverlay overlay).mapError .tile
  (addressing.url overlay.placement tile).mapError .tile

/-- The loader and the tile to load. -/
def prepareFetch (a : TileArguments) (path : String) (content : FileContent) :
    Except Failure (TileLoader × Tile) := do
  let overlay ← loadOverlay path content
  let tile ← a.tile overlay.placement
  let loader ← (TileLoader.ofOverlay overlay).mapError .tile
  return (loader, tile)

variable {m : Type → Type} [Monad m]

/-- Writes an image to a file, if there is an image and a file is named for it. -/
def saveImage (w : Surroundings m) (output : Option String) (image : Option ByteArray) :
    m (Except Failure (Option String)) :=
  match output, image with
  | some path, some image => do
    match ← w.saveFile path image with
    | .ok () => return .ok (some path)
    | .error reason => return .error (.notWritten path reason)
  | _, _ => return .ok none

/-- What is told of a tile that was asked for. -/
def reportTile (home : String) (json : Bool) (s : Summary) : Outcome :=
  if s.result.isLoaded then .success (s.lines json)
  else .failure home (s.lines json) (.notLoaded s.result.errors)

/-- Loads a tile, saves its image and tells about it. -/
def fetch (w : Surroundings m) (l : TileLoader) (t : Tile) (output : Option String) (json : Bool) :
    m Outcome := do
  let start ← w.clock
  let result ← l.load w.send t
  let stop ← w.clock
  match ← saveImage w output result.image with
  | .error f => return .failure w.home [] f
  | .ok saved =>
    return reportTile w.home json ⟨l.name, t, (l.url t).toOption, saved, stop - start, result⟩

/-- The name and version of the program. -/
def versionLine : String := "rastertile 0.1.0"

def usageLines : List String := [
  "Usage: rastertile [--verbose] <COMMAND>",
  "",
  "Commands:",
  "  info     Show projection, tiling scheme and request style of an overlay",
  "  resolve  Print the request URL for a tile",
  "  fetch    Load a tile and print a summary",
  "",
  "Options:",
  "  --config <FILE>               Overlay file (defaults to ~/.rastertile/overlay.ini)",
  "  --level <LEVEL>               Tile level",
  "  --x <X> --y <Y>               Tile column and row, counted from the south",
  "  --lon <LON> --lat <LAT>       Position in decimal degrees",
  "  --output <FILE>               Write the image bytes to this file",
  "  --json                        Print the summary as JSON"]

/-- Runs the command that the arguments ask for. -/
def run (w : Surroundings m) (arguments : List String) : m Outcome := do
  let path (config : Option String) := config.getD (defaultPath w.home)
  let report (r : Except Failure (List String)) : Outcome :=
    match r with
    | .ok lines => .success lines
    | .error f => .failure w.home [] f
  match Arguments.parse arguments with
  | .error .version => return .success [versionLine]
  | .error .help => return .success usageLines
  | .error .usageError => return ⟨2, [], usageLines⟩
  | .ok (.info config) =>
    return report (info (path config) (← w.fileAt (path config)))
  | .ok (.resolve a) =>
    return report ((resolve a (path a.config) (← w.fileAt (path a.config))).map ([·]))
  | .ok (.fetch a output json) =>
    match prepareFetch a (path a.config) (← w.fileAt (path a.config)) with
    | .error f => return .failure w.home [] f
    | .ok (loader, tile) => fetch w loader tile output json

end RasterOverlay.Command
