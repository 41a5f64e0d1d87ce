import RasterOverlay.Number.Reading
import RasterOverlay.Text.Digits

/-!
The arguments of the command line. Options may stand in any order behind the command, each at most
once, with their values behind an equals sign or as the next argument. They are read in that order,
so asking for help does not excuse a wrong value before it. A tile is chosen either by its column or
by its longitude, never by both, and the other number of the pair has to be there.
-/

namespace RasterOverlay.Command

inductive TileChoice where
  | index (column row : UInt32)
  | position (longitude latitude : Float)

structure TileArguments where
  config : Option String
  level : UInt32
  choice : TileChoice

inductive Arguments where
  | info (config : Option String)
  | resolve (tile : TileArguments)
  | fetch (tile : TileArguments) (output : Option String) (json : Bool)

/-- Why no command is run. -/
inductive Interruption where
  | usageError
  | help
  | version
  deriving DecidableEq

/-- A path may not be empty. -/
def path? (text : String) : Option String := if text.isEmpty then none else some text

/-- A count, which may have a sign in front. -/
def count? (text : String) : Option UInt32 :=
  (Text.integer? text.toList).bind fun n =>
    if 0 ≤ n ∧ n < 0x100000000 then some (UInt32.ofNat n.toNat) else none

/-- What an option takes. -/
inductive OptionKind where
  | flag
  | path
  | count
  | number

/-- Whether a text is a value of an option. -/
def OptionKind.accepts : OptionKind → String → Bool
  | flag, _ => true
  | path, text => (path? text).isSome
  | count, text => (count? text).isSome
  | number, text => (Number.float? text).isSome

/-- The options of a command. -/
abbrev OptionTable := List (String × OptionKind)

namespace OptionTable

def shared : OptionTable := [("verbose", .flag), ("help", .flag)]

def outer : OptionTable := ("version", .flag) :: shared

def info : OptionTable := ("config", .path) :: shared

def resolve : OptionTable :=
  [("level", .count), ("x", .count), ("y", .count), ("lon", .number), ("lat", .number)] ++ info

def fetch : OptionTable := [("output", .path), ("json", .flag)] ++ resolve

/-- The option that a letter stands for. -/
def ofLetter? (table : OptionTable) (letter : Char) : Option String :=
  let name? := [('v', "verbose"), ('h', "help"), ('V', "version")].lookup letter
  name?.filter fun name => (table.lookup name).isSome

end OptionTable

/-- The options found, with their values; a flag has an empty one. -/
abbrev Options := List (String × String)

/-- Adds an option, unless its value is wrong or it is there already. Asking for help or for the
version ends the reading. -/
def Options.add (found : Options) (name : String) (kind : OptionKind) (value : String) :
    Except Interruption Options :=
  if name = "help" then .error .help
  else if name = "version" then .error .version
  else if !kind.accepts value || (found.lookup name).isSome then .error .usageError
  else .ok ((name, value) :: found)

def looksLikeOption (argument : String) : Bool :=
  argument.toList.head? == some '-' && argument != "-"

/-- Whether an option cannot have the next argument as its value. A number may begin with a
hyphen. -/
def OptionKind.refuses : OptionKind → String → Bool
  | flag, _ => true
  | number, _ => false
  | _, argument => looksLikeOption argument

/-- Reads an argument of single letters. -/
def readLetters (table : OptionTable) (found : Options) : List Char → Except Interruption Options
  | [] => .ok found
  | letter :: rest =>
    match table.ofLetter? letter with
    | none => .error .usageError
    | some name => do readLetters table (← found.add name .flag "") rest

/-- The name of a long option and the value behind its equals sign. -/
def splitLong (s : List Char) : String × Option String :=
  let name := s.takeWhile (· != '=')
  match s.drop name.length with
  | _ :: value => (String.ofList name, some (String.ofList value))
  | [] => (String.ofList name, none)

/-- Reads options up to the first argument that is none, and gives what is left from there on. -/
def readOptions (table : OptionTable) (found : Options) :
    List String → Except Interruption (Options × List String)
  | [] => .ok (found, [])
  | argument :: rest =>
    match argument.toList with
    | ['-', '-'] => if rest.isEmpty then .ok (found, []) else .error .usageError
    | '-' :: '-' :: long =>
      let (name, attached) := splitLong long
      match table.lookup name, attached with
      | none, _ => .error .usageError
      | some .flag, some _ => .error .usageError
      | some .flag, none => do readOptions table (← found.add name .flag "") rest
      | some kind, some value => do readOptions table (← found.add name kind value) rest
      | some kind, none =>
        match rest with
        | [] => .error .usageError
        | value :: rest =>
          if kind.refuses value then .error .usageError
          else do readOptions table (← found.add name kind value) rest
    | '-' :: letter :: letters => do
      readOptions table (← readLetters table found (letter :: letters)) rest
    | _ => .ok (found, argument :: rest)

/-- The tile that the options choose. A longitude says that the tile is chosen by a position; a row
or a latitude that does not belong to the choice is let stand. -/
def TileArguments.ofOptions (found : Options) : Except Interruption TileArguments :=
  let number? (name : String) : Option Float := (found.lookup name).bind Number.float?
  let whole? (name : String) : Option UInt32 := (found.lookup name).bind count?
  let choice? : Option TileChoice :=
    match whole? "x", whole? "y", number? "lon", number? "lat" with
    | some column, some row, none, _ => some (.index column row)
    | none, _, some longitude, some latitude => some (.position longitude latitude)
    | _, _, _, _ => none
  match whole? "level", choice? with
  | some level, some choice => .ok ⟨found.lookup "config", level, choice⟩
  | _, _ => .error .usageError

/-- Reads all the arguments behind a command as options. -/
def readAll (table : OptionTable) (arguments : List String) : Except Interruption Options := do
  match ← readOptions table [] arguments with
  | (found, []) => return found
  | _ => throw .usageError

/-- Whether there is help on a subject: on the program or on one of its commands. -/
def isSubject : List String → Bool
  | [] => true
  | [name] => ["info", "resolve", "fetch", "help"].contains name
  | _ => false

/-- The command that the arguments ask for. -/
def Arguments.parse (arguments : List String) : Except Interruption Arguments := do
  match ← readOptions .outer [] arguments with
  | (_, "info" :: rest) => return .info ((← readAll .info rest).lookup "config")
  | (_, "resolve" :: rest) => return .resolve (← TileArguments.ofOptions (← readAll .resolve rest))
  | (_, "fetch" :: rest) =>
    let found ← readAll .fetch rest
    let tile ← TileArguments.ofOptions found
    return .fetch tile (found.lookup "output") (found.lookup "json").isSome
  | (_, "help" :: subject) => throw (if isSubject subject then .help else .usageError)
  | _ => throw .usageError

end RasterOverlay.Command
