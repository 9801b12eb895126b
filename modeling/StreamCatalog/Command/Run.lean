import StreamCatalog.Command.Arguments
import StreamCatalog.Config.Reader
import StreamCatalog.Monitor

/-!
# Running a command

A command prints lines and may end with an error.  An error that has causes is printed
with them: a single one by itself, several with numbers.

What a command needs to know of files it asks of the machine it runs on, so a command
is a computation over any kind of machine.
-/

namespace StreamCatalog
namespace Command

/-- The machine that a command runs on. -/
structure Machine (m : Type → Type) extends Host m where
  /-- The text of a file, or why it cannot be read. -/
  readFile : String → m (Except String String)
  /-- Is there anything at a path? -/
  isThere : String → m Bool

/-- What becomes of a command. -/
inductive Outcome where
  /-- The command line makes no sense. -/
  | misused
  | finished (output : String)
  | failed (output error : String)
  /-- It broke off. -/
  | broken
  /-- A stream is being received. -/
  | receiving

/-- The exit code. -/
def Outcome.code : Outcome → Nat
  | .finished _ | .receiving => 0
  | .failed _ _ => 1
  | .misused => 2
  | .broken => 101

/-! ## Errors -/

/-- A text whose further lines stand under the first one. -/
def indent (margin text : String) : String :=
  ("\n" ++ margin).intercalate ((Text.split '\n' text.toList).map String.ofList)

/-- An error with what led to it, outermost first. -/
def causes : Error → List String
  | .io text => [(Error.io text).message, text]
  | .store source => [(Error.store source).message, source]
  | e => [e.message]

/-- The causes below an error. -/
def causeLines : List String → String
  | [cause] => "    " ++ indent "    " cause ++ "\n"
  | several => String.join (several.mapIdx fun n cause =>
      "    " ++ String.ofList (Decimal.digits n) ++ ": " ++ indent "       " cause ++ "\n")

/-- An error as it is printed, with what the program was doing. -/
def failure (doing : String) (e : Error) : String :=
  "Error: " ++ doing ++ "\n\nCaused by:\n" ++ causeLines (causes e)

/-! ## The commands -/

/-- The name and the release of this program. -/
def version : String := "vidcat 0.1.0"

/-- A threshold that may be off. -/
def threshold (unit : String) : Option Nat → String
  | some n => String.ofList (Decimal.digits n) ++ " " ++ unit
  | none => "off"

/-- What a configuration sets up, in lines. -/
def summary (c : Config) : List String :=
  [ "  Stream: " ++ c.stream.uri ++ " (" ++ c.stream.title ++ ")",
    "  Rollover: elapsed " ++ threshold "s" c.rollover.elapsedSeconds ++ " / size " ++
      threshold "MB" c.rollover.megabytes ++ " / check every " ++
      String.ofList (Decimal.digits c.rollover.checkIntervalMillis) ++ " ms",
    "  Segments: " ++ c.output.segmentDirectory,
    "  Records: " ++ c.store.recordDirectory ] ++
  (if c.warnings.isEmpty then [] else "Warnings:" :: c.warnings.map ("  - " ++ ·))

/-- Lines as they are printed. -/
def unlines (lines : List String) : String := String.join (lines.map (· ++ "\n"))

/-- Reduce a geometry to envelopes, and drop vertices if there is a tolerance. -/
def simplify (text : String) (tolerance : Option Float) : Outcome :=
  match Wkt.parse text with
  | .error e => .failed "" ("Error: " ++ e.message ++ "\n")
  | .ok g =>
    let g := Footprint.toEnvelopes g
    match tolerance with
    | none => .finished (unlines [Wkt.render g])
    | some t =>
      if Config.isTolerance t then
        match (Footprint.Operator.simplify t).apply g with
        | .ok g => .finished (unlines [Wkt.render g])
        | .error _ => .broken
      else
        .failed "" ("Error: Tolerance must be a non-negative number, got " ++
          Decimal.plain t ++ "\n")

/-- Where a configuration is looked for if no file is given. -/
def usualPlaces : List String := ["./vidcat.toml", "./config.toml"]

section

variable {m : Type → Type} [Monad m]

/-- The configuration in a file, if it can be used. -/
def load (machine : Machine m) (path : String) : m (Except Error Config) := do
  return (Config.load path (← machine.readFile path)).mapError Config.Fault.error

/-- Check a configuration and tell what it sets up. -/
def validate (machine : Machine m) : Option String → m Outcome
  | none => do
    let opening := "No config file specified, using defaults"
    return .finished (unlines (opening :: summary {}))
  | some path => do
    let opening := "Validating config: " ++ path
    match ← load machine path with
    | .error e => return .failed (unlines [opening]) (failure ("validating " ++ path) e)
    | .ok c => return .finished (unlines (opening :: "✓ Configuration is valid" :: summary c))

/-- The configuration in the first of several files that is there, or the default. -/
def loadFirst (machine : Machine m) : List String → m (Except Error Config)
  | [] => return .ok {}
  | path :: paths => do
    if ← machine.isThere path then load machine path else loadFirst machine paths

/-- Start a stream. -/
def start (machine : Machine m) (config uri title : Option String) : m Outcome := do
  let loaded ← match config with
    | some path => load machine path
    | none => loadFirst machine usualPlaces
  match loaded with
  | .error e => return .failed "" (failure "loading configuration" e)
  | .ok c =>
    let c := { c with stream :=
      { c.stream with uri := uri.getD c.stream.uri, title := title.getD c.stream.title } }
    match ← Monitor.prepare machine.toHost c with
    | .error e => return .failed "" (failure ("starting stream " ++ c.stream.uri) e)
    | .ok _ => return .receiving

/-- Do what a command line asks for. -/
def run (machine : Machine m) (arguments : List String) : m Outcome :=
  match Request.read? arguments with
  | none => return .misused
  | some (.start config uri title) => start machine config uri title
  | some (.simplify text tolerance) => return simplify text tolerance
  | some (.validate config) => validate machine config
  | some .version => return .finished (unlines [version])

end

end Command
end StreamCatalog
