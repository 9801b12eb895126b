import StreamCatalog.Decimal.Reader

/-!
# Command lines

A command line names a command, with options before and after it.  The options that
choose a configuration file and make the program talk more belong to every command
and may stand on either side; the others come after the command they belong to.

An option with a value takes it from behind an equals sign or from the next argument,
which then must not look like an option; a short one may also have it attached.  An
option may stand once on each side of the command, and the one behind it wins.  After
two dashes everything is taken as it is.

Checking a configuration takes its file as an operand, and no option for it behind the
command.
-/

namespace StreamCatalog
namespace Command

/-- The options of all commands. -/
inductive Switch where
  | config
  | verbose
  | uri
  | title
  | tolerance
  deriving DecidableEq, Repr

/-- An option, written out. -/
def Switch.long : Switch → String
  | .config => "config"
  | .verbose => "verbose"
  | .uri => "uri"
  | .title => "title"
  | .tolerance => "tolerance"

/-- The letter of an option that has one. -/
def Switch.short? : Switch → Option Char
  | .config => some 'c'
  | .verbose => some 'v'
  | _ => none

/-- Does an option have a value? -/
def Switch.hasValue : Switch → Bool
  | .verbose => false
  | _ => true

/-- Can an option have this value? -/
def Switch.accepts : Switch → String → Bool
  | .config, value => !value.isEmpty
  | .tolerance, value => (Decimal.read? value.toList).isSome
  | _, _ => true

/-- The commands. -/
inductive Verb where
  | start
  | simplify
  | validate
  | version
  deriving DecidableEq, Repr

/-- The command of a name. -/
def Verb.ofName? (name : String) : Option Verb :=
  match name with
  | "start" => some .start
  | "simplify" => some .simplify
  | "validate" => some .validate
  | "version" => some .version
  | _ => none

/-- The options that may stand behind a command. -/
def Verb.switches : Verb → List Switch
  | .start => [.config, .verbose, .uri, .title]
  | .simplify => [.config, .verbose, .tolerance]
  | .validate => [.verbose]
  | .version => [.config, .verbose]

/-- Can a command have this operand? -/
def Verb.accepts : Verb → String → Bool
  | .simplify, _ => true
  | .validate, operand => !operand.isEmpty
  | _, _ => false

/-- What stands on one side of a command. -/
structure Given where
  values : List (Switch × String) := []
  operand : Option String := none

namespace Given

/-- The value of an option. -/
def value? (g : Given) (o : Switch) : Option String := g.values.lookup o

/-- Add an option, unless it is there or cannot have the value. -/
def add? (g : Given) (o : Switch) (value : String) : Option Given :=
  if (g.value? o).isSome || !o.accepts value then none
  else some { g with values := (o, value) :: g.values }

/-- Add an operand, unless there is one. -/
def addOperand? (g : Given) (operand : String) : Option Given :=
  match g.operand with
  | none => some { g with operand := some operand }
  | some _ => none

end Given

/-- What an argument is, before it is known whether there is such an option. -/
inductive Shape where
  /-- Two dashes: no options from here on. -/
  | terminator
  /-- The name of an option, perhaps with a value. -/
  | long (name : List Char) (value : Option (List Char))
  /-- Letters of options, the last of them perhaps with a value. -/
  | short (letters : List Char)
  | plain

/-- What an argument is. -/
def Shape.of : List Char → Shape
  | ['-', '-'] => .terminator
  | '-' :: '-' :: cs =>
    match cs.dropWhile (· ≠ '=') with
    | _ :: value => .long (cs.takeWhile (· ≠ '=')) (some value)
    | [] => .long cs none
  | '-' :: c :: cs => .short (c :: cs)
  | _ => .plain

/-- Add an option by its name.  The option itself is left over if its value is still to
come. -/
def addLong (allowed : List Switch) (g : Given) (name : List Char) (value : Option (List Char)) :
    Option (Given × Option Switch) := do
  let o ← allowed.find? fun o => o.long.toList = name
  match value, o.hasValue with
  | some v, true => return (← g.add? o (String.ofList v), none)
  | none, true => return (g, some o)
  | none, false => return (← g.add? o "", none)
  | some _, false => none

/-- Add options by their letters. -/
def addShort (allowed : List Switch) (g : Given) : List Char → Option (Given × Option Switch)
  | [] => some (g, none)
  | c :: cs => do
    let o ← allowed.find? fun o => o.short? = some c
    if o.hasValue then
      match cs with
      | [] => return (g, some o)
      | '=' :: value => return (← g.add? o (String.ofList value), none)
      | value => return (← g.add? o (String.ofList value), none)
    else (← g.add? o "") |> fun g => addShort allowed g cs

/-- The options in front of a command, the command, and the arguments behind it. -/
def readFront (g : Given) (pending : Option Switch) :
    List String → Option (Given × Verb × List String)
  | [] => none
  | a :: as =>
    match pending, Shape.of a.toList with
    | some o, .plain => do readFront (← g.add? o a) none as
    | some _, _ => none
    | none, .plain => (Verb.ofName? a).map fun v => (g, v, as)
    | none, .long name value => do
      let (g, pending) ← addLong [.config, .verbose] g name value
      readFront g pending as
    | none, .short letters => do
      let (g, pending) ← addShort [.config, .verbose] g letters
      readFront g pending as
    | none, .terminator => none

/-- The options and operands behind a command. -/
def readBack (v : Verb) (g : Given) (pending : Option Switch) : List String → Option Given
  | [] => if pending.isNone then some g else none
  | a :: as =>
    match pending, Shape.of a.toList with
    | some o, .plain => do readBack v (← g.add? o a) none as
    | some _, _ => none
    | none, .plain => do
      if v.accepts a then readBack v (← g.addOperand? a) none as else none
    | none, .long name value => do
      let (g, pending) ← addLong v.switches g name value
      readBack v g pending as
    | none, .short letters => do
      let (g, pending) ← addShort v.switches g letters
      readBack v g pending as
    | none, .terminator => if as.all v.accepts then as.foldlM Given.addOperand? g else none

/-- What the program is asked to do. -/
inductive Request where
  /-- Start a stream, perhaps with another address or title than configured. -/
  | start (config uri title : Option String)
  /-- Reduce a geometry, perhaps with a tolerance. -/
  | simplify (text : String) (tolerance : Option Float)
  /-- Check a configuration. -/
  | validate (config : Option String)
  /-- Tell the version. -/
  | version

/-- The request of a command with what stands in front of it and behind it. -/
def Request.of? (v : Verb) (front back : Given) : Option Request :=
  let config := back.value? .config <|> front.value? .config
  match v with
  | .start => some (.start config (back.value? .uri) (back.value? .title))
  | .simplify => back.operand.map fun text =>
    .simplify text ((back.value? .tolerance).bind fun t => Decimal.read? t.toList)
  | .validate => some (.validate (back.operand <|> config))
  | .version => some .version

/-- The request that a command line makes; none for a line that makes no sense. -/
def Request.read? (arguments : List String) : Option Request := do
  let (front, v, rest) ← readFront {} none arguments
  Request.of? v front (← readBack v {} none rest)

end Command
end StreamCatalog
