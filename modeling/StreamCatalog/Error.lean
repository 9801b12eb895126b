/-!
# Errors

Every failure that a caller sees is one of seven kinds.  A kind fixes how the
message begins and whether it is worth trying again: failures of the file system,
of the record store and of a rollover step may pass, a rejected argument or a
wrong configuration will not.

The modules that detect failures have causes of their own (`Wkt.Fault`,
`Config.Fault`, `Directory.Fault`) and turn them into an `Error` where they leave
the module.
-/

namespace StreamCatalog

/-- A failure, by kind. -/
inductive Error where
  /-- Data given by the caller was rejected. -/
  | invalidArgument (text : String)
  /-- An entity was looked up and is not there. -/
  | notFound (entity id : String)
  /-- The file system refused. -/
  | io (text : String)
  /-- The record store rejected or failed a write; `source` says why. -/
  | store (source : String)
  /-- The configuration cannot be read or used. -/
  | config (text : String)
  /-- A lifecycle hook reported a failure. -/
  | plugin (hook message : String)
  /-- A step of a rollover failed. -/
  | rollover (step message : String)
  deriving DecidableEq, Repr, Inhabited

namespace Error

/-- The text of an error. -/
def message : Error → String
  | .invalidArgument text => "Invalid argument: " ++ text
  | .notFound entity id => entity ++ " not found: " ++ id
  | .io text => "IO error: " ++ text
  | .store source => "Record store error: " ++ source
  | .config text => "Config error: " ++ text
  | .plugin hook message => "Plugin error [" ++ hook ++ "]: " ++ message
  | .rollover step message => "Rollover error [" ++ step ++ "]: " ++ message

/-- May the same operation succeed later? -/
def isRetryable : Error → Bool
  | .io _ | .store _ | .rollover _ _ => true
  | _ => false

/-- A failure of the record store, whatever kind of error the store reported.
One that already is a store error stays as it is. -/
def asStore : Error → Error
  | .store source => .store source
  | e => .store e.message

@[simp] theorem isRetryable_asStore (e : Error) : e.asStore.isRetryable = true := by
  cases e <;> rfl

end Error

/-- What ends a call without an answer.  Both come from input that a stage accepts and a
later stage cannot order or print.

A breakdown is not an `Error`, which is handed to the caller, and it takes down nothing but
the call: what the call worked on is still there afterwards, as far as the call had come, and
can be used again.  That state is not described here, and so a run ends where a call breaks
down. -/
inductive Breakdown where
  /-- Two triangle areas were to be compared and one of them is not a number. -/
  | unorderedAreas
  /-- A date format that reads well but cannot be printed. -/
  | unprintableDate
  deriving DecidableEq, Repr

end StreamCatalog
