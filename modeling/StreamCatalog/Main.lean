import StreamCatalog.Command.Run

/-!
# The program

Gives the commands the machine that the program runs on.  Datagrams cannot be received
by this program itself, so a stream is prepared and then refused.
-/

namespace StreamCatalog

/-- The text of a failure of the file system. -/
def reasonOf : IO.Error → String
  | .noFileOrDirectory _ _ _ => Directory.Fault.missing.text
  | .alreadyExists _ _ _ => Directory.Fault.taken.text
  | .inappropriateType _ 21 _ => Directory.Fault.isFolder.text
  | .inappropriateType _ _ _ => Directory.Fault.noFolder.text
  | e => toString e

/-- The machine that the program runs on. -/
def machine : Command.Machine IO where
  makeFolder path := do
    try
      if !path.isEmpty then IO.FS.createDirAll path
      return .ok ()
    catch e => return .error (reasonOf e)
  listen _ := return .error "Operation not supported (os error 95)"
  readFile path := do
    try return .ok (← IO.FS.readFile path)
    catch e => return .error (reasonOf e)
  isThere path := do
    try
      let _ ← IO.FS.Handle.mk path .read
      return true
    catch
      | .noFileOrDirectory _ _ _ => return false
      | _ => return true

end StreamCatalog

/-- Runs the command that the arguments name. -/
def main (arguments : List String) : IO UInt32 := do
  let outcome ← StreamCatalog.Command.run StreamCatalog.machine arguments
  match outcome with
  | .finished output => IO.print output
  | .failed output error => do
    IO.print output
    IO.eprint error
  | .misused => IO.eprintln "Usage: vidcat [OPTIONS] <start|simplify|validate|version>"
  | .broken | .receiving => pure ()
  return outcome.code.toUInt32
