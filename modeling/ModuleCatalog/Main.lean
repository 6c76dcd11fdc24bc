import ModuleCatalog.Command.Run

/-! # Entry point

    All decisions are in `Command`; here files are read and texts printed. -/

namespace ModuleCatalog.Command

/-- The text of a file, or the reason why it cannot be read as one. -/
def readText (path : String) : IO (Except String String) := do
  try
    match String.fromUTF8? (← IO.FS.readBinFile path) with
    | some text => return .ok text
    | none => return .error "stream did not contain valid UTF-8"
  catch reason =>
    return .error reason.toString

/-- Faults under the names that they have in this library. -/
def plainWording : Wording where
  xml fault _ := reprStr fault
  json fault _ := reprStr fault

end ModuleCatalog.Command

open ModuleCatalog in
/-- Run the command on the files of the system. -/
def main (arguments : List String) : IO UInt32 := do
  let request := Command.Request.ofArguments arguments
  let texts ← request.paths.mapM fun path => do
    return (path, ← Command.readText path)
  -- only files that were read are looked at
  let files : Files := fun path => (texts.lookup path).getD (.error "not read")
  let outcome := request.answer Command.name Command.plainWording files
  IO.print outcome.output
  IO.eprint outcome.report
  return outcome.status.toUInt32
