import SqlFilter.Outcome
/-! The program on the machine itself. -/
namespace SqlFilter

/-- The fault behind an error. Some errors carry their number negated. -/
def readFault : IO.Error → ReadFault
  | .noFileOrDirectory _ _ _ => .missing
  | e@(.inappropriateType _ number _) =>
    if number = 20 ∨ number = -20 then .notADirectory
    else if number = 21 ∨ number = -21 then .directory
    else .denied (toString e)
  | e@(.invalidArgument _ number _) =>
    if number = 36 ∨ number = -36 then .nameTooLong else .denied (toString e)
  | e => .denied (toString e)

def readMachineFile (path : String) : IO (Except ReadFault ByteArray) := do
  match ← (IO.FS.readBinFile path).toBaseIO with
  | .ok bytes => return .ok bytes
  | .error e => return .error (readFault e)

/-- The rest of a stream. -/
partial def readRest (stream : IO.FS.Stream) (sofar : ByteArray) : IO ByteArray := do
  let bytes ← stream.read 65536
  if bytes.isEmpty then return sofar else readRest stream (sofar ++ bytes)

/-- The machine as a host. -/
def machine : IO (Host IO) := do
  return {
    home := (← IO.getEnv "HOME").filter (· ≠ "")
    workingDirectory := (← IO.currentDir).toString
    environment := fun name => IO.getEnv name
    readFile := readMachineFile
    readStandardInput := do readRest (← IO.getStdin) .empty }

end SqlFilter

open SqlFilter in
def main (arguments : List String) : IO UInt32 := do
  let outcome ← (← machine).run arguments
  IO.print outcome.output
  IO.eprint outcome.complaint
  return outcome.exitCode
