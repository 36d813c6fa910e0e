import SqlFilter.Host.Path
/-! What the program needs of the machine it runs on. -/
namespace SqlFilter

/-- Why a text cannot be read. -/
inductive ReadFault
  | missing
  | directory
  /-- A file stands where the path needs a directory. -/
  | notADirectory
  | nameTooLong
  /-- The bytes are no UTF-8. -/
  | notText
  | denied (reason : String)
deriving DecidableEq, Repr

namespace ReadFault

def message : ReadFault → String
  | .missing => "No such file or directory (os error 2)"
  | .directory => "Is a directory (os error 21)"
  | .notADirectory => "Not a directory (os error 20)"
  | .nameTooLong => "File name too long (os error 36)"
  | .notText => "stream did not contain valid UTF-8"
  | .denied reason => reason

/-- Whether there is nothing at the path at all. -/
def isAbsent : ReadFault → Bool
  | .missing | .notADirectory | .nameTooLong => true
  | _ => false

end ReadFault

/-- Files, environment and standard input, as actions of some monad. -/
structure Host (m : Type → Type) where
  home : Option String
  workingDirectory : String
  environment : String → m (Option String)
  readFile : String → m (Except ReadFault ByteArray)
  readStandardInput : m ByteArray

/-- The text of some bytes. -/
def decodeText (bytes : ByteArray) : Except ReadFault String :=
  match String.fromUTF8? bytes with
  | some s => .ok s
  | none => .error .notText

namespace Host
variable {m : Type → Type}

def expandPath (host : Host m) (path : String) : String :=
  Path.expand host.home host.workingDirectory path

variable [Monad m]

def readText (host : Host m) (path : String) : m (Except ReadFault String) := do
  return (← host.readFile path).bind decodeText

/-- The host with some variables set that were not set before. -/
def withVariables (host : Host m) (assigned : List (String × String)) : Host m :=
  { host with environment := fun name => do
      match ← host.environment name with
      | some value => return some value
      | none => return assigned.lookup name }

end Host
end SqlFilter
