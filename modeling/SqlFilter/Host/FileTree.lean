import SqlFilter.Host.Basic
/-! A host whose files are held in memory. -/
namespace SqlFilter

/-- Files and directories by their segments from the root. Every directory above one of them is
there too. -/
structure FileTree where
  files : List (List String × ByteArray)
  directories : List (List String)

namespace FileTree

/-- What a place holds. -/
inductive Node
  | file (content : ByteArray)
  | directory

def node? (t : FileTree) (place : List String) : Option Node :=
  match t.files.lookup place with
  | some content => some (.file content)
  | none =>
    if place.isEmpty || t.directories.any (place.isPrefixOf ·) ||
        t.files.any (place.isPrefixOf ·.1) then
      some .directory
    else none

/-- The bytes that one segment of a path may have. -/
def maxStep : Nat := 255

/-- The bytes that a path may have. -/
def maxPath : Nat := 4095

/-- What a walk from a place arrives at. Each step, also one that stays, starts in a directory. -/
def walk (t : FileTree) (place : List String) : List String → Except ReadFault ByteArray
  | [] =>
    match t.node? place with
    | some (.file content) => .ok content
    | some .directory => .error .directory
    | none => .error .missing
  | step :: rest =>
    match t.node? place with
    | none => .error .missing
    | some (.file _) => .error .notADirectory
    | some .directory =>
      if maxStep < step.utf8ByteSize then .error .nameTooLong
      else if step == "" || step == "." then t.walk place rest
      else if step == ".." then t.walk place.dropLast rest
      else t.walk (place ++ [step]) rest

/-- Reads the file of a path that is taken from a directory. -/
def read (t : FileTree) (directory path : String) : Except ReadFault ByteArray :=
  if maxPath < path.utf8ByteSize then .error .nameTooLong
  else t.walk [] (Path.segments (Path.join directory path))

/-- The host of a tree. -/
def host (t : FileTree) (home workingDirectory : String) (environment : List (String × String))
    (standardInput : ByteArray) : Host Id where
  home := some home
  workingDirectory := workingDirectory
  environment := fun name => environment.lookup name
  readFile := fun path => t.read workingDirectory path
  readStandardInput := standardInput

end FileTree
end SqlFilter
