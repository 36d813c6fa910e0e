import SqlFilter.Identifier
import SqlFilter.Text.Basic
/-! File paths as texts: segments with slashes between them. -/
namespace SqlFilter.Path

def isAbsolute (path : String) : Bool :=
  path.toList.head? == some '/'

/-- A path taken from a directory. An absolute one stays as it is. -/
def join (directory path : String) : String :=
  if isAbsolute path then path
  else if directory.toList.getLast? == some '/' then directory ++ path
  else directory ++ "/" ++ path

/-- The path that a user means: blanks around it do not count, `~` is the home directory, and a
relative path starts at the working directory. Without a home directory `~` is a name like any. -/
def expand (home : Option String) (workingDirectory path : String) : String :=
  let path := Text.trim path
  let path := match path.toList, home with
    | ['~'], some home => home
    | '~' :: '/' :: rest, some home => join home (String.ofList rest)
    | _, _ => path
  join workingDirectory path

/-- The segments of a path. -/
def segments (path : String) : List String :=
  (pieces '/' path.toList).map String.ofList

/-- A directory and all those above it, innermost first. -/
def ancestors (directory : String) : List String :=
  let names := (segments directory).filter (· ≠ "")
  (List.range (names.length + 1)).map fun n =>
    "/" ++ "/".intercalate (names.take (names.length - n))

end SqlFilter.Path
