import SqlFilter.Host.Basic
import SqlFilter.Text.Alphanumeric
/-! Files that set environment variables: a name, a sign of equality and a value a line. A value may
be quoted, may go on over several lines within quotes, and may refer to other variables. -/
namespace SqlFilter.EnvironmentFile

/-- A piece of a value. -/
inductive Piece
  | char (c : Char)
  | variable (name : List Char)
deriving DecidableEq, Repr

/-- What a line sets. -/
structure Assignment where
  name : String
  value : List Piece
deriving DecidableEq, Repr

/-! ### Lines -/

/-- Where a line stands that may go on. -/
inductive LineState
  | complete
  | blank
  | escape
  | strong
  | strongEscape
  | weak
  | weakEscape
deriving DecidableEq, Repr

/-- The state after a character; a comment, which only a blank opens, has none. -/
def LineState.next? (state : LineState) (c : Char) : Option LineState :=
  let plain : LineState :=
    if c = '\\' then .escape else if c = '"' then .weak else if c = '\'' then .strong else .complete
  match state with
  | .blank => if c = '#' then none else some plain
  | .complete =>
    some (if Text.isBlank c && c != '\n' && c != '\r' then .blank else plain)
  | .escape => some .complete
  | .weak => some (if c = '\\' then .weakEscape else if c = '"' then .complete else .weak)
  | .weakEscape => some .weak
  | .strong => some (if c = '\\' then .strongEscape else if c = '\'' then .complete else .strong)
  | .strongEscape => some .strong

/-- The text up to a comment if there is one, or else the state at the end of the text. -/
def scanLine (state : LineState) : List Char → List Char × Option LineState
  | [] => ([], some state)
  | c :: cs =>
    match state.next? c with
    | none => ([], none)
    | some state =>
      let (kept, final) := scanLine state cs
      (c :: kept, final)

/-- A text in pieces that end with a line feed, but for the last one. -/
def physicalLines : List Char → List (List Char)
  | [] => []
  | c :: cs =>
    if c = '\n' then [c] :: physicalLines cs
    else match physicalLines cs with
      | [] => [[c]]
      | l :: ls => (c :: l) :: ls

/-- A line without its end. -/
def withoutLineEnd (line : List Char) : List Char :=
  match line.reverse with
  | '\n' :: '\r' :: rest | '\n' :: rest => rest.reverse
  | _ => line

/-- The lines that assignments stand on, from what has been read of one so far; none at the end for
one that is not complete. -/
def logicalLines (sofar : List Char) (state : LineState) : List (List Char) → List (Option (List Char))
  | [] => if state = .complete then [] else [none]
  | line :: rest =>
    let all := sofar ++ line
    if (all.dropWhile Text.isBlank).head? = some '#' then
      some [] :: logicalLines [] .complete rest
    else
      match scanLine state line with
      | (kept, none) => some (sofar ++ kept) :: logicalLines [] .complete rest
      | (_, some .complete) => some (withoutLineEnd all) :: logicalLines [] .complete rest
      | (_, some state) => logicalLines all state rest

/-! ### Values -/

/-- Where the reading of a value stands. -/
inductive ValueState
  | plain
  | weak
  | strong
  | escaped (quoted : Bool)
  | reference (quoted : Bool) (name : List Char)
  | braced (quoted : Bool) (name : List Char)
  | ended
deriving DecidableEq, Repr

def ValueState.resume (quoted : Bool) : ValueState :=
  if quoted then .weak else .plain

/-- The character of an escape. -/
def escape? (c : Char) : Option Char :=
  if c = 'n' then some '\n'
  else if c = '\\' ∨ c = '\'' ∨ c = '"' ∨ c = '$' ∨ c = ' ' then some c
  else none

/-- Takes one more character of a value: what it adds, and the next state. A reference that ends adds
the variable, and the character that ends it. -/
def ValueState.step (state : ValueState) (c : Char) : Option (List Piece × ValueState) :=
  match state with
  | .ended => if c = ' ' ∨ c = '\t' then some ([], .ended) else none
  | .escaped quoted => (escape? c).map fun c => ([.char c], .resume quoted)
  | .strong => some (if c = '\'' then ([], .plain) else ([.char c], .strong))
  | .reference quoted name =>
    if Text.isAlphanumeric c then some ([], .reference quoted (name ++ [c]))
    else if c = '\x7b' ∧ name = [] then some ([], .braced quoted [])
    else if c = '$' then some ([.variable name], .reference quoted [])
    else some ([.variable name, .char c], .resume quoted)
  | .braced quoted name =>
    some (if c = '\x7d' then ([.variable name], .resume quoted) else ([], .braced quoted (name ++ [c])))
  | .weak =>
    some (if c = '$' then ([], .reference true [])
      else if c = '"' then ([], .plain)
      else if c = '\\' then ([], .escaped true)
      else ([.char c], .weak))
  | .plain =>
    some (if c = '$' then ([], .reference false [])
      else if c = '\'' then ([], .strong)
      else if c = '"' then ([], .weak)
      else if c = '\\' then ([], .escaped false)
      else if c = ' ' ∨ c = '\t' then ([], .ended)
      else ([.char c], .plain))

/-- What the end of a value adds. Open quotes and braces have none. -/
def ValueState.finish? : ValueState → Option (List Piece)
  | .plain | .ended | .escaped false => some []
  | .reference false name => some [.variable name]
  | _ => none

/-- Reads a value up to its end, or to a comment after it. -/
def readValue (state : ValueState) : List Char → Option (List Piece)
  | [] => state.finish?
  | c :: cs =>
    if state = .ended ∧ c = '#' then some []
    else match state.step c with
      | none => none
      | some (added, state) => (readValue state cs).map (added ++ ·)

/-! ### Assignments -/

def isNameChar (c : Char) : Bool :=
  isIdentifierChar c || c == '.'

/-- A name in front, and what follows it and the blanks after it. -/
def readName (cs : List Char) : Option (List Char × List Char) :=
  match cs with
  | [] => none
  | c :: _ =>
    if isIdentifierStart c then
      some (cs.takeWhile isNameChar, (cs.dropWhile isNameChar).dropWhile Text.isBlank)
    else none

/-- What follows a sign of equality. -/
def readEqual : List Char → Option (List Char)
  | '=' :: rest => some rest
  | _ => none

/-- Reads a name and the sign of equality after it. The word `export` may stand before the name, and
can be a name itself. -/
def readTarget (cs : List Char) : Option (List Char × List Char) := do
  let (name, rest) ← readName cs
  if name = "export".toList then
    match readEqual rest with
    | some value => return (name, value)
    | none =>
      let (name, rest) ← readName rest
      return (name, ← readEqual rest)
  else return (name, ← readEqual rest)

/-- Reads a line: nothing if it is empty or a comment. An error stands for a line that is neither. -/
def readLine (line : List Char) : Except Unit (Option Assignment) :=
  let text := ((line.reverse.dropWhile Text.isBlank).reverse).dropWhile Text.isBlank
  if text.isEmpty || text.head? == some '#' then .ok none
  else match readTarget text with
    | none => .error ()
    | some (name, rest) =>
      let rest := rest.dropWhile Text.isBlank
      if rest.isEmpty || rest.head? == some '#' then .ok (some ⟨String.ofList name, []⟩)
      else match readValue .plain rest with
        | none => .error ()
        | some value => .ok (some ⟨String.ofList name, value⟩)

/-- The assignments of some lines, up to the first line that cannot be read. -/
def assignmentsOf : List (Option (List Char)) → List Assignment
  | [] | none :: _ => []
  | some line :: rest =>
    match readLine line with
    | .error () => []
    | .ok none => assignmentsOf rest
    | .ok (some a) => a :: assignmentsOf rest

/-- The assignments of a text. A byte order mark in front does not count. -/
def assignments (text : String) : List Assignment :=
  let cs := match text.toList with
    | '\ufeff' :: cs => cs
    | cs => cs
  assignmentsOf (logicalLines [] .complete (physicalLines cs))

/-- The text of a value. A variable without one adds nothing. -/
def resolve {m : Type → Type} [Monad m] (environment : String → m (Option String)) :
    List Piece → m (List Char)
  | [] => return []
  | .char c :: rest => return c :: (← resolve environment rest)
  | .variable name :: rest => do
    let value ← environment (String.ofList name)
    return (value.getD "").toList ++ (← resolve environment rest)

/-- The variables that assignments set, each seeing those before it. A variable that has a value
keeps it. -/
def values {m : Type → Type} [Monad m] (environment : String → m (Option String))
    (sofar : List (String × String)) : List Assignment → m (List (String × String))
  | [] => return sofar
  | a :: rest => do
    let known := fun name => do
      match ← environment name with
      | some value => return some value
      | none => return sofar.lookup name
    let text ← resolve known a.value
    values environment (sofar ++ [(a.name, String.ofList text)]) rest

/-- The lines of some bytes before the first that is no UTF-8. -/
def readableLines (bytes : ByteArray) : String :=
  let rec go (line : List UInt8) : List UInt8 → List String
    | [] => (String.fromUTF8? ⟨line.reverse.toArray⟩).toList
    | b :: bs =>
      if b = 10 then
        match String.fromUTF8? ⟨(b :: line).reverse.toArray⟩ with
        | some s => s :: go [] bs
        | none => []
      else go (b :: line) bs
  String.join (go [] bytes.data.toList)

/-- The nearest file `.env` in the working directory or above it. A directory of that name is passed
over; any other fault ends the search. -/
def find? {m : Type → Type} [Monad m] (readFile : String → m (Except ReadFault ByteArray)) :
    List String → m (Option ByteArray)
  | [] => return none
  | directory :: above => do
    match ← readFile (Path.join directory ".env") with
    | .ok bytes => return some bytes
    | .error .missing | .error .directory => find? readFile above
    | .error _ => return none

end SqlFilter.EnvironmentFile

namespace SqlFilter.Host

/-- The host with the variables that its file of variables sets. -/
def withEnvironmentFile {m : Type → Type} [Monad m] (host : Host m) : m (Host m) := do
  match ← EnvironmentFile.find? host.readFile (Path.ancestors host.workingDirectory) with
  | none => return host
  | some bytes =>
    let assigned ← EnvironmentFile.values host.environment []
      (EnvironmentFile.assignments (EnvironmentFile.readableLines bytes))
    return host.withVariables assigned

end SqlFilter.Host
