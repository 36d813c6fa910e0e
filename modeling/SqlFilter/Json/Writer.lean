import SqlFilter.Decimal.Style
import SqlFilter.Json.Tree
import SqlFilter.Text.Basic
/-! Writing JSON text, on one line or indented. Characters outside ASCII are written as they are. -/
namespace SqlFilter.Json

/-- A character as it stands inside a string. -/
def escapeChar (c : Char) : List Char :=
  if c == '"' then ['\\', '"']
  else if c == '\\' then ['\\', '\\']
  else if c == '\n' then ['\\', 'n']
  else if c == '\r' then ['\\', 'r']
  else if c == '\t' then ['\\', 't']
  else if c == '\x08' then ['\\', 'b']
  else if c == '\x0c' then ['\\', 'f']
  else if c.toNat < 0x20 then
    ['\\', 'u', '0', '0', Text.hexChar (c.toNat / 16), Text.hexChar (c.toNat % 16)]
  else [c]

/-- A text in quotes. -/
def quoted (s : String) : String :=
  String.ofList ('"' :: s.toList.flatMap escapeChar ++ ['"'])

/-- How lists and objects are spread: what opens a line at a given nesting, what separates items
and what follows the colon. -/
structure Spread where
  line : Nat → String
  colon : String

/-- Everything on one line, without blanks. -/
def Spread.oneLine : Spread := ⟨fun _ => "", ":"⟩

/-- One item a line, two spaces for each nesting. -/
def Spread.indented : Spread :=
  ⟨fun depth => String.ofList ('\n' :: List.replicate (2 * depth) ' '), ": "⟩

mutual

def writeAt (spread : Spread) (depth : Nat) : Json → String
  | .null => "null"
  | .bool b => if b then "true" else "false"
  | .int n => toString n
  | .float x => Decimal.jsonStyle.text x
  | .text s => quoted s
  | .list [] => "[]"
  | .list (x :: xs) =>
    "[" ++ spread.line (depth + 1) ++ writeAt spread (depth + 1) x ++
      writeItems spread (depth + 1) xs ++ spread.line depth ++ "]"
  | .object [] => "\x7b\x7d"
  | .object ((k, x) :: ms) =>
    "\x7b" ++ spread.line (depth + 1) ++ quoted k ++ spread.colon ++ writeAt spread (depth + 1) x ++
      writeMembers spread (depth + 1) ms ++ spread.line depth ++ "\x7d"

/-- The items after the first, each after a comma. -/
def writeItems (spread : Spread) (depth : Nat) : List Json → String
  | [] => ""
  | x :: xs =>
    "," ++ spread.line depth ++ writeAt spread depth x ++ writeItems spread depth xs

/-- The members after the first, each after a comma. -/
def writeMembers (spread : Spread) (depth : Nat) : List (String × Json) → String
  | [] => ""
  | (k, x) :: ms =>
    "," ++ spread.line depth ++ quoted k ++ spread.colon ++ writeAt spread depth x ++
      writeMembers spread depth ms

end

/-- The text of a document on one line. -/
def compact (j : Json) : String :=
  writeAt .oneLine 0 j

/-- The text of a document, indented. -/
def indented (j : Json) : String :=
  writeAt .indented 0 j

end SqlFilter.Json
