import SqlFilter.Decimal.Numeral
import SqlFilter.Json.Written
import SqlFilter.Text.Basic
/-! Reading JSON text. A document may be surrounded by blanks, and nothing else. What it stands for is
another matter: then escapes must pair their surrogates, numbers must be finite, and lists and objects
nest up to a given depth. -/
namespace SqlFilter.Json

/-- Space, tab, line feed and carriage return. -/
def isBlank (c : Char) : Bool :=
  c == ' ' || c == '\t' || c == '\n' || c == '\r'

def skipBlank (cs : List Char) : List Char :=
  cs.dropWhile isBlank

/-- The value of four hexadecimal digits. -/
def hexQuad? (a b c d : Char) : Option Nat := do
  let a ← Text.hexDigit? a
  let b ← Text.hexDigit? b
  let c ← Text.hexDigit? c
  let d ← Text.hexDigit? d
  return ((a * 16 + b) * 16 + c) * 16 + d

/-- The character of a one-letter escape. -/
def plainEscape? : Char → Option Char
  | '"' => some '"'
  | '\\' => some '\\'
  | '/' => some '/'
  | 'b' => some '\x08'
  | 'f' => some '\x0c'
  | 'n' => some '\n'
  | 'r' => some '\r'
  | 't' => some '\t'
  | _ => none

def isHighSurrogate (n : Nat) : Bool := 0xD800 ≤ n ∧ n < 0xDC00
def isLowSurrogate (n : Nat) : Bool := 0xDC00 ≤ n ∧ n < 0xE000

/-- The character that a high and a low surrogate stand for. -/
def surrogatePair (high low : Nat) : Char :=
  Char.ofNat (0x10000 + (high - 0xD800) * 0x400 + (low - 0xDC00))

/-- Puts an item before the list that a reader returned. -/
def prepend {α : Type} (x : α) (r : Option (List α × List Char)) : Option (List α × List Char) :=
  r.map fun p => (x :: p.1, p.2)

/-- A piece of a string: a character, or the sixteen-bit unit of a numbered escape. -/
inductive Piece
  | char (c : Char)
  | unit (n : Nat)
deriving DecidableEq, Repr

/-- Reads the rest of a string whose opening quote has been read. -/
def readPieces : List Char → Option (List Piece × List Char)
  | [] => none
  | '"' :: rest => some ([], rest)
  | '\\' :: 'u' :: a :: b :: c :: d :: rest =>
    match hexQuad? a b c d with
    | none => none
    | some n => prepend (.unit n) (readPieces rest)
  | '\\' :: c :: rest =>
    match plainEscape? c with
    | none => none
    | some c => prepend (.char c) (readPieces rest)
  | c :: rest =>
    if c == '\\' || c.toNat < 0x20 then none else prepend (.char c) (readPieces rest)

/-- The characters that pieces stand for. Each high surrogate needs a low one right after it, and
there are no other low ones. -/
def piecesText? : List Piece → Option (List Char)
  | [] => some []
  | .char c :: rest => (piecesText? rest).map (c :: ·)
  | .unit n :: .unit m :: rest =>
    if isHighSurrogate n && isLowSurrogate m then
      (piecesText? rest).map (surrogatePair n m :: ·)
    else if isHighSurrogate n || isLowSurrogate n then none
    else (piecesText? (.unit m :: rest)).map (Char.ofNat n :: ·)
  | .unit n :: rest =>
    if isHighSurrogate n || isLowSurrogate n then none
    else (piecesText? rest).map (Char.ofNat n :: ·)

/-- Reads the rest of a string, with the text that it stands for. -/
def readString (cs : List Char) : Option (Option String × List Char) :=
  (readPieces cs).map fun p => ((piecesText? p.1).map String.ofList, p.2)

/-- The digits in front, and what follows them. -/
def readDigits (cs : List Char) : List Char × List Char :=
  (cs.takeWhile Char.isDigit, cs.dropWhile Char.isDigit)

/-- A fraction, if there is a point: at least one digit. -/
def readFraction : List Char → Option (List Char × List Char)
  | '.' :: cs =>
    let p := readDigits cs
    if p.1.isEmpty then none else some p
  | cs => some ([], cs)

/-- An exponent of at least one digit after an optional sign. -/
def readSigned (cs : List Char) : Option (Int × List Char) :=
  let (negative, cs) := match cs with
    | '-' :: cs => (true, cs)
    | '+' :: cs => (false, cs)
    | cs => (false, cs)
  let p := readDigits cs
  if p.1.isEmpty then none
  else some (if negative then -(Decimal.digitsValue p.1 : Int) else Decimal.digitsValue p.1, p.2)

def readExponent : List Char → Option (Option Int × List Char)
  | 'e' :: cs | 'E' :: cs => (readSigned cs).map fun p => (some p.1, p.2)
  | cs => some (none, cs)

/-- What a numeral stands for. Written like an integer it is one up to sixty-four bits, except that
`-0` is the negative zero of the floats. No number lies beyond the finite floats. -/
def ofNumeral? (x : Decimal.Numeral) : Option Json :=
  let n := x.wholeValue
  if x.isWhole && Int64.minValue.toInt ≤ n && n < UInt64.size && !(x.negative && n == 0) then
    some (.int n)
  else x.toFloat?.map .float

/-- Reads a number without leading zeros or a plus sign. -/
def readNumeral (cs : List Char) : Option (Decimal.Numeral × List Char) := do
  let (negative, cs) := match cs with
    | '-' :: cs => (true, cs)
    | cs => (false, cs)
  let (whole, cs) := match cs with
    | '0' :: cs => (['0'], cs)
    | cs => readDigits cs
  if whole.isEmpty then none
  else
    let (fraction, cs) ← readFraction cs
    let (exponent, cs) ← readExponent cs
    return (⟨negative, whole, fraction, exponent⟩, cs)

/-- A document that is neither list nor object. -/
def readScalar : List Char → Option (Option Json × List Char)
  | 'n' :: 'u' :: 'l' :: 'l' :: rest => some (some .null, rest)
  | 't' :: 'r' :: 'u' :: 'e' :: rest => some (some (.bool true), rest)
  | 'f' :: 'a' :: 'l' :: 's' :: 'e' :: rest => some (some (.bool false), rest)
  | '"' :: rest => (readString rest).map fun p => (p.1.map .text, p.2)
  | cs => (readNumeral cs).map fun p => (ofNumeral? p.1, p.2)

/-- One or more items with commas between them, up to a closing character. The bound is on the number
of items, and the length of the text will do. -/
def readItems {α : Type} (item : List Char → Option (α × List Char)) (close : Char) :
    Nat → List Char → Option (List α × List Char)
  | 0, _ => none
  | bound + 1, cs =>
    match item (skipBlank cs) with
    | none => none
    | some (x, rest) =>
      match skipBlank rest with
      | [] => none
      | c :: rest =>
        if c == ',' then prepend x (readItems item close bound rest)
        else if c == close then some ([x], rest)
        else none

/-- Any number of items with commas between them, up to a closing character. -/
def readSequence {α : Type} (item : List Char → Option (α × List Char)) (close : Char)
    (bound : Nat) (cs : List Char) : Option (List α × List Char) :=
  match skipBlank cs with
  | [] => none
  | c :: rest => if c == close then some ([], rest) else readItems item close bound (c :: rest)

/-- A quoted name, a colon and a value. -/
def readMember {α : Type} (value : List Char → Option (α × List Char)) :
    List Char → Option ((Option String × α) × List Char)
  | '"' :: cs =>
    match readString cs with
    | none => none
    | some (name, rest) =>
      match skipBlank rest with
      | ':' :: rest => (value (skipBlank rest)).map fun p => ((name, p.1), p.2)
      | _ => none
  | _ => none

/-- Reads a document. The bounds are on the number of items and on the nesting, and the length of the
text will do for both. -/
def readWritten (bound : Nat) : Nat → List Char → Option (Written × List Char)
  | depth + 1, '[' :: rest =>
    (readSequence (readWritten bound depth) ']' bound rest).map fun p => (.list p.1, p.2)
  | depth + 1, '\x7b' :: rest =>
    (readSequence (readMember (readWritten bound depth)) '\x7d' bound rest).map fun p =>
      (.object p.1, p.2)
  | _, cs => (readScalar cs).map fun p => (.scalar p.1, p.2)

/-- Reads a whole text as one document, whatever it stands for. -/
def Written.parse? (s : String) : Option Written :=
  let cs := s.toList
  let bound := cs.length + 1
  match readWritten bound bound (skipBlank cs) with
  | some (w, rest) => if (skipBlank rest).isEmpty then some w else none
  | none => none

/-- Reads a whole text as one document of bounded nesting. -/
def parseWithin? (depth : Nat) (s : String) : Option Json :=
  (Written.parse? s).bind (·.document? depth)

/-- Reads a whole text as one document. -/
def parse? (s : String) : Option Json :=
  parseWithin? maxDepth s

end SqlFilter.Json
