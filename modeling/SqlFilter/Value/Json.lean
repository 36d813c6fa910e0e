import SqlFilter.Decimal.Nearest
import SqlFilter.Json.Tree
import SqlFilter.Value.Basic
/-! Values as JSON. Moments and identifiers are written as texts, so they are read back as texts; a
float that is no finite number is written as null. An object is no value. -/
namespace SqlFilter.Value

/-- Whether an integer fits into sixty-four bits with a sign. -/
def fitsInt64 (n : Int) : Bool :=
  -9223372036854775808 ≤ n ∧ n ≤ 9223372036854775807

/-- An integer of sixty-four bits stays one; any other becomes the nearest float. -/
def ofInteger (n : Int) : Value :=
  if fitsInt64 n then .int (Int64.ofInt n) else .float (Decimal.ofInt n)

mutual

def toJson : Value → Json
  | .null => .null
  | .bool b => .bool b
  | .int n => .int n.toInt
  | .float x => if x.isFinite then .float x else .null
  | .text s => .text s
  | .list items => .list (itemsToJson items)
  | .timestamp t => .text t.zuluText
  | .uuid u => .text u.text

def itemsToJson : List Value → List Json
  | [] => []
  | v :: vs => v.toJson :: itemsToJson vs

end

mutual

/-- Reads a document by its shape. -/
def ofJson? : Json → Option Value
  | .null => some .null
  | .bool b => some (.bool b)
  | .int n => some (ofInteger n)
  | .float x => some (.float x)
  | .text s => some (.text s)
  | .list items => (itemsOfJson? items).map .list
  | .object _ => none

def itemsOfJson? : List Json → Option (List Value)
  | [] => some []
  | j :: js =>
    match ofJson? j, itemsOfJson? js with
    | some v, some vs => some (v :: vs)
    | _, _ => none

end

def readNull? : Json → Option Value
  | .null => some .null
  | _ => none

def readBool? : Json → Option Value
  | .bool b => some (.bool b)
  | _ => none

def readInt? : Json → Option Value
  | .int n => if fitsInt64 n then some (.int (Int64.ofInt n)) else none
  | _ => none

/-- A float may be written without a fraction. -/
def readFloat? : Json → Option Value
  | .int n => some (.float (Decimal.ofInt n))
  | .float x => some (.float x)
  | _ => none

def readText? : Json → Option Value
  | .text s => some (.text s)
  | _ => none

/-- The readings that are tried in turn. Any text is a text, so none is left for moments and
identifiers, which are not tried. -/
def scalarReadings : List (Json → Option Value) :=
  [readNull?, readBool?, readInt?, readFloat?, readText?]

mutual

/-- Reads a document as a value of the first kind that it fits. -/
def firstFit? : Json → Option Value
  | .list items => (firstFitItems? items).map .list
  | j => scalarReadings.findSome? (· j)

def firstFitItems? : List Json → Option (List Value)
  | [] => some []
  | j :: js =>
    match firstFit? j, firstFitItems? js with
    | some v, some vs => some (v :: vs)
    | _, _ => none

end

end SqlFilter.Value
