import SqlFilter.Decimal.Style
import SqlFilter.Instant
import SqlFilter.Uuid
/-! The values that predicates compare with and statements bind. -/
namespace SqlFilter

inductive Value
  | null
  | bool (b : Bool)
  | int (n : Int64)
  | float (x : Float)
  | text (s : String)
  | list (items : List Value)
  | timestamp (t : Instant)
  | uuid (u : Uuid)
deriving Inhabited

namespace Value

def isNull : Value → Bool
  | .null => true
  | _ => false

/-- The elements of a list value. -/
def items? : Value → Option (List Value)
  | .list items => some items
  | _ => none

/-- The name of the value's type. -/
def typeName : Value → String
  | .null => "null"
  | .bool _ => "bool"
  | .int _ => "int"
  | .float _ => "float"
  | .text _ => "text"
  | .list _ => "list"
  | .timestamp _ => "timestamp"
  | .uuid _ => "uuid"

mutual

/-- The bare text of a value, which is empty for null. -/
def display : Value → String
  | .null => ""
  | .bool b => if b then "true" else "false"
  | .int n => toString n.toInt
  | .float x => Decimal.plainStyle.text x
  | .text s => s
  | .list items => "[" ++ ", ".intercalate (displayItems items) ++ "]"
  | .timestamp t => t.offsetText
  | .uuid u => u.text

def displayItems : List Value → List String
  | [] => []
  | v :: vs => v.display :: displayItems vs

end

end Value

/-- What may be given where a value is wanted. -/
class ToValue (α : Type) where
  toValue : α → Value

export ToValue (toValue)

instance : ToValue Value := ⟨id⟩
instance : ToValue Bool := ⟨.bool⟩
instance : ToValue Int64 := ⟨.int⟩
instance : ToValue Int32 := ⟨fun n => .int n.toInt64⟩
instance : ToValue Int16 := ⟨fun n => .int n.toInt64⟩
instance : ToValue Int8 := ⟨fun n => .int n.toInt64⟩
instance : ToValue UInt32 := ⟨fun n => .int (Int64.ofNat n.toNat)⟩
instance : ToValue UInt16 := ⟨fun n => .int (Int64.ofNat n.toNat)⟩
instance : ToValue UInt8 := ⟨fun n => .int (Int64.ofNat n.toNat)⟩
instance : ToValue Float := ⟨.float⟩
instance : ToValue Float32 := ⟨fun x => .float x.toFloat⟩
instance : ToValue String := ⟨.text⟩
instance : ToValue Instant := ⟨.timestamp⟩
instance : ToValue Uuid := ⟨.uuid⟩

/-- Nothing is the null value. -/
instance {α : Type} [ToValue α] : ToValue (Option α) :=
  ⟨fun | none => .null | some x => toValue x⟩

instance {α : Type} [ToValue α] : ToValue (List α) :=
  ⟨fun xs => .list (xs.map toValue)⟩

end SqlFilter
