import SqlFilter.Text.Basic
/-! Universally unique identifiers and their texts. -/
namespace SqlFilter

structure Uuid where
  bits : BitVec 128
deriving DecidableEq

namespace Uuid

/-- The sizes of the groups of digits between hyphens. -/
def groupSizes : List Nat := [8, 4, 4, 4, 12]

/-- The groups of the hyphenated form of thirty-two characters. -/
def groups (cs : List Char) : List Nat → List (List Char)
  | [] => []
  | n :: ns => cs.take n :: groups (cs.drop n) ns

/-- Removes hyphens that stand exactly between the groups. -/
def unhyphenate? (cs : List Char) : Option (List Char) :=
  let digits := cs.filter (· ≠ '-')
  if ['-'].intercalate (groups digits groupSizes) = cs then some digits else none

/-- Takes away what encloses the digits: braces, or the name of the namespace. -/
def bare (cs : List Char) : List Char :=
  match cs with
  | '\x7b' :: rest => if rest.getLast? = some '\x7d' then rest.dropLast else cs
  | 'u' :: 'r' :: 'n' :: ':' :: 'u' :: 'u' :: 'i' :: 'd' :: ':' :: rest => rest
  | cs => cs

def ofDigits? (cs : List Char) : Option Uuid :=
  if cs.length = 32 then
    (cs.mapM Text.hexDigit?).map fun ns => ⟨BitVec.ofNat 128 (ns.foldl (fun n d => 16 * n + d) 0)⟩
  else none

/-- Reads thirty-two hexadecimal digits. They may stand bare, with hyphens between the groups, in
braces with hyphens, or after `urn:uuid:` with hyphens. -/
def parse? (s : String) : Option Uuid :=
  let cs := s.toList
  let inner := bare cs
  match unhyphenate? inner with
  | some digits => ofDigits? digits
  | none => if inner = cs then ofDigits? cs else none

/-- The thirty-two digits, most significant first. -/
def digits (u : Uuid) : List Char :=
  (List.range 32).map fun i => Text.hexChar (u.bits.toNat / Nat.pow 16 (31 - i) % 16)

/-- The lower-case hyphenated text. -/
def text (u : Uuid) : String :=
  String.ofList (['-'].intercalate (groups u.digits groupSizes))

end Uuid
end SqlFilter
