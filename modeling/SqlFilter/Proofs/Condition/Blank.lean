import SqlFilter.Proofs.Condition.Print
/-! Conditions without their values. They print as the same text, with parameters of the same
names. -/
namespace SqlFilter

/-- The test without the value. -/
def Test.blank : Test → Test
  | .isNull field => .isNull field
  | .isNotNull field => .isNotNull field
  | .against field operator _ => .against field operator .null

/-- The query without the values. -/
def Query.blank (q : Query) : Query :=
  ⟨q.sql, q.parameters.map fun p => ⟨p.name, .null⟩⟩

namespace Query

theorem blank_append (q r : Query) : (q ++ r).blank = q.blank ++ r.blank := by
  ext1
  · rfl
  · simp [blank]

theorem blank_ofText (s : String) : (ofText s).blank = ofText s := rfl

theorem length_parameters_blank (q : Query) :
    q.blank.parameters.length = q.parameters.length := by
  simp [blank]

end Query

namespace Condition
open Query

theorem print_blank_test (escape : Bool) (index : Nat) (t : Test) :
    t.blank.print escape index = (t.print escape index).blank := by
  cases t <;> rfl

mutual

theorem printPart_map_blank (escape : Bool) : ∀ (index : Nat) (c : Condition Test),
    (c.map Test.blank).printPart escape index = (c.printPart escape index).blank
  | index, .test t => print_blank_test escape index t
  | index, .joined op parts => by
    simp only [map, printPart, blank_append, blank_ofText,
      printRun_map_blank escape op index parts]

theorem printRun_map_blank (escape : Bool) (op : Connective) :
    ∀ (index : Nat) (cs : List (Condition Test)),
      printRun escape op index (mapParts Test.blank cs) = (printRun escape op index cs).blank
  | index, [] => rfl
  | index, c :: cs => by
    simp only [mapParts, printRun, blank_append, printPart_map_blank escape index c,
      length_parameters_blank, printMore_map_blank escape op _ cs]

theorem printMore_map_blank (escape : Bool) (op : Connective) :
    ∀ (index : Nat) (cs : List (Condition Test)),
      printMore escape op index (mapParts Test.blank cs) = (printMore escape op index cs).blank
  | index, [] => rfl
  | index, c :: cs => by
    simp only [mapParts, printMore, blank_append, blank_ofText,
      printPart_map_blank escape index c, length_parameters_blank,
      printMore_map_blank escape op _ cs]

end

/-- The text of a condition does not look at values. -/
theorem print_map_blank (escape : Bool) (index : Nat) (c : Condition Test) :
    (c.map Test.blank).print escape index = (c.print escape index).blank := by
  cases c with
  | test t => exact print_blank_test escape index t
  | joined op parts => exact printRun_map_blank escape op index parts

end Condition

end SqlFilter
