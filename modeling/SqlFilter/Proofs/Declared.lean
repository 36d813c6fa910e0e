import SqlFilter.Proofs.Condition.Operands
import SqlFilter.Proofs.Condition.Print
/-! Predicates about the records of a table. Attaching a schema only adds a check after everything
else: the fields that the operands test are looked up one after the other, and the condition stays
what it is without a schema. -/
namespace SqlFilter

/-- The field of a clause. -/
def Clause.path (a : Clause) : FieldPath :=
  ⟨a.field, a.nested⟩

namespace Schema

/-- The schema has the column of a field. Fields of referenced records are columns of other
tables. -/
def Declares (s : Schema) (f : FieldPath) : Prop :=
  f.nested = true ∨ s.hasColumn f.name = true

instance (s : Schema) (f : FieldPath) : Decidable (s.Declares f) :=
  inferInstanceAs (Decidable (_ ∨ _))

def requireField (s : Schema) (f : FieldPath) : Except CompileError Unit :=
  if s.Declares f then .ok () else .error (.unknownField f.name s.tableName)

theorem requireField_eq_ok_iff {s : Schema} {f : FieldPath} :
    s.requireField f = .ok () ↔ s.Declares f := by
  unfold requireField
  split
  · rename_i h
    simp [h]
  · rename_i h
    simp [h]

theorem requireField_of_not_declares {s : Schema} {f : FieldPath} (h : ¬s.Declares f) :
    s.requireField f = .error (.unknownField f.name s.tableName) :=
  if_neg h

theorem forM_requireField_of_declares {s : Schema} {fields : List FieldPath}
    (h : ∀ f ∈ fields, s.Declares f) : fields.forM s.requireField = .ok () :=
  forM_eq_ok_iff.2 fun f hf => requireField_eq_ok_iff.2 (h f hf)

/-- The first field without a column is told. -/
theorem forM_requireField_of_not_declares {s : Schema} {before after : List FieldPath}
    {f : FieldPath} (hbefore : ∀ b ∈ before, s.Declares b) (hf : ¬s.Declares f) :
    (before ++ f :: after).forM s.requireField = .error (.unknownField f.name s.tableName) := by
  have hpasses (b) (hb : b ∈ before) := requireField_eq_ok_iff.2 (hbefore b hb)
  exact forM_eq_error_iff.2 ⟨before, f, after, rfl, hpasses, requireField_of_not_declares hf⟩

theorem undeclared?_cons (s : Schema) (a : Clause) (clauses : List Clause) :
    s.undeclared? (a :: clauses) = if s.Declares a.path then s.undeclared? clauses else some a := by
  let unknown (c : Clause) : Bool := !c.nested && !s.hasColumn c.field
  have hunknown : unknown a = true ↔ ¬s.Declares a.path := by
    simp [unknown, Declares, Clause.path, not_or]
  by_cases ha : s.Declares a.path
  · have hpass : ¬unknown a = true := fun h => hunknown.1 h ha
    rw [if_pos ha]
    exact List.find?_cons_of_neg hpass
  · rw [if_neg ha]
    exact List.find?_cons_of_pos (hunknown.2 ha)

end Schema

theorem filterMap_of_forall₂ {α β : Type} {f : α → Option β} {xs : List α} {ys : List β}
    (h : List.Forall₂ (fun x y => f x = some y) xs ys) : xs.filterMap f = ys := by
  induction h with
  | nil => rfl
  | cons hy hys ih => rw [List.filterMap_cons_some hy, ih]

namespace Expr

/-- The part of a call that reads the field which is tested: a target that has the form of a field, or
else the first argument. Without a target it is the last argument of this form. -/
def callSubject? (target : Option Expr) (args : List Expr) : Option Expr :=
  match target with
  | some receiver => if receiver.isFieldRead then some receiver else args.head?
  | none => args.reverse.find? isFieldRead

/-- The part of an operand that reads the field which is tested. -/
def subject? : Expr → Option Expr
  | .binary _ left _ => some left
  | .call _ target args => callSubject? target args
  | .not (.call _ target args) => callSubject? target args
  | .not operand => some operand
  | e => some e

/-- The field that an operand tests. -/
def testedField? (o : Expr) : Option FieldPath :=
  o.subject?.bind (·.fieldPath.toOption)

/-- The fields that a predicate tests, in the order of its operands. -/
def testedFields (e : Expr) : List FieldPath :=
  e.operands.filterMap testedField?

theorem testedField?_of_subject {o reader : Expr} {f : FieldPath} (h : o.subject? = some reader)
    (hf : reader.fieldPath = .ok f) : o.testedField? = some f := by
  rw [testedField?, h, Option.bind_some, toOption_ok hf]

theorem callSubject?_of_membershipParts {target : Option Expr} {args : List Expr}
    {collection element : Expr} (htarget : ∀ t ∈ target, t.isFieldRead = false)
    (h : membershipParts? target args = some (collection, element)) :
    callSubject? target args = some element := by
  unfold membershipParts? at h
  split at h
  · rename_i t arg rest
    obtain ⟨rfl, rfl⟩ := Prod.mk.inj (Option.some.inj h)
    simp [callSubject?, htarget t rfl]
  · simp at h
  · split at h
    · rename_i first rest element' hfind
      obtain ⟨rfl, rfl⟩ := Prod.mk.inj (Option.some.inj h)
      exact hfind
    · simp at h

/-- A method stays as it is on no target that reads a field, if it tests for membership. -/
theorem isFieldRead_of_methodOn {kind : Method} {target : Option Expr}
    (hkind : kind = .contains ∨ kind = .elementOf) (hon : methodOn kind target = kind) :
    ∀ t ∈ target, t.isFieldRead = false := by
  rintro t rfl
  rcases hkind with rfl | rfl <;> simpa [methodOn] using hon

/-- What a call tests is read off its form. -/
theorem callSubject?_of_callClause {escape negated : Bool} {method : String} {target : Option Expr}
    {args : List Expr} {a : Clause} (h : callClause escape negated method target args = .ok a) :
    ∃ reader, callSubject? target args = some reader ∧ reader.fieldPath = .ok a.path := by
  obtain ⟨kind, -, ⟨receiver, rfl, hread, -, h⟩ | ⟨hon, hkind, h⟩⟩ := callClause_cases h
  · obtain ⟨field, arg, rest, v, pattern, hfield, -, -, -, rfl⟩ := matchClause_eq_ok h
    exact ⟨receiver, by simp [callSubject?, hread], hfield⟩
  · obtain ⟨collection, element, field, items, hparts, hfield, -, rfl⟩ := membershipClause_eq_ok h
    have htarget := isFieldRead_of_methodOn hkind hon
    exact ⟨element, callSubject?_of_membershipParts htarget hparts, hfield⟩

/-- The field of an operand's clause does not depend on how the clause is made. -/
theorem testedField?_of_clause {escape : Bool} {o : Expr} {a : Clause}
    (h : clause escape o = .ok a) : o.testedField? = some a.path := by
  have htruth {e : Expr} {b : Bool} (h : e.truthClause b = .ok a) : e.fieldPath = .ok a.path := by
    obtain ⟨field, hfield, rfl⟩ := truthClause_eq_ok h
    exact hfield
  cases hasClause_of_clause h with
  | field ha | member ha | notField ha | notMember ha => exact testedField?_of_subject rfl (htruth ha)
  | comparison ha =>
    obtain ⟨operator, field, v, -, hfield, -, -, rfl⟩ := comparisonClause_eq_ok ha
    exact testedField?_of_subject rfl hfield
  | call negated ha =>
    obtain ⟨reader, hreader, hfield⟩ := callSubject?_of_callClause ha
    cases negated <;> exact testedField?_of_subject hreader hfield

/-- Where there is a condition, every operand tests a field, and these are the fields of the clauses
from left to right. -/
theorem Flattens.forall₂_testedField? {escape : Bool} {e : Expr} {c : Condition Clause}
    (h : e.Flattens escape c) :
    List.Forall₂ (fun o f => o.testedField? = some f) e.operands (c.tests.map Clause.path) := by
  rw [List.forall₂_map_right_iff]
  exact h.forall₂_operands.imp fun _ _ ha => testedField?_of_clause ha

theorem Flattens.testedFields_eq {escape : Bool} {e : Expr} {c : Condition Clause}
    (h : e.Flattens escape c) : e.testedFields = c.tests.map Clause.path :=
  filterMap_of_forall₂ h.forall₂_testedField?

end Expr

namespace Compiler

/-- Looks up fields, if that is asked for and there is a schema to look them up in. -/
def checkFields (c : Compiler) (fields : List FieldPath) : Except CompileError Unit :=
  match c.schema with
  | none => .ok ()
  | some s => if c.options.validateFields then fields.forM s.requireField else .ok ()

/-- Finding the first undeclared field is looking up one after the other. -/
theorem forM_requireField_clauses (s : Schema) (clauses : List Clause) :
    (clauses.map Clause.path).forM s.requireField =
      (s.undeclared? clauses).elim (.ok ()) fun a => .error (.unknownField a.field s.tableName) := by
  induction clauses with
  | nil => rfl
  | cons a clauses ih =>
    have hcons : ((a :: clauses).map Clause.path).forM s.requireField =
        (s.requireField a.path >>= fun _ => (clauses.map Clause.path).forM s.requireField) := rfl
    rw [hcons, ih, Schema.undeclared?_cons]
    by_cases ha : s.Declares a.path
    · rw [Schema.requireField_eq_ok_iff.2 ha, ok_bind, if_pos ha]
    · rw [Schema.requireField_of_not_declares ha, error_bind, if_neg ha]
      rfl

theorem validate_eq_checkFields (c : Compiler) (tree : ClauseTree) :
    c.validate tree = c.checkFields (tree.clauses.map Clause.path) := by
  unfold validate checkFields
  cases c.schema with
  | none => rfl
  | some s =>
    simp only [forM_requireField_clauses]
    cases s.undeclared? tree.clauses with
    | none => rfl
    | some a => rfl

/-- Without a schema a predicate compiles to the text of its condition. -/
theorem compile_alone (options : CompileOptions) (e : Expr) :
    compile ⟨options, none⟩ e = (e.condition options.escapeWildcards).map fun c =>
      (c.map Clause.test).print options.escapeWildcards 0 := by
  unfold compile tree
  rw [Expr.tree_eq_map]
  cases hc : e.condition options.escapeWildcards with
  | error x => rfl
  | ok c =>
    have hflat := (Expr.flattens_of_condition hc).isFlat
    exact congrArg Except.ok (Condition.toQuery_tree options.escapeWildcards hflat)

/-- With one it compiles to the same, after which its fields are looked up. -/
theorem compile_eq_checked (c : Compiler) (e : Expr) :
    c.compile e = (do
      let q ← compile ⟨c.options, none⟩ e
      c.checkFields e.testedFields
      return q) := by
  rw [compile_alone]
  unfold compile tree
  rw [Expr.tree_eq_map]
  cases hcondition : e.condition c.options.escapeWildcards with
  | error x => rfl
  | ok flat =>
    have hflattens := Expr.flattens_of_condition hcondition
    -- the clauses of the tree stand in the order of the operands, however it is grouped
    have hvalidate : c.validate (flat.tree none) = c.checkFields e.testedFields := by
      rw [validate_eq_checkFields, Condition.clauses_tree, hflattens.testedFields_eq]
    have hquery := Condition.toQuery_tree c.options.escapeWildcards hflattens.isFlat
    simp only [ok_map, ok_bind, hvalidate]
    cases c.checkFields e.testedFields with
    | error x => rfl
    | ok _ => exact congrArg Except.ok hquery

/-- A schema changes no condition and no error of a predicate. If there is a condition and fields are
validated, it is given when all fields that the operands test are declared, and otherwise the first
undeclared one is told, in the order of the operands. -/
theorem compile_with_schema (options : CompileOptions) (s : Schema) (e : Expr) :
    let alone := compile ⟨options, none⟩ e
    let checked := compile ⟨options, some s⟩ e
    (options.validateFields = false → checked = alone) ∧
    (∀ x, alone = .error x → checked = .error x) ∧
    (∀ q, checked = .ok q → alone = .ok q) ∧
    ∀ q, alone = .ok q → ∃ fields,
      List.Forall₂ (fun o f => o.testedField? = some f) e.operands fields ∧
      (options.validateFields = true →
        ((∀ f ∈ fields, s.Declares f) → checked = .ok q) ∧
        ∀ before f after, fields = before ++ f :: after → (∀ b ∈ before, s.Declares b) →
          ¬s.Declares f → checked = .error (.unknownField f.name s.tableName)) := by
  intro alone checked
  let lookup : Except CompileError Unit :=
    if options.validateFields then e.testedFields.forM s.requireField else .ok ()
  have hchecked : checked = (do let q ← alone; lookup; return q) :=
    compile_eq_checked ⟨options, some s⟩ e
  refine ⟨?_, ?_, ?_, ?_⟩
  · intro hoff
    have hlookup : lookup = .ok () := if_neg (Bool.eq_false_iff.1 hoff)
    rw [hchecked, hlookup]
    cases alone with
    | error x => rfl
    | ok q => rfl
  · intro x hx
    rw [hchecked, hx, error_bind]
  · intro q hq
    rw [hchecked] at hq
    obtain ⟨q', halone, hq⟩ := bind_eq_ok_iff.1 hq
    obtain ⟨-, -, hq⟩ := bind_eq_ok_iff.1 hq
    rw [halone, Except.ok.inj hq]
  · intro q hq
    obtain ⟨c, hflattens, -⟩ := Expr.compile_eq_ok hq
    refine ⟨c.tests.map Clause.path, hflattens.forall₂_testedField?, ?_⟩
    intro hon
    have hlookup : lookup = (c.tests.map Clause.path).forM s.requireField := by
      rw [← hflattens.testedFields_eq]
      exact if_pos hon
    rw [hchecked, hq, ok_bind, hlookup]
    constructor
    · intro hdeclared
      rw [Schema.forM_requireField_of_declares hdeclared, ok_bind, pure_eq_ok]
    · intro before f after hsplit hbefore hf
      rw [hsplit, Schema.forM_requireField_of_not_declares hbefore hf, error_bind]

/-- A field of a referenced record passes, the next undeclared field is told, and an operand that is
no predicate is told before it. -/
theorem compile_with_schema_users :
    let options : CompileOptions := ⟨false, true⟩
    let s : Schema := ⟨"Users", [.key "Id", .plain "Name"], none⟩
    let name : Expr := .call "StartsWith" (some (.field "Name")) [.constant (.text "A")]
    let city : Expr := .binary .eq (.field "Address.City") (.constant (.text "Rome"))
    let age : Expr := .binary .gt (.field "Age") (.constant (.int 3))
    let e : Expr := .binary .and (.binary .or name city) age
    let q : Query := ⟨"(Name LIKE @Name_p0 OR AddressCity = @AddressCity_p1) AND Age > @Age_p2",
      [⟨"Name_p0", .text "A%"⟩, ⟨"AddressCity_p1", .text "Rome"⟩, ⟨"Age_p2", .int 3⟩]⟩
    let fault : CompileError := .unsupportedExpression "true is not a predicate"
    compile ⟨options, none⟩ e = .ok q ∧
      e.testedFields = [⟨"Name", false⟩, ⟨"AddressCity", true⟩, ⟨"Age", false⟩] ∧
      compile ⟨options, some s⟩ e = .error (.unknownField "Age" "Users") ∧
      compile ⟨options, none⟩ (.binary .and age (.constant (.bool true))) = .error fault ∧
      compile ⟨options, some s⟩ (.binary .and age (.constant (.bool true))) = .error fault := by
  intro options s name city age e q fault
  have halone : compile ⟨options, none⟩ e = .ok q := by
    simp only [options, e, name, city, age, q]
    rfl
  have hfields : e.testedFields = [⟨"Name", false⟩, ⟨"AddressCity", true⟩, ⟨"Age", false⟩] := by
    simp only [e, name, city, age]
    rfl
  have hfault : compile ⟨options, none⟩ (.binary .and age (.constant (.bool true))) = .error fault := by
    simp only [options, age, fault]
    rfl
  obtain ⟨-, -, -, hcondition⟩ := compile_with_schema options s e
  obtain ⟨-, hfaults, -, -⟩ :=
    compile_with_schema options s (.binary .and age (.constant (.bool true)))
  obtain ⟨fields, htested, hvalidated⟩ := hcondition q halone
  obtain ⟨-, hundeclared⟩ := hvalidated rfl
  obtain rfl : fields = e.testedFields := (filterMap_of_forall₂ htested).symm
  have hbefore : ∀ b ∈ [(⟨"Name", false⟩ : FieldPath), ⟨"AddressCity", true⟩], s.Declares b := by
    decide
  have hage : ¬s.Declares ⟨"Age", false⟩ := by decide
  exact ⟨halone, hfields, hundeclared _ _ [] hfields hbefore hage, hfault, hfaults fault hfault⟩

end Compiler
end SqlFilter
