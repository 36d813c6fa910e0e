import SqlFilter.Proofs.Identifier
import SqlFilter.Proofs.Statement.Assembly
import SqlFilter.Proofs.Usable
/-! The names in a statement. A usable schema names its table and columns by identifiers, so what
identifiers have and texts keep side by side, the parts of a statement that hold names have too. -/
namespace SqlFilter

/-- What identifiers and the signs between them have, and texts side by side keep. -/
structure KeptByNames (P : String → Prop) : Prop where
  identifier {s : String} (hs : isIdentifier s = true) : P s
  sign : ∀ s ∈ ["", ".", ", ", " FROM ", "SELECT "], P s
  append {s s' : String} (hs : P s) (hs' : P s') : P (s ++ s')

namespace KeptByNames
variable {P : String → Prop} (hP : KeptByNames P)
include hP

theorem intercalate {separator : String} (hseparator : P separator) :
    ∀ {texts : List String}, (∀ s ∈ texts, P s) → P (separator.intercalate texts)
  | [], _ => by
    rw [String.intercalate_nil]
    exact hP.sign "" (by simp)
  | [s], htexts => by
    rw [String.intercalate_singleton]
    exact htexts s (by simp)
  | s :: s' :: texts, htexts => by
    have hmore := intercalate hseparator (fun u hu => htexts u (List.mem_cons_of_mem s hu))
    rw [String.intercalate_cons_cons]
    exact hP.append (hP.append (htexts s List.mem_cons_self) hseparator) hmore

theorem of_isDottedIdentifier {s : String} (hs : isDottedIdentifier s = true) : P s := by
  have hsegments : ∀ u ∈ dottedSegments s, isIdentifier u = true := List.all_eq_true.1 hs
  rw [← intercalate_dottedSegments s]
  exact hP.intercalate (hP.sign "." (by simp)) (fun u hu => hP.identifier (hsegments u hu))

variable {t : Table} (ht : t.schema.Usable)
include ht

theorem name : P t.name :=
  hP.of_isDottedIdentifier ht.table_dotted

theorem names {names : List String} (hnames : t.Lists names) : P (", ".intercalate names) := by
  refine hP.intercalate (hP.sign ", " (by simp)) ?_
  intro name hname
  exact hP.identifier (ht.isIdentifier_of_hasColumn (hnames.declared name hname))

theorem names_from {table : String} (htable : P table) {names : List String}
    (hnames : t.Lists names) : P (", ".intercalate names ++ " FROM " ++ table) :=
  hP.append (hP.append (hP.names ht hnames) (hP.sign " FROM " (by simp))) htable

theorem selectFrom {table : String} (htable : P table) {names : List String}
    (hnames : t.Lists names) : P (Table.selectFrom table names) := by
  have hselect := hP.append (hP.sign "SELECT " (by simp)) (hP.names_from ht htable hnames)
  simpa only [Table.selectFrom, String.append_assoc] using hselect

end KeptByNames
end SqlFilter
