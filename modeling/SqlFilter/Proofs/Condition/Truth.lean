import SqlFilter.Proofs.Condition.Basic
/-! The three truth values of SQL. A run of one connective is as true as its sides were with the
connective between them, so flattening keeps the truth of a condition. -/
namespace SqlFilter

inductive Truth
  | holds
  | fails
  | unknown
deriving DecidableEq, Repr

namespace Truth

def not : Truth → Truth
  | .holds => .fails
  | .fails => .holds
  | .unknown => .unknown

def and : Truth → Truth → Truth
  | .fails, _ | _, .fails => .fails
  | .holds, .holds => .holds
  | _, _ => .unknown

def or : Truth → Truth → Truth
  | .holds, _ | _, .holds => .holds
  | .fails, .fails => .fails
  | _, _ => .unknown

theorem and_eq_holds_iff {t u : Truth} : t.and u = .holds ↔ t = .holds ∧ u = .holds := by
  cases t <;> cases u <;> simp [and]

end Truth

namespace Connective

def apply : Connective → Truth → Truth → Truth
  | .and => .and
  | .or => .or

/-- The truth value that a connective does not see beside another one. -/
def unit : Connective → Truth
  | .and => .holds
  | .or => .fails

theorem unit_apply (op : Connective) (t : Truth) : op.apply op.unit t = t := by
  cases op <;> cases t <;> rfl

theorem apply_unit (op : Connective) (t : Truth) : op.apply t op.unit = t := by
  cases op <;> cases t <;> rfl

theorem apply_assoc (op : Connective) (t u w : Truth) :
    op.apply (op.apply t u) w = op.apply t (op.apply u w) := by
  cases op <;> cases t <;> cases u <;> cases w <;> rfl

/-- Where one side does not hold, only an alternative on the other side can. -/
theorem apply_ne_holds {op : Connective} {t u : Truth} (ht : t ≠ .holds)
    (hu : op = .or → u ≠ .holds) : op.apply t u ≠ .holds := by
  cases op with
  | and => cases t <;> cases u <;> simp_all [apply, Truth.and]
  | or => cases t <;> cases u <;> simp_all [apply, Truth.or]

end Connective

namespace Condition
variable {α β : Type}

mutual

/-- The truth of a condition whose tests are as true as `v` says. -/
def truth (v : α → Truth) : Condition α → Truth
  | .test a => v a
  | .joined op parts => truthOf v op parts

def truthOf (v : α → Truth) (op : Connective) : List (Condition α) → Truth
  | [] => op.unit
  | p :: ps => op.apply (p.truth v) (truthOf v op ps)

end

variable (v : β → Truth)

theorem truthOf_append (op : Connective) (ps qs : List (Condition β)) :
    truthOf v op (ps ++ qs) = op.apply (truthOf v op ps) (truthOf v op qs) := by
  induction ps with
  | nil => simp only [List.nil_append, truthOf, Connective.unit_apply]
  | cons p ps ih => simp only [List.cons_append, truthOf, ih, Connective.apply_assoc]

theorem truthOf_run (op : Connective) (c : Condition β) : truthOf v op (c.run op) = c.truth v := by
  cases c with
  | test a => simp only [run, truthOf, Connective.apply_unit]
  | joined op' parts =>
    simp only [run]
    split
    · rename_i hop
      rw [truth, hop]
    · simp only [truthOf, Connective.apply_unit]

theorem truth_merge (op : Connective) (l r : Condition β) :
    (merge op l r).truth v = op.apply (l.truth v) (r.truth v) := by
  simp only [merge, truth, truthOf_append, truthOf_run]

theorem truthOf_and_eq_holds_iff {ps : List (Condition β)} :
    truthOf v .and ps = .holds ↔ ∀ p ∈ ps, p.truth v = .holds := by
  induction ps with
  | nil => simp [truthOf, Connective.unit]
  | cons p ps ih => rw [truthOf, Connective.apply, Truth.and_eq_holds_iff, ih, List.forall_mem_cons]

theorem truthOf_ne_holds {op : Connective} {ps : List (Condition β)} (hne : ps ≠ [])
    (hps : ∀ p ∈ ps, p.truth v ≠ .holds) : truthOf v op ps ≠ .holds := by
  induction ps with
  | nil => exact absurd rfl hne
  | cons p ps ih =>
    refine Connective.apply_ne_holds (hps p List.mem_cons_self) ?_
    rintro rfl
    cases ps with
    | nil => simp [truthOf, Connective.unit]
    | cons q qs => exact ih (List.cons_ne_nil q qs) (fun r hr => hps r (List.mem_cons_of_mem p hr))

/-- Without a test that holds, a condition does not hold. -/
theorem truth_ne_holds {c : Condition β} (hc : c.IsFlat) (h : ∀ a ∈ c.tests, v a ≠ .holds) :
    c.truth v ≠ .holds := by
  induction hc with
  | test a => exact h a (by simp [tests])
  | joined two_le _ _ ih =>
    refine truthOf_ne_holds v (List.ne_nil_of_length_pos (by omega)) ?_
    intro p hp
    exact ih p hp (fun a ha => h a (mem_testsOf hp ha))

end Condition
end SqlFilter
