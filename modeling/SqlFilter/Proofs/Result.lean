import Mathlib.Data.List.Forall2
/-! Results that may be errors: what a sequence of steps, or a step under a function, gives. -/
namespace SqlFilter
variable {ε α β : Type}

@[simp] theorem ok_bind (a : α) (f : α → Except ε β) : (Except.ok a >>= f) = f a := rfl

@[simp] theorem error_bind (x : ε) (f : α → Except ε β) :
    ((Except.error x : Except ε α) >>= f) = .error x := rfl

@[simp] theorem pure_eq_ok (a : α) : (pure a : Except ε α) = .ok a := rfl

@[simp] theorem ok_map (a : α) (f : α → β) : (Except.ok a : Except ε α).map f = .ok (f a) := rfl

@[simp] theorem error_map (x : ε) (f : α → β) :
    (Except.error x : Except ε α).map f = .error x := rfl

theorem bind_eq_ok_iff {x : Except ε α} {f : α → Except ε β} {b : β} :
    (x >>= f) = .ok b ↔ ∃ a, x = .ok a ∧ f a = .ok b := by
  cases x with
  | error y => simp
  | ok a => simp

theorem bind_eq_error_iff {x : Except ε α} {f : α → Except ε β} {y : ε} :
    (x >>= f) = .error y ↔ x = .error y ∨ ∃ a, x = .ok a ∧ f a = .error y := by
  cases x with
  | error z => simp
  | ok a => simp

theorem map_eq_ok_iff {x : Except ε α} {f : α → β} {b : β} :
    x.map f = .ok b ↔ ∃ a, x = .ok a ∧ f a = b := by
  cases x with
  | error y => simp
  | ok a => simp

theorem map_eq_error_iff {x : Except ε α} {f : α → β} {y : ε} :
    x.map f = .error y ↔ x = .error y := by
  cases x with
  | error z => simp
  | ok a => simp

theorem mapError_eq_ok_iff {δ : Type} {x : Except ε α} {f : ε → δ} {a : α} :
    x.mapError f = .ok a ↔ x = .ok a := by
  cases x with
  | error y =>
    have herror : (Except.error y : Except ε α).mapError f = .error (f y) := rfl
    simp [herror]
  | ok b =>
    have hok : (Except.ok b : Except ε α).mapError f = .ok b := rfl
    simp [hok]

theorem forM_eq_ok_iff {f : α → Except ε Unit} {xs : List α} :
    xs.forM f = .ok () ↔ ∀ x ∈ xs, f x = .ok () := by
  induction xs with
  | nil => simp
  | cons x xs ih =>
    rw [List.forall_mem_cons, ← ih]
    constructor
    · intro h
      obtain ⟨⟨⟩, hx, hxs⟩ := bind_eq_ok_iff.1 h
      exact ⟨hx, hxs⟩
    · rintro ⟨hx, hxs⟩
      exact bind_eq_ok_iff.2 ⟨(), hx, hxs⟩

/-- A traversal fails where its first element fails. -/
theorem forM_eq_error_iff {f : α → Except ε Unit} {xs : List α} {y : ε} :
    xs.forM f = .error y ↔ ∃ before x after, xs = before ++ x :: after ∧
      (∀ b ∈ before, f b = .ok ()) ∧ f x = .error y := by
  induction xs with
  | nil => simp
  | cons x xs ih =>
    have hcons : (x :: xs).forM f = (f x >>= fun _ => xs.forM f) := rfl
    rw [hcons, bind_eq_error_iff, ih]
    constructor
    · rintro (hx | ⟨⟨⟩, hx, before, x', after, rfl, hbefore, hx'⟩)
      · exact ⟨[], x, xs, rfl, by simp, hx⟩
      · exact ⟨x :: before, x', after, rfl, List.forall_mem_cons.2 ⟨hx, hbefore⟩, hx'⟩
    · rintro ⟨before, x', after, hsplit, hbefore, hx'⟩
      cases before with
      | nil =>
        obtain ⟨rfl, rfl⟩ := List.cons.inj hsplit
        exact Or.inl hx'
      | cons b before =>
        obtain ⟨rfl, rfl⟩ := List.cons.inj hsplit
        obtain ⟨hx, hbefore⟩ := List.forall_mem_cons.1 hbefore
        exact Or.inr ⟨(), hx, before, x', after, rfl, hbefore, hx'⟩

/-- A traversal that collects values has one for each element. -/
theorem mapM_eq_ok_iff {f : α → Except ε β} {xs : List α} {ys : List β} :
    xs.mapM f = .ok ys ↔ List.Forall₂ (fun x y => f x = .ok y) xs ys := by
  induction xs generalizing ys with
  | nil => simp [List.forall₂_nil_left_iff, eq_comm]
  | cons x xs ih =>
    rw [List.mapM_cons, List.forall₂_cons_left_iff]
    constructor
    · intro h
      obtain ⟨y, hy, h⟩ := bind_eq_ok_iff.1 h
      obtain ⟨zs, hzs, h⟩ := bind_eq_ok_iff.1 h
      exact ⟨y, zs, hy, ih.1 hzs, (Except.ok.inj h).symm⟩
    · rintro ⟨y, zs, hy, hzs, rfl⟩
      rw [hy, ih.2 hzs]
      rfl

/-- It has an error just where a traversal without values has one. -/
theorem mapM_eq_error_iff {f : α → Except ε β} {xs : List α} {z : ε} :
    xs.mapM f = .error z ↔ ∃ before x after, xs = before ++ x :: after ∧
      (∀ b ∈ before, ∃ y, f b = .ok y) ∧ f x = .error z := by
  let forget (x : α) : Except ε Unit := (f x).map fun _ => ()
  have hforget : xs.mapM f = .error z ↔ xs.forM forget = .error z := by
    induction xs with
    | nil => simp
    | cons x xs ih =>
      have hcons : (x :: xs).forM forget = (forget x >>= fun _ => xs.forM forget) := rfl
      rw [List.mapM_cons, hcons]
      cases hx : f x with
      | error w => simp [forget, hx]
      | ok y =>
        have hforgets : forget x = .ok () := by simp [forget, hx]
        rw [hforgets, ok_bind, ok_bind, ← ih, bind_eq_error_iff]
        simp
  have hok (b : α) : forget b = .ok () ↔ ∃ y, f b = .ok y := by
    simp only [forget, map_eq_ok_iff, and_true]
  have herror (x : α) : forget x = .error z ↔ f x = .error z := map_eq_error_iff
  rw [hforget, forM_eq_error_iff]
  simp only [hok, herror]

/-- There is a value just if `P` holds, and an error just if it is one that `F` tells. -/
structure Settles (r : Except ε α) (P : Prop) (F : ε → Prop) : Prop where
  ok_iff : (∃ a, r = .ok a) ↔ P
  error_iff (x : ε) : r = .error x ↔ F x

theorem settles_of_cases {r : Except ε α} {P : Prop} {F : ε → Prop} (hok : P → ∃ a, r = .ok a)
    (herror : ∀ x, F x → r = .error x) (hcases : P ∨ ∃ x, F x) : Settles r P F := by
  refine ⟨⟨?_, hok⟩, fun x => ⟨?_, herror x⟩⟩
  · rintro ⟨a, ha⟩
    rcases hcases with h | ⟨x, h⟩
    · exact h
    · simp [herror x h] at ha
  · intro hx
    rcases hcases with h | ⟨y, h⟩
    · obtain ⟨a, ha⟩ := hok h
      simp [ha] at hx
    · rw [herror y h] at hx
      rwa [← Except.error.inj hx]

theorem settles_ok {P : Prop} {F : ε → Prop} (a : α) (hP : P) (hF : ∀ x, ¬F x) :
    Settles (.ok a) P F :=
  settles_of_cases (fun _ => ⟨a, rfl⟩) (fun x hx => absurd hx (hF x)) (Or.inl hP)

theorem settles_error {P : Prop} {F : ε → Prop} {x : ε} (hP : ¬P) (hF : ∀ y, F y ↔ y = x) :
    Settles (.error x : Except ε α) P F := by
  refine settles_of_cases (fun h => absurd h hP) ?_ (Or.inr ⟨x, (hF x).2 rfl⟩)
  intro y hy
  rw [(hF y).1 hy]

theorem Settles.map {r : Except ε α} {P : Prop} {F : ε → Prop} (h : Settles r P F) (f : α → β) :
    Settles (r.map f) P F := by
  refine ⟨?_, fun x => map_eq_error_iff.trans (h.error_iff x)⟩
  rw [← h.ok_iff]
  constructor
  · rintro ⟨b, hb⟩
    obtain ⟨a, ha, -⟩ := map_eq_ok_iff.1 hb
    exact ⟨a, ha⟩
  · rintro ⟨a, ha⟩
    exact ⟨f a, by rw [ha, ok_map]⟩

theorem Settles.cases {r : Except ε α} {P : Prop} {F : ε → Prop} (h : Settles r P F) :
    P ∨ ∃ x, F x := by
  cases hr : r with
  | ok a => exact Or.inl (h.ok_iff.1 ⟨a, hr⟩)
  | error x => exact Or.inr ⟨x, (h.error_iff x).1 hr⟩

theorem Settles.congr {r : Except ε α} {P P' : Prop} {F F' : ε → Prop} (h : Settles r P F)
    (hP : P ↔ P') (hF : ∀ x, F x ↔ F' x) : Settles r P' F' :=
  ⟨h.ok_iff.trans hP, fun x => (h.error_iff x).trans (hF x)⟩

/-- A traversal is settled by what settles each step: it has values if every step has one, and else
the error of the first step that has none. -/
theorem settles_mapM {f : α → Except ε β} {P : α → Prop} {F : α → ε → Prop}
    (h : ∀ x, Settles (f x) (P x) (F x)) (xs : List α) :
    Settles (xs.mapM f) (∀ x ∈ xs, P x) fun z => ∃ before x after, xs = before ++ x :: after ∧
      (∀ b ∈ before, P b) ∧ F x z := by
  refine ⟨?_, ?_⟩
  · simp only [← (h _).ok_iff]
    induction xs with
    | nil => simp
    | cons x xs ih =>
      rw [List.mapM_cons, List.forall_mem_cons, ← ih]
      simp only [bind_eq_ok_iff, pure_eq_ok, Except.ok.injEq]
      constructor
      · rintro ⟨-, y, hy, ys, hys, -⟩
        exact ⟨⟨y, hy⟩, ys, hys⟩
      · rintro ⟨⟨y, hy⟩, ys, hys⟩
        exact ⟨y :: ys, y, hy, ys, hys, rfl⟩
  · intro z
    simp only [mapM_eq_error_iff, (h _).ok_iff, (h _).error_iff]

/-- The same error, or values that are related. -/
inductive Paired (R : α → β → Prop) : Except ε α → Except ε β → Prop
  | error (x : ε) : Paired R (.error x) (.error x)
  | ok {a : α} {b : β} (h : R a b) : Paired R (.ok a) (.ok b)

section Paired
variable {γ δ : Type} {R : α → β → Prop} {S : γ → δ → Prop} {x : Except ε α} {y : Except ε β}

theorem Paired.bind {f : α → Except ε γ} {g : β → Except ε δ} (h : Paired R x y)
    (hfg : ∀ a b, R a b → Paired S (f a) (g b)) : Paired S (x >>= f) (y >>= g) := by
  cases h with
  | error x => exact .error x
  | ok h => exact hfg _ _ h

theorem Paired.imp {R' : α → β → Prop} (h : Paired R x y) (hR : ∀ a b, R a b → R' a b) :
    Paired R' x y := by
  cases h with
  | error x => exact .error x
  | ok h => exact .ok (hR _ _ h)

theorem Paired.map {f : α → γ} {g : β → δ} (h : Paired R x y)
    (hfg : ∀ a b, R a b → S (f a) (g b)) : Paired S (x.map f) (y.map g) := by
  cases h with
  | error x => exact .error x
  | ok h => exact .ok (hfg _ _ h)

/-- One result is paired with itself where its value is related to itself. -/
theorem paired_self {R : α → α → Prop} {x : Except ε α} (h : ∀ a, x = .ok a → R a a) :
    Paired R x x := by
  cases x with
  | error x => exact .error x
  | ok a => exact .ok (h a rfl)

end Paired

/-- The same value, or no value on either side; the errors need not be the same. -/
def Agree (x y : Except ε α) : Prop :=
  ∀ a, x = .ok a ↔ y = .ok a

namespace Agree
variable {x y : Except ε α}

theorem refl (x : Except ε α) : Agree x x :=
  fun _ => Iff.rfl

theorem errors (z w : ε) : Agree (.error z : Except ε α) (.error w) := by
  intro a
  simp only [reduceCtorEq]

theorem bind {f g : α → Except ε β} (h : Agree x y) (hfg : ∀ a, Agree (f a) (g a)) :
    Agree (x >>= f) (y >>= g) := by
  intro b
  rw [bind_eq_ok_iff, bind_eq_ok_iff]
  exact exists_congr fun a => and_congr (h a) (hfg a b)

theorem map (f : α → β) (h : Agree x y) : Agree (x.map f) (y.map f) := by
  intro b
  rw [map_eq_ok_iff, map_eq_ok_iff]
  exact exists_congr fun a => and_congr_left fun _ => h a

end Agree

theorem toOption_ok {x : Except ε α} {a : α} (h : x = .ok a) : x.toOption = some a := by
  rw [h, Except.toOption]

end SqlFilter
