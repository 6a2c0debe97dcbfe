/-
Taking decisions apart.

A decision is made in steps, each of which a fault or a failure may end. The lemmas of this module say, for each way of
joining steps, exactly when the whole has a value and exactly when it fails, so that no other proof opens a step.
-/
import Mathlib.Tactic
import Lending.Outcome

namespace Lending

variable {ε ε' α β γ : Type}

/-! ## Computations that an error may stop -/

@[simp] theorem ok_bind (a : α) (f : α → Except ε β) : Except.ok a >>= f = f a := rfl

@[simp] theorem error_bind (e : ε) (f : α → Except ε β) : Except.error e >>= f = .error e := rfl

@[simp] theorem pure_eq (a : α) : (pure a : Except ε α) = .ok a := rfl

theorem bind_eq_ok {x : Except ε α} {f : α → Except ε β} {b : β} :
    x >>= f = .ok b ↔ ∃ a, x = .ok a ∧ f a = .ok b := by
  cases x <;> simp

theorem bind_eq_error {x : Except ε α} {f : α → Except ε β} {e : ε} :
    x >>= f = .error e ↔ x = .error e ∨ ∃ a, x = .ok a ∧ f a = .error e := by
  cases x <;> simp

theorem pure_eq_ok {a b : α} : (pure a : Except ε α) = .ok b ↔ a = b := by
  simp

theorem map_eq_ok {x : Except ε α} {f : α → β} {b : β} : x.map f = .ok b ↔ ∃ a, x = .ok a ∧ f a = b := by
  cases x <;> simp [Except.map]

theorem mapError_eq_ok {x : Except ε α} {f : ε → ε'} {a : α} : x.mapError f = .ok a ↔ x = .ok a := by
  cases x <;> simp [Except.mapError]

theorem mapError_eq_error {x : Except ε α} {f : ε → ε'} {e : ε'} :
    x.mapError f = .error e ↔ ∃ e', x = .error e' ∧ f e' = e := by
  cases x <;> simp [Except.mapError]

theorem toOption_eq_some {x : Except ε α} {a : α} : x.toOption = some a ↔ x = .ok a := by
  cases x <;> simp [Except.toOption]

/-- computations that give the same values come to the same apart from their errors -/
theorem toOption_congr {x y : Except ε α} (h : ∀ a, x = .ok a ↔ y = .ok a) : x.toOption = y.toOption :=
  Option.ext fun a => by rw [toOption_eq_some, toOption_eq_some, h]

theorem mapM_eq_ok {f : α → Except ε β} {as : List α} {bs : List β} :
    as.mapM f = .ok bs ↔ List.Forall₂ (fun a b => f a = .ok b) as bs := by
  induction as generalizing bs with
  | nil => simp [eq_comm]
  | cons a as ih =>
    simp only [List.mapM_cons, bind_eq_ok, pure_eq_ok, ih, List.forall₂_cons_left_iff]
    constructor
    · rintro ⟨b, hb, rest, hrest, rfl⟩
      exact ⟨b, rest, hb, hrest, rfl⟩
    · rintro ⟨b, rest, hb, hrest, rfl⟩
      exact ⟨b, hb, rest, hrest, rfl⟩

/-- all of some computations go through if each of them does -/
theorem mapM_isOk_iff {f : α → Except ε β} {as : List α} :
    (∃ bs, as.mapM f = .ok bs) ↔ ∀ a ∈ as, ∃ b, f a = .ok b := by
  induction as with
  | nil => simp
  | cons a as ih =>
    simp only [List.mapM_cons, bind_eq_ok, pure_eq_ok, List.forall_mem_cons, ← ih]
    constructor
    · rintro ⟨_, b, hb, rest, hrest, -⟩
      exact ⟨⟨b, hb⟩, rest, hrest⟩
    · rintro ⟨⟨b, hb⟩, rest, hrest⟩
      exact ⟨_, b, hb, rest, hrest, rfl⟩

/-- all of some computations go through if none of them is without a value -/
theorem mapM_eq_ok_iff_map {f : α → Except ε β} {as : List α} {bs : List β} :
    as.mapM f = .ok bs ↔ as.map (fun a => (f a).toOption) = bs.map some := by
  rw [mapM_eq_ok, ← List.forall₂_eq_eq_eq, List.forall₂_map_left_iff, List.forall₂_map_right_iff]
  simp only [toOption_eq_some]

/-! ## The first error -/

/-- the error that stops a computation, if one does -/
def error? : Except ε α → Option ε
  | .ok _ => none
  | .error e => some e

theorem error?_eq_none {x : Except ε α} : error? x = none ↔ ∃ a, x = .ok a := by
  cases x <;> simp [error?]

theorem error?_eq_some {x : Except ε α} {e : ε} : error? x = some e ↔ x = .error e := by
  cases x <;> simp [error?]

theorem error?_mapError (x : Except ε α) (f : ε → ε') : error? (x.mapError f) = (error? x).map f := by
  cases x <;> rfl

theorem error?_bind_congr {x : Except ε α} {f : α → Except ε β} {g : α → Except ε γ} (h : ∀ a, error? (f a) = error? (g a)) :
    error? (x >>= f) = error? (x >>= g) := by
  cases x with
  | ok a => exact h a
  | error e => rfl

/-- a value, unless there is an error -/
def okUnless : Option ε → α → Except ε α
  | none, a => .ok a
  | some e, _ => .error e

theorem okUnless_eq_ok {o : Option ε} {a b : α} : okUnless o a = .ok b ↔ o = none ∧ a = b := by
  cases o <;> simp [okUnless]

theorem okUnless_eq_error {o : Option ε} {a : α} {e : ε} : okUnless o a = .error e ↔ o = some e := by
  cases o <;> simp [okUnless]

theorem toOption_okUnless {o : Option ε} {a : α} : (okUnless o a).toOption = if o = none then some a else none := by
  cases o <;> simp [okUnless, Except.toOption]

/-- a step without a result -/
theorem eq_okUnless (x : Except ε Unit) : x = okUnless (error? x) () := by
  cases x <;> rfl

/-- of two steps that follow each other the first error counts -/
theorem okUnless_bind {x : Except ε α} {o o' : Option ε} {a : α} {b : β} {f : α → Except ε β} (hx : x = okUnless o a)
    (hf : f a = okUnless o' b) : x >>= f = okUnless (o.or o') b := by
  subst hx
  cases o with
  | none => exact hf
  | some e => rfl

/-- where the errors of a step depend only on what it is about, a loop ends in the first of them -/
theorem foldlM_eq_okUnless {f : β → α → Except ε β} {g : α → Option ε} {step : β → α → β}
    (h : ∀ b a, f b a = okUnless (g a) (step b a)) (as : List α) (b : β) :
    as.foldlM f b = okUnless (as.findSome? g) (as.foldl step b) := by
  induction as generalizing b with
  | nil => rfl
  | cons a as ih =>
    rw [List.foldlM_cons, okUnless_bind (h b a) (ih (step b a)), List.findSome?_cons, List.foldl_cons]
    cases g a <;> rfl

namespace Outcome

/-! ## Decisions -/

theorem bind_eq_ok {x : Outcome α} {f : α → Outcome β} {b : β} : x >>= f = ok b ↔ ∃ a, x = ok a ∧ f a = ok b := by
  cases x <;> simp [bind]

theorem ok_bind (a : α) (f : α → Outcome β) : ok a >>= f = f a := rfl

@[simp] theorem map_ok (f : α → β) (a : α) : f <$> ok a = ok (f a) := rfl

@[simp] theorem map_failed (f : α → β) (c : Cause) : f <$> (failed c : Outcome α) = failed c := rfl

@[simp] theorem violation_eq_failed (v : Violation) : (violation v : Outcome α) = failed (.violations [v]) := rfl

@[simp] theorem refuse_ne_ok (message key : Text) (value : Option Text) (a : α) : refuse message key value ≠ ok a :=
  fun h => by cases h

@[simp] theorem isOk_ok (a : α) : (ok a).isOk = true := rfl

@[simp] theorem isOk_failed (c : Cause) : (failed c : Outcome α).isOk = false := rfl

theorem isOk_iff {o : Outcome α} : o.isOk = true ↔ ∃ a, o = ok a := by
  cases o <;> simp

theorem toOption_eq_some {o : Outcome α} {a : α} : o.toOption = some a ↔ o = ok a := by
  cases o <;> simp [toOption]

/-! ## Decisions that a fault may stop -/

theorem andThen_ok (o : Outcome α) (f : α → Except Fault (Outcome β)) :
    andThen (.ok o) f = match o with
      | ok a => f a
      | failed c => .ok (failed c) := by
  cases o <;> rfl

theorem andThen_eq_ok {x : Except Fault (Outcome α)} {f : α → Except Fault (Outcome β)} {b : β} :
    andThen x f = .ok (ok b) ↔ ∃ a, x = .ok (ok a) ∧ f a = .ok (ok b) := by
  rcases x with e | a | c <;> simp [andThen]

theorem andThen_eq_failed {x : Except Fault (Outcome α)} {f : α → Except Fault (Outcome β)} {c : Cause} :
    andThen x f = .ok (failed c) ↔ x = .ok (failed c) ∨ ∃ a, x = .ok (ok a) ∧ f a = .ok (failed c) := by
  rcases x with e | a | c' <;> simp [andThen]

@[simp] theorem settle_ok (o : Outcome α) : settle (.ok o) = o := rfl

@[simp] theorem settle_error (e : Fault) : (settle (.error e) : Outcome α) = failed (.serverError e.report) := rfl

theorem settle_eq_ok {x : Except Fault (Outcome α)} {a : α} : settle x = ok a ↔ x = .ok (ok a) := by
  cases x <;> simp

theorem settle_isOk_iff {x : Except Fault (Outcome α)} : (settle x).isOk = true ↔ ∃ a, x = .ok (ok a) := by
  simp only [isOk_iff, settle_eq_ok]

/-- violations are no work of a fault -/
theorem settle_eq_violations {x : Except Fault (Outcome α)} {errors : List Violation} :
    settle x = failed (.violations errors) ↔ x = .ok (failed (.violations errors)) := by
  cases x <;> simp

end Outcome

end Lending
