/-
Which keys can be put in order.

Two values have an order exactly if they are of one kind (`less_isOk_iff`): texts, bytes, numbers and truth values, days,
and dates, those with a zone and those without one apart. So keys can be put in order exactly if they are all of one kind
(`sorted?_isOk_iff`).
-/
import Lending.Document.KeyOrder
import Lending.Proofs.Sorting.Runs
import Lending.Proofs.Time.Order

namespace Lending

/-- two dates have an order if both have a zone, or neither -/
theorem DateTime.before_isOk_iff {a b : DateTime} : (∃ known, a.before b = .ok known) ↔ a.isAware = b.isAware := by
  constructor
  · rintro ⟨known, hknown⟩
    obtain ⟨i, j, hkeys, -⟩ := before_eq_ok.1 hknown
    exact isAware_eq_of_keys hkeys
  · intro heq
    cases ha : a.isAware with
    | true => exact ⟨_, before_eq ha (heq ▸ ha)⟩
    | false =>
      have hzone : ∀ {d : DateTime}, d.isAware = false → d.zone = none := fun hd => Option.isNone_iff_eq_none.1 (by
        simpa [isAware] using hd)
      have hkeys : keys a b = .ok ((a.wall.ticks : Int), (b.wall.ticks : Int)) :=
        if_pos ((hzone ha).trans (hzone (heq ▸ ha)).symm)
      exact ⟨_, before_eq_ok.2 ⟨_, _, hkeys, rfl⟩⟩

/-- the kinds of values that have an order -/
inductive KeyKind
  | text
  | number
  | bytes
  | day
  | date (aware : Bool)
deriving DecidableEq

namespace Value

variable {v w : Value} {vs ws : List Value}

/-- the kind of a value, if it has an order at all -/
def keyKind? : Value → Option KeyKind
  | text _ => some .text
  | bool _ | int _ | float _ => some .number
  | bytes _ => some .bytes
  | date _ => some .day
  | dateTime d => some (.date d.isAware)
  | _ => none

/-- whether two values are of one kind -/
def Comparable (v w : Value) : Prop := v.keyKind? ≠ none ∧ v.keyKind? = w.keyKind?

instance (v w : Value) : Decidable (v.Comparable w) := by unfold Comparable; infer_instance

theorem less_isOk_iff : (∃ b, less v w = .ok b) ↔ v.Comparable w := by
  unfold Comparable
  cases v <;> cases w <;> simp [less, keyKind?, numberLess?, sameKey.whole?]
  -- the order of dates is left
  next d e => simpa using DateTime.before_isOk_iff (a := d) (b := e)

theorem answers_less : Sorting.Answers less Comparable where
  symm h := ⟨h.2 ▸ h.1, h.2.symm⟩
  trans h h' := ⟨h.1, h.2.trans h'.2⟩
  answers_iff _ _ := less_isOk_iff

/-- **Which keys have an order.** Values can be put in order exactly if every two of them are of one kind. -/
theorem sorted?_isOk_iff : (∃ ws, sorted? vs = .ok ws) ↔ vs.Pairwise Comparable := Sorting.sorted?_isOk_iff answers_less

theorem sorted?_perm (h : sorted? vs = .ok ws) : ws.Perm vs := Sorting.sorted?_perm answers_less h

end Value

end Lending
