/-
The order of dates.

Dates of one zone, or of none, have the order of their wall clocks (`before_of_zone_eq`, `notAfter_of_zone_eq`). Dates with
a zone always have an order (`before_eq`, `notAfter_eq`). What is added to a date leaves its zone alone.
-/
import Lending.Loan
import Lending.Period.Delta
import Lending.Proofs.Outcome

namespace Lending

namespace DateTime

/-- one date is before another or at the same time, and their order is known -/
def NotAfter (a b : DateTime) : Prop := a.notAfter b = .ok true

instance (a b : DateTime) : Decidable (a.NotAfter b) := by unfold NotAfter; infer_instance

/-- one date is before another, and their order is known -/
def Before (a b : DateTime) : Prop := a.before b = .ok true

instance (a b : DateTime) : Decidable (a.Before b) := by unfold Before; infer_instance

theorem exists_zone_of_isAware {d : DateTime} (h : d.isAware = true) : ∃ z, d.zone = some z :=
  Option.isSome_iff_exists.1 h

/-! ## Any two dates -/

/-- two dates that have an order have it either way round -/
theorem keys_swap {a b : DateTime} {i j : Int} (h : keys a b = .ok (i, j)) : keys b a = .ok (j, i) := by
  unfold keys at h ⊢
  by_cases hz : a.zone = b.zone
  · rw [if_pos hz] at h
    cases h
    exact if_pos hz.symm
  · rw [if_neg hz] at h
    rw [if_neg (Ne.symm hz)]
    cases hi : a.instant? <;> cases hj : b.instant? <;> simp_all

theorem notAfter_eq_ok {a b : DateTime} {known : Bool} :
    a.notAfter b = .ok known ↔ ∃ i j, keys a b = .ok (i, j) ∧ known = decide (i ≤ j) := by
  rcases h : keys a b with f | ⟨i, j⟩ <;> simp [notAfter, h, eq_comm]

theorem before_eq_ok {a b : DateTime} {known : Bool} :
    a.before b = .ok known ↔ ∃ i j, keys a b = .ok (i, j) ∧ known = decide (i < j) := by
  rcases h : keys a b with f | ⟨i, j⟩ <;> simp [before, h, eq_comm]

/-- a date is known not to be before another or at the same time exactly if it is known to be after it -/
theorem notAfter_eq_false_iff {a b : DateTime} : a.notAfter b = .ok false ↔ b.Before a := by
  simp only [Before, notAfter_eq_ok, before_eq_ok]
  constructor
  · rintro ⟨i, j, h, hlt⟩
    exact ⟨j, i, keys_swap h, by simp at hlt ⊢; omega⟩
  · rintro ⟨j, i, h, hlt⟩
    exact ⟨i, j, keys_swap h, by simp at hlt ⊢; omega⟩

/-- a date is known not to be before another exactly if the other is known not to be after it -/
theorem before_eq_false_iff {a b : DateTime} : a.before b = .ok false ↔ b.NotAfter a := by
  simp only [NotAfter, notAfter_eq_ok, before_eq_ok]
  constructor
  · rintro ⟨i, j, h, hle⟩
    exact ⟨j, i, keys_swap h, by simp at hle ⊢; omega⟩
  · rintro ⟨j, i, h, hle⟩
    exact ⟨i, j, keys_swap h, by simp at hle ⊢; omega⟩

theorem notAfter_refl (d : DateTime) : d.NotAfter d := by
  simp [NotAfter, notAfter, keys]

theorem Before.notAfter {a b : DateTime} (h : a.Before b) : a.NotAfter b := by
  obtain ⟨i, j, hkeys, hlt⟩ := before_eq_ok.1 h
  exact notAfter_eq_ok.2 ⟨i, j, hkeys, by simp at hlt ⊢; omega⟩

theorem NotAfter.not_before {a b : DateTime} (h : a.NotAfter b) : ¬ b.Before a := fun hb => by
  have hnot := before_eq_false_iff.2 h
  rw [hb] at hnot
  cases hnot

theorem before_of_zone_eq {a b : DateTime} (h : a.zone = b.zone) : a.Before b ↔ a.wall.ticks < b.wall.ticks := by
  simp [Before, before, keys, h]

theorem notAfter_of_zone_eq {a b : DateTime} (h : a.zone = b.zone) : a.NotAfter b ↔ a.wall.ticks ≤ b.wall.ticks := by
  simp [NotAfter, notAfter, keys, h]

theorem keys_of_zone_ne {a b : DateTime} (h : a.zone ≠ b.zone) {i j : Int} :
    keys a b = .ok (i, j) ↔ a.instant? = some i ∧ b.instant? = some j := by
  rw [keys, if_neg h]
  cases a.instant? <;> cases b.instant? <;> simp

/-- of two dates that have an order, both have a zone or none has -/
theorem isAware_eq_of_keys {a b : DateTime} {i j : Int} (h : keys a b = .ok (i, j)) : a.isAware = b.isAware := by
  by_cases hz : a.zone = b.zone
  · rw [isAware, isAware, hz]
  · obtain ⟨hi, hj⟩ := (keys_of_zone_ne hz).1 h
    cases ha : a.zone with
    | none => simp [instant?, offset?, ha] at hi
    | some y =>
      cases hb : b.zone with
      | none => simp [instant?, offset?, hb] at hj
      | some z => simp [isAware, ha, hb]

/-! ## Dates with a zone -/

/-- two dates with a zone have an order -/
theorem exists_keys {a b : DateTime} (ha : a.isAware = true) (hb : b.isAware = true) : ∃ i j, keys a b = .ok (i, j) := by
  obtain ⟨y, hy⟩ := exists_zone_of_isAware ha
  obtain ⟨z, hz⟩ := exists_zone_of_isAware hb
  by_cases h : a.zone = b.zone
  · exact ⟨a.wall.ticks, b.wall.ticks, if_pos h⟩
  · refine ⟨a.wall.ticks - y.offsetTicks a.wall a.fold, b.wall.ticks - z.offsetTicks b.wall b.fold, ?_⟩
    simp only [keys, if_neg h]
    simp [instant?, offset?, hy, hz]

theorem before_eq {a b : DateTime} (ha : a.isAware = true) (hb : b.isAware = true) :
    a.before b = .ok (decide (a.Before b)) := by
  obtain ⟨i, j, h⟩ := exists_keys ha hb
  simp [Before, before, h]

theorem notAfter_eq {a b : DateTime} (ha : a.isAware = true) (hb : b.isAware = true) :
    a.notAfter b = .ok (decide (a.NotAfter b)) := by
  obtain ⟨i, j, h⟩ := exists_keys ha hb
  simp [NotAfter, notAfter, h]

theorem not_notAfter {a b : DateTime} (ha : a.isAware = true) (hb : b.isAware = true) :
    ¬ a.NotAfter b ↔ b.Before a := by
  rw [← notAfter_eq_false_iff, notAfter_eq ha hb]
  simp

/-! ## Dates in UTC -/

/-- a date whose zone is UTC -/
def InUtc (d : DateTime) : Prop := d.zone = some .utc

instance (d : DateTime) : Decidable d.InUtc := by unfold InUtc; infer_instance

theorem InUtc.isAware {d : DateTime} (h : d.InUtc) : d.isAware = true := by
  rw [DateTime.isAware, h]
  rfl

theorem InUtc.before_iff {a b : DateTime} (ha : a.InUtc) (hb : b.InUtc) :
    a.Before b ↔ a.wall.ticks < b.wall.ticks :=
  before_of_zone_eq (ha.trans hb.symm)

theorem InUtc.notAfter_iff {a b : DateTime} (ha : a.InUtc) (hb : b.InUtc) :
    a.NotAfter b ↔ a.wall.ticks ≤ b.wall.ticks :=
  notAfter_of_zone_eq (ha.trans hb.symm)

/-- the first moment of a day in UTC -/
def utcDay (year month day : Nat) (h : IsDay year month day := by decide) : DateTime :=
  ⟨.of ⟨year, month, day, h⟩ .midnight, some .utc, false⟩

/-! ## Later dates -/

theorem shift_zone {d d' : DateTime} {n : Int} (h : d.shift n = .ok d') : d'.zone = d.zone := by
  unfold shift at h
  split at h
  · cases h
    rfl
  · cases h

end DateTime

theorem Delta.addTo_zone {s : Delta} {d d' : DateTime} (h : s.addTo d = .ok d') : d'.zone = d.zone := by
  simp only [addTo, bind_eq_ok] at h
  obtain ⟨w, -, n, -, h⟩ := h
  rw [DateTime.shift_zone h]

end Lending
