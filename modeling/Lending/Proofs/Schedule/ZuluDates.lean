/-
The dates of a schedule document that are written with a final `Z`.

A date of an entry is read as a timestamp with the zone that the document is read with (`dateIn_eq`). So it is one point in
time in every zone exactly if its timestamp does not depend on the zone, and after a final `Z` that fails for a bare day
only. `zulu_dates` states this beside what a final `Z` means in the timestamp itself.
-/
import Mathlib.Tactic
import Lending.Proofs.Document.Reading
import Lending.Proofs.Schedule
import Lending.Proofs.Time.Zulu

namespace Lending

open Timestamp

/-- a date of a range -/
inductive RangeDate
  | start
  | stop
  | due

namespace RangeDate

/-- the name of a date in documents -/
def key : RangeDate → String
  | start => "from"
  | stop => "to"
  | due => "due"

/-- the name of a date in records -/
def recordKey : RangeDate → String
  | start => "from_date"
  | stop => "to_date"
  | due => "due_date"

/-- the date in a range -/
def of : RangeDate → ScheduleRange → DateTime
  | start => ScheduleRange.start
  | stop => ScheduleRange.stop
  | due => ScheduleRange.due

end RangeDate

namespace Schedule

variable {doc v : Value} {k : Nat} {date : RangeDate} {t : Text} {z : Zone} {s : Schedule} {r : ScheduleRange}

/-- each date of a range that is read is what its entry gives as a timestamp -/
theorem entry_of_readRange (h : (readRange v).toExcept = .ok r) (date : RangeDate) :
    ∃ entries w, v.opened = .mapping entries ∧ Reading.entry? entries date.key date.recordKey = some w ∧
      (Reading.timestamp unread w).toExcept = .ok (date.of r) := by
  obtain ⟨entries, hopened, -, -, hfields⟩ := Reading.ofSection_eq_ok.1 h
  simp only [Reading.bind_eq_ok, Reading.pure_eq_ok, Reading.requiredField_eq_ok] at hfields
  obtain ⟨start, ⟨w₁, hw₁, hstart⟩, stop, ⟨w₂, hw₂, hstop⟩, due, ⟨w₃, hw₃, hdue⟩, rfl⟩ := hfields
  cases date with
  | start => exact ⟨entries, w₁, hopened, hw₁, hstart⟩
  | stop => exact ⟨entries, w₂, hopened, hw₂, hstop⟩
  | due => exact ⟨entries, w₃, hopened, hw₃, hdue⟩

theorem of_rangeIn (date : RangeDate) (z : Zone) (r : ScheduleRange) : date.of (rangeIn z r) = (date.of r).ensureAware z := by
  cases date <;> rfl

/-- whether a schedule document writes a text for a date of one of its entries -/
def WritesDate (doc : Value) (k : Nat) (date : RangeDate) (t : Text) : Prop :=
  ∃ fields list items v entries, doc.opened = .mapping fields ∧
    Reading.entry? fields "schedules" "schedules" = some list ∧ list.opened = .list items ∧ items[k]? = some v ∧
      v.opened = .mapping entries ∧ Reading.entry? entries date.key date.recordKey = some (.text t)

/-- a date of an entry of a schedule document that is read with a zone -/
def dateIn (doc : Value) (k : Nat) (date : RangeDate) (z : Zone) : Option DateTime := do
  let s ← (ofDocument doc z).toOption
  let r ← s.ranges[k]?
  return date.of r

theorem ofDocument_eq_ok (hnull : doc ≠ .null) :
    ofDocument doc z = .ok s ↔ ∃ raw, (read doc).toExcept = .ok raw ∧ s = raw.inZone z := by
  unfold ofDocument
  split
  · exact absurd rfl hnull
  · rw [map_eq_ok]
    simp only [eq_comm]

/-- the dates of a document that is read are the timestamps that it writes -/
theorem read_ranges {raw : Schedule} (h : (read doc).toExcept = .ok raw) (hwrites : WritesDate doc k date t) :
    ∃ id name ranges r, raw = configured id name ranges ∧ ranges[k]? = some r ∧ parse t = .ok (date.of r) := by
  obtain ⟨fields, list, items, v, entries, hfields, hlist, hitems, hv, hentries, ht⟩ := hwrites
  obtain ⟨fields', hfields', -, -, hread⟩ := Reading.ofSection_eq_ok.1 h
  cases hfields.symm.trans hfields'
  simp only [Reading.bind_eq_ok, Reading.pure_eq_ok] at hread
  obtain ⟨id, -, name, -, ranges, hranges, rfl⟩ := hread
  rcases Reading.field_eq_ok.1 hranges with ⟨hnone, -⟩ | ⟨list', hlist', hranges⟩
  · rw [hlist] at hnone
    cases hnone
  cases hlist.symm.trans hlist'
  obtain ⟨items', hitems', hall⟩ := Reading.list_eq_ok.1 hranges
  rw [Reading.items?, hitems] at hitems'
  cases hitems'
  obtain ⟨hlt, rfl⟩ := List.getElem?_eq_some_iff.1 hv
  have hlt' : k < ranges.length := hall.length_eq ▸ hlt
  have hrange : (readRange items[k]).toExcept = .ok ranges[k] := hall.get hlt hlt'
  obtain ⟨entries', w, hentries', hw, htimestamp⟩ := entry_of_readRange hrange date
  cases hentries.symm.trans hentries'
  cases ht.symm.trans hw
  exact ⟨id, name, ranges, ranges[k], rfl, List.getElem?_eq_getElem hlt', Reading.timestamp_text_eq_ok.1 htimestamp⟩

/-- a date of an entry is the timestamp, read with the zone of the document -/
theorem dateIn_eq {z₀ : Zone} (h : ofDocument doc z₀ = .ok s) (hwrites : WritesDate doc k date t) (z : Zone) :
    ∃ d, parse t (some z) = .ok d ∧ dateIn doc k date z = some d := by
  have hnull : doc ≠ .null := by
    rintro rfl
    obtain ⟨_, _, _, _, _, hopened, -⟩ := hwrites
    cases hopened
  obtain ⟨raw, hraw, -⟩ := (ofDocument_eq_ok hnull).1 h
  obtain ⟨id, name, ranges, r, rfl, hr, ht⟩ := read_ranges hraw hwrites
  have hz : ofDocument doc z = .ok ((configured id name ranges).inZone z) := (ofDocument_eq_ok hnull).2 ⟨_, hraw, rfl⟩
  refine ⟨(date.of r).ensureAware z, ?_, ?_⟩
  · rw [parse_eq, ht]
    rfl
  · simp [dateIn, hz, Except.toOption, inZone, Schedule.ranges, hr, of_rangeIn]

/-- the clock of Tokyo has always been ahead of UTC -/
theorem zero_lt_offset_tokyo (w : Wall) (fold : Bool) : 0 < Region.tokyo.clock.offset w fold := by
  have hahead : ∀ made ∈ Region.tokyoChanges.inits,
      0 < 33539 * (ticksPerSecond : Int) + made.foldr (·.forward + ·) 0 := by decide +kernel
  exact hahead _ ((List.mem_inits _ _).2 (List.takeWhile_prefix _))

/-- a midnight of Tokyo is not the midnight of UTC -/
theorem instant?_tokyo_ne (w : Wall) :
    DateTime.instant? ⟨w, some (.region .tokyo), false⟩ ≠ DateTime.instant? ⟨w, some .utc, false⟩ := by
  intro heq
  have htokyo : (w.ticks : Int) - Region.tokyo.clock.offset w false = w.ticks - 0 := Option.some.inj heq
  have hahead := zero_lt_offset_tokyo w false
  omega

/-- a date of an entry is one point in time in every zone exactly if its text is no bare day before the final `Z` -/
theorem dateIn_sameInstant_iff {z₀ : Zone} (h : ofDocument doc z₀ = .ok s) (hwrites : WritesDate doc k date t)
    (ht : EndsInZulu t) :
    (∃ instant, ∀ z, (dateIn doc k date z).bind (·.instant?) = some instant) ↔ ¬ IsBareDay t := by
  have hdate := dateIn_eq h hwrites
  obtain ⟨d₀, hd₀, -⟩ := hdate z₀
  obtain ⟨d, hd⟩ := parse_eq_ok_of_zone hd₀
  constructor
  · rintro ⟨instant, hsame⟩ hbare
    obtain ⟨day, hday⟩ := parse_bareDay ht hbare hd
    have hmidnight (z : Zone) : DateTime.instant? ⟨.of day .midnight, some z, false⟩ = some instant := by
      obtain ⟨dz, hdz, hin⟩ := hdate z
      cases hdz.symm.trans (hday (some z))
      have := hsame z
      rwa [hin] at this
    exact instant?_tokyo_ne _ ((hmidnight _).trans (hmidnight _).symm)
  · intro hbare
    obtain ⟨o, ho⟩ := Option.ne_none_iff_exists'.1 (mt (offset?_of_parse ht hd).1.1 hbare)
    refine ⟨d.wall.ticks - o, fun z => ?_⟩
    obtain ⟨dz, hdz, hin⟩ := hdate z
    cases hdz.symm.trans ((parse_independent_iff ht hd).2 hbare (some z))
    rw [hin]
    simp [DateTime.instant?, ho]

/-- **A final `Z` means UTC, but not after a bare day.** A timestamp with a final `Z` gives one date of UTC whatever the
zone it is read with, unless it is a bare day, which is midnight in that zone, or has an offset of its own that a NUL cuts
off. So a date that a schedule document writes with a final `Z` is one point in time in every zone, unless it is a bare
day. -/
theorem zulu_dates {zone : Option Zone} {d₀ : DateTime} (ht : EndsInZulu t) (hread : parse t zone = .ok d₀) :
    ((∃ d, d.offset? = some 0 ∧ ∀ zone, parse t zone = .ok d) ↔ ¬ IsBareDay t ∧ ¬ HasCutOffset t) ∧
      ((∃ d, ∀ zone, parse t zone = .ok d) ↔ ¬ IsBareDay t) ∧
      (IsBareDay t → ∃ day, ∀ zone, parse t zone = .ok ⟨.of day .midnight, zone, false⟩) ∧
      ∀ doc z₀ s k date, ofDocument doc z₀ = .ok s → WritesDate doc k date t →
        ((∃ instant, ∀ z, (dateIn doc k date z).bind (·.instant?) = some instant) ↔ ¬ IsBareDay t) := by
  obtain ⟨d, hd⟩ := parse_eq_ok_of_zone hread
  have hzero := (offset?_of_parse ht hd).2
  have hall := parse_independent_iff ht hd
  refine ⟨?_, ?_, fun hbare => parse_bareDay ht hbare hd, fun doc z₀ s k date h hwrites => ?_⟩
  · constructor
    · rintro ⟨d', hd', hsame⟩
      cases hd.symm.trans (hsame none)
      exact hzero.1 hd'
    · intro hno
      exact ⟨d, hzero.2 hno, hall.2 hno.1⟩
  · constructor
    · rintro ⟨d', hsame⟩
      cases hd.symm.trans (hsame none)
      exact hall.1 hsame
    · intro hbare
      exact ⟨d, hall.2 hbare⟩
  · exact dateIn_sameInstant_iff h hwrites ht

/-- the first half of 2024, from a bare day to a noon, each with a final `Z` -/
def halfYear : Value :=
  .mapping [(.text "schedules", .list [.mapping [(.text "from", .text "2024-01-01Z"), (.text "to", .text "2024-06-30T12:00:00Z"),
    (.text "due", .text " 2024-07-15t12:00:00z ")]])]

theorem isBareDay_newYear : IsBareDay "2024-01-01Z" := by
  have hday : DayText (['2', '0', '2', '4'] ++ (hyphen true ++ (['0', '1'] ++ (hyphen true ++ ['0', '1'])))) :=
    .calendar true (.of_all rfl rfl) (.of_all rfl rfl) (.of_all rfl rfl)
  exact ⟨_, by decide, hday⟩

theorem writesDate_halfYear :
    WritesDate halfYear 0 .start "2024-01-01Z" ∧ WritesDate halfYear 0 .stop "2024-06-30T12:00:00Z" :=
  ⟨⟨_, _, _, _, _, rfl, rfl, rfl, rfl, rfl, rfl⟩, ⟨_, _, _, _, _, rfl, rfl, rfl, rfl, rfl, rfl⟩⟩

/-- of the two ends of a range, the noon is one point in time in every zone and the bare day is not -/
theorem zulu_dates_halfYear :
    let noon : Text := "2024-06-30T12:00:00Z"
    let newYear : Text := "2024-01-01Z"
    EndsInZulu noon ∧ EndsInZulu newYear ∧ (∃ d, parse noon = .ok d) ∧ (∃ d, parse newYear = .ok d) ∧
      (∃ s, ofDocument halfYear .utc = .ok s) ∧ WritesDate halfYear 0 .stop noon ∧ WritesDate halfYear 0 .start newYear ∧
      (∃ d, d.offset? = some 0 ∧ ∀ zone, parse noon zone = .ok d) ∧
      (∃ day, ∀ zone, parse newYear zone = .ok ⟨.of day .midnight, zone, false⟩) ∧
      (∃ instant, ∀ z, (dateIn halfYear 0 .stop z).bind (·.instant?) = some instant) ∧
      ¬ ∃ instant, ∀ z, (dateIn halfYear 0 .start z).bind (·.instant?) = some instant := by
  intro noon newYear
  have hends : EndsInZulu noon := .inl (by decide)
  have hends' : EndsInZulu newYear := .inl (by decide)
  have hbare' : IsBareDay newYear := isBareDay_newYear
  obtain ⟨d, hd, hzero⟩ : ∃ d, parse noon = .ok d ∧ d.offset? = some 0 :=
    ⟨⟨.of ⟨2024, 6, 30, by decide⟩ ⟨43200000000, by decide⟩, some .utc, false⟩, by decide +kernel, rfl⟩
  obtain ⟨d', hd'⟩ : ∃ d, parse newYear = .ok d := ⟨{ DateTime.utcDay 2024 1 1 with zone := none }, by decide +kernel⟩
  obtain ⟨s, hs⟩ : ∃ s, ofDocument halfYear .utc = .ok s := by
    have hok : (ofDocument halfYear .utc).toOption.isSome = true := by decide +kernel
    obtain ⟨s, hs⟩ := Option.isSome_iff_exists.1 hok
    exact ⟨s, toOption_eq_some.1 hs⟩
  obtain ⟨hstart, hstop⟩ := writesDate_halfYear
  have hno := (offset?_of_parse hends hd).2.1 hzero
  obtain ⟨hutc, -, -, hsame⟩ := zulu_dates hends hd
  obtain ⟨-, -, hmidnight, hother⟩ := zulu_dates hends' hd'
  exact ⟨hends, hends', ⟨d, hd⟩, ⟨d', hd'⟩, ⟨s, hs⟩, hstop, hstart, hutc.2 hno, hmidnight hbare',
    (hsame halfYear .utc s 0 .stop hs hstop).2 hno.1, fun h => (hother halfYear .utc s 0 .start hs hstart).1 h hbare'⟩

/-- a bare day with a final `Z` has no zone of its own, and is another point in time in Berlin than in UTC -/
theorem bareDay_berlin :
    let newYear : Text := "2024-01-01Z"
    let midnight := DateTime.utcDay 2024 1 1
    EndsInZulu newYear ∧ parse newYear = .ok { midnight with zone := none } ∧
      parse newYear (some (.region .berlin)) = .ok { midnight with zone := some (.region .berlin) } ∧
      parse newYear (some .utc) = .ok midnight ∧
      DateTime.instant? { midnight with zone := some (.region .berlin) } ≠ midnight.instant? := by
  intro newYear midnight
  exact ⟨.inl (by decide), by decide +kernel, by decide +kernel, by decide +kernel, by decide +kernel⟩

end Schedule

end Lending
