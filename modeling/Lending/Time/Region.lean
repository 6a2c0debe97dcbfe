/-
Regions and their clocks.

The clock of a region is what the zone database says of it for all years: it begins with the mean time of the place, and its
later changes are listed one by one or, where a rule held for some years, by the rule. The rule of the present day goes on to
the end of the calendar. The regions are a choice from the database.
-/
import Lending.Time.Clock

namespace Lending

/-- a region with one clock -/
inductive Region
  | gmt
  | universal
  | berlin
  | newYork
  | kolkata
  | tokyo
  | sydney
deriving DecidableEq

namespace Region

/-- the name of a region in the zone database -/
def name : Region → String
  | gmt => "GMT"
  | universal => "Etc/UTC"
  | berlin => "Europe/Berlin"
  | newYork => "America/New_York"
  | kolkata => "Asia/Kolkata"
  | tokyo => "Asia/Tokyo"
  | sydney => "Australia/Sydney"

def all : List Region := [gmt, universal, berlin, newYork, kolkata, tokyo, sydney]

open ClockChange

/-! ## Changes -/

/-- Berlin before yearly summer time; in 1945 and 1947 the clock was put forward twice -/
def berlinBefore1981 : List ClockChange :=
  [on 1893 4 1 0 392,
    forwardOn 1916 4 30 23, backOn 1916 10 1 1, forwardOn 1917 4 16 2, backOn 1917 9 17 3,
    forwardOn 1918 4 15 2, backOn 1918 9 16 3, forwardOn 1940 4 1 2, backOn 1942 11 2 3,
    forwardOn 1943 3 29 2, backOn 1943 10 4 3, forwardOn 1944 4 3 2, backOn 1944 10 2 3,
    forwardOn 1945 4 2 2, forwardOn 1945 5 24 2, backOn 1945 9 24 3, backOn 1945 11 18 3,
    forwardOn 1946 4 14 2, backOn 1946 10 7 3,
    forwardOn 1947 4 6 3, forwardOn 1947 5 11 3, backOn 1947 6 29 3, backOn 1947 10 5 3,
    forwardOn 1948 4 18 2, backOn 1948 10 3 3, forwardOn 1949 4 10 2, backOn 1949 10 2 3,
    forwardOn 1980 4 6 2, backOn 1980 9 28 3]

def berlinChanges : List ClockChange :=
  berlinBefore1981 ++
    yearly [⟨.last, 3, 2, 1⟩, ⟨.last, 9, 3, -1⟩] 1981 1995 ++
    yearly [⟨.last, 3, 2, 1⟩, ⟨.last, 10, 3, -1⟩] 1996 9999

/-- New York in wartime, and in 1974 and 1975 -/
def newYorkWartime : List ClockChange := [forwardOn 1942 2 9 2, backOn 1945 9 30 2]

def newYorkSeventies : List ClockChange :=
  [forwardOn 1974 1 6 2, backOn 1974 10 27 2, forwardOn 1975 2 23 2, backOn 1975 10 26 2]

def newYorkChanges : List ClockChange :=
  [on 1883 11 18 43438 (-238)] ++
    yearly [⟨.last, 3, 2, 1⟩, ⟨.last, 10, 2, -1⟩] 1918 1920 ++
    yearly [⟨.last, 4, 2, 1⟩, ⟨.last, 9, 2, -1⟩] 1921 1941 ++
    newYorkWartime ++
    yearly [⟨.last, 4, 2, 1⟩, ⟨.last, 9, 2, -1⟩] 1946 1954 ++
    yearly [⟨.last, 4, 2, 1⟩, ⟨.last, 10, 2, -1⟩] 1955 1973 ++
    newYorkSeventies ++
    yearly [⟨.last, 4, 2, 1⟩, ⟨.last, 10, 2, -1⟩] 1976 1986 ++
    yearly [⟨.first, 4, 2, 1⟩, ⟨.last, 10, 2, -1⟩] 1987 2006 ++
    yearly [⟨.second, 3, 2, 1⟩, ⟨.first, 11, 2, -1⟩] 2007 9999

def kolkataChanges : List ClockChange :=
  [on 1854 6 28 0 (-8), on 1870 1 1 0 (-1930), on 1906 1 1 0 530,
    forwardOn 1941 10 1 0, backOn 1942 5 15 0, forwardOn 1942 9 1 0, backOn 1945 10 15 0]

def tokyoChanges : List ClockChange :=
  [on 1888 1 1 1139 (-1139),
    forwardOn 1948 5 2 0, backOn 1948 9 12 1, forwardOn 1949 4 3 0, backOn 1949 9 11 1,
    forwardOn 1950 5 7 0, backOn 1950 9 10 1, forwardOn 1951 5 6 0, backOn 1951 9 9 1]

/-- Sydney before yearly summer time -/
def sydneyBefore1973 : List ClockChange :=
  [on 1895 2 1 0 (-292),
    forwardOn 1917 1 1 2, backOn 1917 3 25 3, forwardOn 1942 1 1 2, backOn 1942 3 29 3,
    forwardOn 1942 9 27 2, backOn 1943 3 28 3, forwardOn 1943 10 3 2, backOn 1944 3 26 3,
    forwardOn 1971 10 31 2, backOn 1972 2 27 3, forwardOn 1972 10 29 2]

def sydneyChanges : List ClockChange :=
  sydneyBefore1973 ++
    yearly [⟨.first, 3, 3, -1⟩, ⟨.last, 10, 2, 1⟩] 1973 1981 ++
    yearly [⟨.first, 4, 3, -1⟩, ⟨.last, 10, 2, 1⟩] 1982 1982 ++
    yearly [⟨.first, 3, 3, -1⟩, ⟨.last, 10, 2, 1⟩] 1983 1985 ++
    yearly [⟨.third, 3, 3, -1⟩, ⟨.third, 10, 2, 1⟩] 1986 1986 ++
    yearly [⟨.third, 3, 3, -1⟩, ⟨.last, 10, 2, 1⟩] 1987 1989 ++
    yearly [⟨.first, 3, 3, -1⟩, ⟨.last, 10, 2, 1⟩] 1990 1995 ++
    yearly [⟨.last, 3, 3, -1⟩, ⟨.last, 10, 2, 1⟩] 1996 1999 ++
    yearly [⟨.last, 3, 3, -1⟩, ⟨.last, 8, 2, 1⟩] 2000 2000 ++
    yearly [⟨.last, 3, 3, -1⟩, ⟨.last, 10, 2, 1⟩] 2001 2005 ++
    yearly [⟨.first, 4, 3, -1⟩, ⟨.last, 10, 2, 1⟩] 2006 2006 ++
    yearly [⟨.last, 3, 3, -1⟩, ⟨.last, 10, 2, 1⟩] 2007 2007 ++
    yearly [⟨.first, 4, 3, -1⟩, ⟨.first, 10, 2, 1⟩] 2008 9999

/-! ## Clocks -/

theorem berlinChanges_inOrder : InOrder 0 berlinChanges (dayCount * ticksPerDay : Nat) := by
  have hbefore : InOrder 0 berlinBefore1981 (yearStart 1981) := by decide +kernel
  exact (hbefore.append_yearly (by decide) (by decide)).append_yearly (by decide) (by decide)

theorem newYorkChanges_inOrder : InOrder 0 newYorkChanges (dayCount * ticksPerDay : Nat) := by
  have hfirst : InOrder 0 [on 1883 11 18 43438 (-238)] (yearStart 1918) := by decide +kernel
  have hwartime : InOrder (yearStart 1942) newYorkWartime (yearStart 1946) := by decide +kernel
  have hseventies : InOrder (yearStart 1974) newYorkSeventies (yearStart 1976) := by decide +kernel
  unfold newYorkChanges
  -- from the last years back to the first
  repeat refine .append_yearly ?_ (by decide) (by decide)
  refine .append ?_ hseventies
  repeat refine .append_yearly ?_ (by decide) (by decide)
  refine .append ?_ hwartime
  repeat refine .append_yearly ?_ (by decide) (by decide)
  exact hfirst

theorem kolkataChanges_inOrder : InOrder 0 kolkataChanges (dayCount * ticksPerDay : Nat) := by decide +kernel

theorem tokyoChanges_inOrder : InOrder 0 tokyoChanges (dayCount * ticksPerDay : Nat) := by decide +kernel

theorem sydneyChanges_inOrder : InOrder 0 sydneyChanges (dayCount * ticksPerDay : Nat) := by
  have hbefore : InOrder 0 sydneyBefore1973 (yearStart 1973) := by decide +kernel
  unfold sydneyChanges
  repeat refine .append_yearly ?_ (by decide) (by decide)
  exact hbefore

/-- a clock that always shows UTC -/
def universalClock : Clock := ⟨0, [], Int.natCast_nonneg _⟩

/-- the clock of a region -/
def clock : Region → Clock
  | gmt | universal => universalClock
  | berlin => ⟨3208 * ticksPerSecond, berlinChanges, berlinChanges_inOrder⟩
  | newYork => ⟨-17762 * ticksPerSecond, newYorkChanges, newYorkChanges_inOrder⟩
  | kolkata => ⟨21208 * ticksPerSecond, kolkataChanges, kolkataChanges_inOrder⟩
  | tokyo => ⟨33539 * ticksPerSecond, tokyoChanges, tokyoChanges_inOrder⟩
  | sydney => ⟨36292 * ticksPerSecond, sydneyChanges, sydneyChanges_inOrder⟩

/-- in a week in which the rules of 2006 and of 2007 differ, the clock of New York went by the former -/
example : newYork.clock.offset (.of ⟨2006, 11, 1, by decide⟩ .midnight) false = -5 * ticksPerHour := by decide +kernel

end Region

end Lending
