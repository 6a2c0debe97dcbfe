/-
Settings from the environment.

A setting that is missing or blank takes its default; an unknown time zone counts as UTC and is logged.
-/
import Lending.Event
import Lending.Path
import Lending.Text.Blank
import Lending.Text.Caseless

namespace Lending

/-- the zone with a name, UTC for none -/
def Zone.resolve (name : Text) : Logged Zone :=
  let name := name.trim
  if name.isEmpty || name.upper = "UTC" then return Zone.utc
  else match name.string?.bind Zone.ofName? with
    | some z => return z
    | none => do
      Logged.log (.zoneUnknown name)
      return Zone.utc

/-- the name of a zone -/
def Zone.text : Zone → String
  | .fixed o => if o.ticks = 0 then "UTC" else "UTC" ++ String.ofList (Timestamp.offsetChars o.ticks)
  | .region r => r.name

/-- what was set for the program -/
structure Settings where
  timezone : Text := "UTC"
  policyDir : Option Path := none
  strict : Bool := false
  debug : Bool := false
deriving DecidableEq

namespace Settings

/-- a switch in words, or the default for anything else -/
def switch (value : Option Text) (default : Bool) : Bool :=
  match value.bind (·.trim.lower.string?) with
  | none => default
  | some word =>
    if ["1", "true", "yes", "on"].contains word then true
    else if ["0", "false", "no", "off"].contains word then false
    else default

/-- a text that is not blank -/
def unlessBlank (t : Text) : Option Text := if t.trim.isEmpty then none else some t

/-- the settings in an environment, which gives a value for each name that is set and the home directory of each user -/
def ofEnvironment (home? : String → Option String) (valueOf? : String → Option Text) : Except Fault Settings := do
  let folder := ((valueOf? "POLICY_DIR").bind unlessBlank).bind (·.string?)
  let dir ← folder.mapM fun s => (Path.of s).expandHome home?
  return {
    timezone := (((valueOf? "TIMEZONE").bind unlessBlank).map Text.trim).getD "UTC"
    policyDir := dir
    strict := switch (valueOf? "STRICT_POLICY_SCHEMA") false
    debug := switch (valueOf? "DEBUG") false }

/-- the zone of dates that have none -/
def zone (s : Settings) : Logged Zone := Zone.resolve s.timezone

end Settings

end Lending
