/-
The schemas of policy documents.

A document that does not satisfy its schema may still be readable: the schema is stricter about types and names.
-/
import Lending.Document.Schema

namespace Lending

namespace Schema

def text : Schema := [.type .string]

def flag : Schema := [.type .boolean]

/-- a text out of a list -/
def choice (options : List String) : Schema := [.type .string, .choices options]

/-- a whole number that is not less than a bound -/
def wholeFrom (n : Int) : Schema := [.type .integer, .minimum n]

/-- a mapping with demands on its fields -/
def object (fields : List (String × List Keyword)) : Schema := [.type .object, .properties fields]

def period : Schema :=
  object [("duration", wholeFrom 1), ("intervalId", choice ["Minutes", "Hours", "Days", "Weeks", "Months"])]

def loansSection : Schema :=
  object [
    ("profileId", choice ["Rolling", "Fixed"]),
    ("period", period),
    ("fixedDueDateScheduleId", text),
    ("closedLibraryDueDateManagementId", text),
    ("openingTimeOffset", period)]

def renewalsSection : Schema :=
  object [
    ("unlimited", flag),
    ("numberAllowed", wholeFrom 0),
    ("renewFromId", choice ["SYSTEM_DATE", "CURRENT_DUE_DATE"]),
    ("differentPeriod", flag),
    ("period", period),
    ("alternateFixedDueDateScheduleId", text)]

def requestsSection : Schema :=
  object [
    ("holds", object [("alternateCheckoutLoanPeriod", period)]),
    ("recalls", object [("minimumGuaranteedLoanPeriod", period), ("recallReturnInterval", period)])]

/-- the schema of loan policy documents -/
def loanPolicy : Schema := [
  .type .object,
  .required ["id", "name", "loanable"],
  .properties [
    ("id", text),
    ("name", text),
    ("description", text),
    ("loanable", flag),
    ("renewable", flag),
    ("loansPolicy", loansSection),
    ("renewalsPolicy", renewalsSection),
    ("requestManagement", requestsSection)]]

/-- the schema of schedule documents -/
def schedule : Schema := [
  .type .object,
  .required ["id", "schedules"],
  .properties [
    ("id", text),
    ("name", text),
    ("schedules", [.type .array, .items [.type .object, .required ["from", "to", "due"]]])]]

/-- the schema of request policy documents -/
def requestPolicy : Schema := [
  .type .object,
  .required ["id", "requestTypes"],
  .properties [
    ("id", text),
    ("name", text),
    ("requestTypes", [.type .array, .items [.choices ["Hold", "Page", "Recall"]]])]]

end Schema

end Lending
