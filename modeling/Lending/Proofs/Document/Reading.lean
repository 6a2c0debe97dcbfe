/-
When a section of a document is read.

A reading counts if no problem was met on the way, so joined readings count exactly if each of them does
(`bind_eq_ok`). The lemmas of this module say for each way of reading when it gives a value, in terms of the entries of the
section; every key of a section that is read is a text (`ofSection_eq_ok`).
-/
import Mathlib.Tactic
import Lending.Document.Section
import Lending.Proofs.Outcome

namespace Lending

namespace Reading

instance : LawfulMonad Reading :=
  LawfulMonad.mk' Reading (fun x => by simp [Functor.map]) (fun _ _ => rfl) (fun _ _ _ => by simp [bind])

variable {α β : Type} {entries : List (Value × Value)} {name recordName : String} {absent : α} {a : α}
  {read : Value → Reading α} {v : Value}

theorem toExcept_eq_ok {r : Reading α} : r.toExcept = .ok a ↔ r.problems = [] ∧ r.value = a := by
  unfold toExcept
  cases h : r.problems <;> simp

theorem bind_eq_ok {x : Reading α} {f : α → Reading β} {b : β} :
    (x >>= f).toExcept = .ok b ↔ ∃ a, x.toExcept = .ok a ∧ (f a).toExcept = .ok b := by
  have hproblems : (x >>= f).problems = x.problems ++ (f x.value).problems := rfl
  have hvalue : (x >>= f).value = (f x.value).value := rfl
  simp only [toExcept_eq_ok, hproblems, hvalue, List.append_eq_nil_iff]
  constructor
  · rintro ⟨⟨hx, hf⟩, rfl⟩
    exact ⟨x.value, ⟨hx, rfl⟩, hf, rfl⟩
  · rintro ⟨a, ⟨hx, rfl⟩, hf, rfl⟩
    exact ⟨⟨hx, hf⟩, rfl⟩

theorem pure_eq_ok {b : α} : (pure a : Reading α).toExcept = .ok b ↔ a = b :=
  ⟨Except.ok.inj, congrArg Except.ok⟩

theorem issue_ne_ok {i : ReadIssue} {b : α} : (issue i absent).toExcept ≠ .ok b := nofun

theorem under_eq_ok {s : Step} {r : Reading α} : (r.under s).toExcept = .ok a ↔ r.toExcept = .ok a := by
  simp only [toExcept_eq_ok, under, List.map_eq_nil_iff]

/-! ## Fields -/

/-- a field that may be left out is what its entry gives, if there is one -/
theorem field_eq_ok :
    (field entries name recordName absent read).toExcept = .ok a ↔
      entry? entries name recordName = none ∧ a = absent ∨
        ∃ w, entry? entries name recordName = some w ∧ (read w).toExcept = .ok a := by
  unfold field
  cases entry? entries name recordName with
  | none => simpa using pure_eq_ok.trans eq_comm
  | some w => simp [under_eq_ok]

/-- a field that must be there is what its entry gives -/
theorem requiredField_eq_ok :
    (requiredField entries name recordName absent read).toExcept = .ok a ↔
      ∃ w, entry? entries name recordName = some w ∧ (read w).toExcept = .ok a := by
  unfold requiredField
  cases entry? entries name recordName with
  | none => simpa [under_eq_ok] using issue_ne_ok
  | some w => simp [under_eq_ok]

theorem optional_eq_ok {o : Option α} :
    (optional read v).toExcept = .ok o ↔
      v = .null ∧ o = none ∨ v ≠ .null ∧ ∃ a, (read v).toExcept = .ok a ∧ some a = o := by
  unfold optional
  split
  · simpa using pure_eq_ok.trans eq_comm
  · next h =>
    have hne : v ≠ .null := h
    simp only [bind_eq_ok, pure_eq_ok, hne, false_and, ne_eq, not_false_eq_true, true_and, false_or]

/-- the text that a value gives where one is asked for: its own, or that of its bytes -/
def textIn? : Value → Option Text
  | .text t => some t
  | .bytes bs => (Text.Utf8.decode bs).toOption.map .ofChars
  | _ => none

theorem ofBytes_eq_ok {bs : List UInt8} {read : Text → Reading α} {i : ReadIssue} :
    (ofBytes bs read i absent).toExcept = .ok a ↔
      ∃ cs, Text.Utf8.decode bs = .ok cs ∧ (read (.ofChars cs)).toExcept = .ok a := by
  unfold ofBytes
  cases Text.Utf8.decode bs with
  | ok cs => simp only [Except.ok.injEq, exists_eq_left']
  | error f => exact iff_of_false issue_ne_ok nofun

theorem text_eq_ok {t : Text} : (text v).toExcept = .ok t ↔ textIn? v = some t := by
  unfold text
  split
  · rw [pure_eq_ok, textIn?, Option.some.injEq]
  · simp only [ofBytes_eq_ok, pure_eq_ok, textIn?, Option.map_eq_some_iff, toOption_eq_some]
  · next htext hbytes =>
    refine iff_of_false issue_ne_ok fun h => ?_
    unfold textIn? at h
    split at h
    · exact htext _ rfl
    · exact hbytes _ rfl
    · cases h

theorem mapM_zipIdx_eq_ok {items : List Value} {as : List α} (n : Nat) :
    ((items.zipIdx n).mapM fun ((w, i) : Value × Nat) => (read w).under (.index i)).toExcept = .ok as ↔
      List.Forall₂ (fun w a => (read w).toExcept = .ok a) items as := by
  induction items generalizing n as with
  | nil => simp [pure_eq_ok]
  | cons w items ih =>
    simp only [List.zipIdx_cons, List.mapM_cons, bind_eq_ok, pure_eq_ok, under_eq_ok, ih]
    constructor
    · rintro ⟨a, hw, as, hitems, rfl⟩
      exact .cons hw hitems
    · intro h
      cases h with
      | cons hw hitems => exact ⟨_, hw, _, hitems, rfl⟩

/-- a list is read if each of its items is -/
theorem list_eq_ok {as : List α} :
    (list read v).toExcept = .ok as ↔
      ∃ items, items? v = some items ∧ List.Forall₂ (fun w a => (read w).toExcept = .ok a) items as := by
  unfold list
  cases items? v with
  | none => exact iff_of_false issue_ne_ok nofun
  | some items =>
    rw [mapM_zipIdx_eq_ok]
    simp only [Option.some.injEq, exists_eq_left']

/-- a text is read as a timestamp if one can be parsed from it -/
theorem timestamp_text_eq_ok {t : Text} {absent d : DateTime} :
    (timestamp absent (.text t)).toExcept = .ok d ↔ Timestamp.parse t = .ok d := by
  have hshown : (Value.text t).shown.bind (Timestamp.parse ·) = Timestamp.parse t := rfl
  simp only [timestamp, hshown]
  cases Timestamp.parse t with
  | error f => exact iff_of_false issue_ne_ok nofun
  | ok e => simpa using pure_eq_ok

/-! ## Sections -/

/-- whether a value is a text -/
def IsText (v : Value) : Prop := ∃ t, v = .text t

/-- keys are in their place in a section exactly if they are texts -/
theorem otherKeys_eq_ok {u : Unit} : (otherKeys entries).toExcept = .ok u ↔ ∀ e ∈ entries, IsText e.1 := by
  unfold otherKeys
  simp only [toExcept_eq_ok, List.filterMap_eq_nil_iff, and_true]
  refine forall₂_congr fun e _ => ?_
  unfold IsText
  cases e.1 <;> simp

/-- a section is read if it is a mapping whose keys are strings and whose fields can be read -/
theorem ofSection_eq_ok {fields : List (Value × Value) → Reading α} :
    (ofSection absent fields v).toExcept = .ok a ↔
      ∃ entries, v.opened = .mapping entries ∧ (∀ e ∈ entries, isBroken e.1 = false) ∧
        (∀ e ∈ entries, IsText e.1) ∧ (fields entries).toExcept = .ok a := by
  unfold ofSection
  split
  · next entries hv =>
    by_cases hbroken : (entries.any fun e => isBroken e.1) = true
    · rw [if_pos hbroken]
      obtain ⟨e, he, hkey⟩ := List.any_eq_true.1 hbroken
      constructor
      · exact fun h => absurd h issue_ne_ok
      · rintro ⟨_, hopened, hwhole, -⟩
        cases hv.symm.trans hopened
        rw [hwhole e he] at hkey
        cases hkey
    · have hwhole : ∀ e ∈ entries, isBroken e.1 = false := by simpa using hbroken
      rw [if_neg hbroken]
      simp only [bind_eq_ok, pure_eq_ok, otherKeys_eq_ok]
      constructor
      · rintro ⟨b, hfields, -, hkeys, rfl⟩
        exact ⟨entries, hv, hwhole, hkeys, hfields⟩
      · rintro ⟨_, hopened, -, hkeys, hfields⟩
        cases hv.symm.trans hopened
        exact ⟨a, hfields, (), hkeys, rfl⟩
  · next hv =>
    constructor
    · exact fun h => absurd h issue_ne_ok
    · rintro ⟨entries, hopened, -⟩
      exact absurd hopened (hv entries)

end Reading

end Lending
