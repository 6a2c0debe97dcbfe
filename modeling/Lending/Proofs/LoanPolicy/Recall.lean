/-
What a recall does to a due date.

A recall sets the due date to the later of the date guaranteed to the borrower and the date by which the item is wanted
back (`callBack_eq_ok`). The due date that the loan had plays no part, so a recall keeps within the later of the old due
date and the guarantee exactly if the item is wanted back by then, alone and in a run (`callBack_bounded_iff`).
-/
import Lending.Proofs.LoanPolicy.Renewal

namespace Lending

/-! ## The later of two dates -/

/-- the later of two dates, of which the first may be missing -/
def laterOf (first : Option DateTime) (second : DateTime) : DateTime :=
  match first with
  | none => second
  | some d => if d.Before second then second else d

/-- whether a date, if there is one, is in UTC -/
def UtcIfAny (d : Option DateTime) : Prop := ∀ x, d = some x → x.InUtc

theorem utcIfAny_none : UtcIfAny none := fun _ h => by cases h

theorem utcIfAny_some {d : DateTime} (h : d.InUtc) : UtcIfAny (some d) := fun x hx => by
  cases hx
  exact h

theorem UtcIfAny.zoned {d : Option DateTime} (h : UtcIfAny d) : Zoned d := fun x hx => (h x hx).isAware

variable {first : Option DateTime} {second bound : DateTime}

theorem laterOf_inUtc (hf : UtcIfAny first) (hs : second.InUtc) : (laterOf first second).InUtc := by
  unfold laterOf
  split
  · exact hs
  · next d =>
    split
    · exact hs
    · exact hf d rfl

/-- the later of two dates is within a bound that holds for the first if the second is -/
theorem laterOf_notAfter_iff (hf : UtcIfAny first) (hs : second.InUtc) (hb : bound.InUtc)
    (hfirst : ∀ d, first = some d → d.NotAfter bound) :
    (laterOf first second).NotAfter bound ↔ second.NotAfter bound := by
  unfold laterOf
  split
  · rfl
  · next d =>
    have hd := hf d rfl
    have hle := (hd.notAfter_iff hb).1 (hfirst d rfl)
    split
    · rfl
    · next hnot =>
      rw [hd.before_iff hs] at hnot
      rw [hd.notAfter_iff hb, hs.notAfter_iff hb]
      omega

theorem laterOf_isAware (hf : Zoned first) (hs : second.isAware = true) : (laterOf first second).isAware = true := by
  unfold laterOf
  split
  · exact hs
  · next d =>
    split
    · exact hs
    · exact hf d rfl

/-- the first of two dates is not after the later of them -/
theorem notAfter_laterOf : ∀ d, first = some d → d.NotAfter (laterOf first second) := by
  rintro d rfl
  simp only [laterOf]
  split_ifs with hlt
  · exact hlt.notAfter
  · exact d.notAfter_refl

theorem second_notAfter_laterOf (hf : Zoned first) (hs : second.isAware = true) :
    second.NotAfter (laterOf first second) := by
  cases first with
  | none => exact second.notAfter_refl
  | some d =>
    simp only [laterOf]
    split_ifs with hlt
    · exact second.notAfter_refl
    · by_contra hnot
      exact hlt ((DateTime.not_notAfter hs (hf d rfl)).1 hnot)

namespace LoanPolicy

variable {p : LoanPolicy} {l l' : Loan} {now old due wanted : DateTime}

theorem laterDate_eq (hf : Zoned first) (hs : second.isAware = true) :
    laterDate first (some second) = .ok (some (laterOf first second)) := by
  cases first with
  | none => rfl
  | some d =>
    simp only [laterDate, laterOf, DateTime.before_eq (hf d rfl) hs]
    by_cases h : d.Before second
    · simp [h]
    · simp [h]

/-! ## One recall -/

/-- the date guaranteed to the borrower, if there is one -/
def guarantee (p : LoanPolicy) (l : Loan) : Option DateTime :=
  match p.guaranteedDate l with
  | .ok (.ok g) => g
  | _ => none

/-- a recall at a time succeeds and wants the item back by a date -/
structure RecallsBy (p : LoanPolicy) (l : Loan) (now wanted : DateTime) : Prop where
  succeeds : (p.callBack l (some now)).value.isOk = true
  wanted_eq : p.returnDate (some now) = .ok (.ok (some wanted))

/-- a loan with its due date, its dates all in UTC -/
structure UtcLoan (l : Loan) (due : DateTime) : Prop where
  dueDate_eq : l.dueDate = some due
  due_inUtc : due.InUtc
  loanDate_inUtc : UtcIfAny l.loanDate

theorem recallDate_eq_ok {period : Option Period} {field : String} {base default found : Option DateTime} :
    p.recallDate period field base default = .ok (.ok found) ↔
      (period = none ∧ default = found) ∨
        ∃ q d, period = some q ∧ q.addTo base p.violation (some field) = .ok (.ok d) ∧ some d = found := by
  cases period with
  | none => simp [recallDate]
  | some q => simp [recallDate, Outcome.andThen_eq_ok]

/-- a date that a period gives is in UTC if the date it counts from is -/
theorem recallDate_inUtc {period : Option Period} {field : String} {base default found : Option DateTime}
    (hbase : UtcIfAny base) (hdefault : UtcIfAny default)
    (h : p.recallDate period field base default = .ok (.ok found)) : UtcIfAny found := by
  rcases recallDate_eq_ok.1 h with ⟨-, rfl⟩ | ⟨q, d, -, hd, rfl⟩
  · exact hdefault
  · obtain ⟨b, hb, hz⟩ := Period.addTo_zone hd
    rintro x ⟨rfl⟩
    exact hz.trans (hbase b hb)

theorem guarantee_inUtc (hl : UtcIfAny l.loanDate) : UtcIfAny (p.guarantee l) := by
  unfold guarantee
  split
  · next g hg => exact recallDate_inUtc hl utcIfAny_none hg
  · exact utcIfAny_none

/-- a date of return is given if the date of the recall is -/
theorem returnDate_eq_ok {found : Option DateTime} (hnow : now.InUtc)
    (h : p.returnDate (some now) = .ok (.ok found)) : ∃ wanted, found = some wanted ∧ wanted.InUtc := by
  have hfound := recallDate_inUtc (utcIfAny_some hnow) (utcIfAny_some hnow) h
  rcases recallDate_eq_ok.1 h with ⟨-, rfl⟩ | ⟨q, d, -, -, rfl⟩
  · exact ⟨now, rfl, hnow⟩
  · exact ⟨d, rfl, hfound d rfl⟩

/-- a recall succeeds if its two dates can be had, and sets the due date to the later of them -/
theorem callingBack_eq_ok {time : Option DateTime} :
    p.callingBack l time = .ok (.ok l') ↔
      ∃ g w due, p.guaranteedDate l = .ok (.ok g) ∧ p.returnDate time = .ok (.ok w) ∧ laterDate g w = .ok due ∧
        l' = l.callBack due := by
  constructor
  · intro h
    simp only [callingBack, bind_eq_ok] at h
    obtain ⟨guaranteed, hg, wanted, hw, h⟩ := h
    split at h
    · cases h
    · cases guaranteed with
      | failed c => cases h
      | ok g =>
        cases wanted with
        | failed c => cases h
        | ok w =>
          simp only [bind_eq_ok, pure_eq_ok] at h
          obtain ⟨due, hdue, h⟩ := h
          cases h
          exact ⟨g, w, due, hg, hw, hdue, rfl⟩
  · rintro ⟨g, w, due, hg, hw, hdue, rfl⟩
    simp [callingBack, hg, hw, hdue, Outcome.errors]

/-- **The due date of a recall.** A recall in UTC succeeds exactly if the guarantee and the date of return can be had;
the loan then falls due on the later of them. -/
theorem callBack_eq_ok (hl : UtcIfAny l.loanDate) (hnow : now.InUtc) :
    (p.callBack l (some now)).value = .ok l' ↔
      ∃ wanted, (∃ g, p.guaranteedDate l = .ok (.ok g)) ∧ p.returnDate (some now) = .ok (.ok (some wanted)) ∧
        l' = l.callBack (some (laterOf (p.guarantee l) wanted)) := by
  have hvalue : (p.callBack l (some now)).value = Outcome.settle (p.callingBack l (some now)) := by
    rw [callBack, Option.map_some, DateTime.ensureAware_of_isAware hnow.isAware]
  rw [hvalue, Outcome.settle_eq_ok, callingBack_eq_ok]
  constructor
  · rintro ⟨g, w, due, hg, hw, hdue, rfl⟩
    obtain ⟨wanted, rfl, hutc⟩ := returnDate_eq_ok hnow hw
    have hguarantee : p.guarantee l = g := by rw [guarantee, hg]
    rw [laterDate_eq (recallDate_inUtc hl utcIfAny_none hg).zoned hutc.isAware] at hdue
    cases hdue
    exact ⟨wanted, ⟨g, hg⟩, hw, by rw [hguarantee]⟩
  · rintro ⟨wanted, ⟨g, hg⟩, hw, rfl⟩
    obtain ⟨_, hsome, hutc⟩ := returnDate_eq_ok hnow hw
    cases hsome
    have hguarantee : p.guarantee l = g := by rw [guarantee, hg]
    refine ⟨g, some wanted, _, hg, hw, laterDate_eq (recallDate_inUtc hl utcIfAny_none hg).zoned hutc.isAware, ?_⟩
    rw [hguarantee]

/-- a recall that succeeds wants the item back by some date -/
theorem exists_recallsBy (hl : UtcIfAny l.loanDate) (hnow : now.InUtc) (h : (p.callBack l (some now)).value = .ok l') :
    ∃ wanted, p.RecallsBy l now wanted ∧ l' = l.callBack (some (laterOf (p.guarantee l) wanted)) := by
  have hsucceeds : (p.callBack l (some now)).value.isOk = true := by rw [h, Outcome.isOk_ok]
  obtain ⟨wanted, -, hw, rfl⟩ := (callBack_eq_ok hl hnow).1 h
  exact ⟨wanted, ⟨hsucceeds, hw⟩, rfl⟩

theorem recallsBy_iff (hl : UtcIfAny l.loanDate) (hnow : now.InUtc) :
    p.RecallsBy l now wanted ↔
      (∃ g, p.guaranteedDate l = .ok (.ok g)) ∧ p.returnDate (some now) = .ok (.ok (some wanted)) := by
  constructor
  · rintro ⟨hsucceeds, hw⟩
    obtain ⟨l', hvalue⟩ := Outcome.isOk_iff.1 hsucceeds
    obtain ⟨-, hg, -, -⟩ := (callBack_eq_ok hl hnow).1 hvalue
    exact ⟨hg, hw⟩
  · rintro ⟨hg, hw⟩
    refine ⟨?_, hw⟩
    rw [(callBack_eq_ok hl hnow).2 ⟨wanted, hg, hw, rfl⟩, Outcome.isOk_ok]

theorem RecallsBy.callBack (h : p.RecallsBy l now wanted) (hl : UtcIfAny l.loanDate) (hnow : now.InUtc) :
    (p.callBack l (some now)).value = .ok (l.callBack (some (laterOf (p.guarantee l) wanted))) := by
  obtain ⟨hg, hw⟩ := (recallsBy_iff hl hnow).1 h
  exact (callBack_eq_ok hl hnow).2 ⟨wanted, hg, hw, rfl⟩

theorem RecallsBy.inUtc (h : p.RecallsBy l now wanted) (hnow : now.InUtc) : wanted.InUtc := by
  obtain ⟨_, hsome, hutc⟩ := returnDate_eq_ok hnow h.wanted_eq
  cases hsome
  exact hutc

/-! ## Runs of recalls -/

/-- one recall in a run; a loan whose recall fails stays as it was -/
def callBackStep (p : LoanPolicy) (l : Loan) (now : DateTime) : Loan :=
  match (p.callBack l (some now)).value with
  | .ok l' => l'
  | .failed _ => l

/-- recalls of one loan at one time after the other -/
def callBackRun (p : LoanPolicy) (l : Loan) (times : List DateTime) : Loan := times.foldl p.callBackStep l

theorem callBackRun_concat (times : List DateTime) :
    p.callBackRun l (times ++ [now]) = p.callBackStep (p.callBackRun l times) now := by
  rw [callBackRun, callBackRun, List.foldl_append, List.foldl_cons, List.foldl_nil]

/-- the guarantee goes by the date of lending, which no recall changes -/
theorem guarantee_congr (h : l'.loanDate = l.loanDate) : p.guarantee l' = p.guarantee l := by
  rw [guarantee, guarantee, guaranteedDate, guaranteedDate, h]

theorem recallsBy_congr (h : l'.loanDate = l.loanDate) (hl : UtcIfAny l.loanDate) (hnow : now.InUtc) :
    p.RecallsBy l' now wanted ↔ p.RecallsBy l now wanted := by
  rw [recallsBy_iff hl hnow, recallsBy_iff (h ▸ hl) hnow, guaranteedDate, guaranteedDate, h]

/-- what one recall of a run does -/
theorem callBackStep_cases (hl : UtcLoan l due) (hnow : now.InUtc) :
    p.callBackStep l now = l ∨
      ∃ wanted, p.RecallsBy l now wanted ∧
        p.callBackStep l now = l.callBack (some (laterOf (p.guarantee l) wanted)) := by
  unfold callBackStep
  split
  · next l' h => exact .inr (exists_recallsBy hl.loanDate_inUtc hnow h)
  · exact .inl rfl

theorem UtcLoan.callBack (hl : UtcLoan l due) (hdue : old.InUtc) : UtcLoan (l.callBack (some old)) old where
  dueDate_eq := congrArg some (DateTime.ensureAware_of_isAware hdue.isAware .utc)
  due_inUtc := hdue
  loanDate_inUtc := hl.loanDate_inUtc

/-- after a run of recalls a loan falls due on its old due date or on one that a recall gave it -/
theorem callBackRun_cases (hl : UtcLoan l old) (times : List DateTime) (htimes : ∀ now ∈ times, now.InUtc) :
    ∃ due, UtcLoan (p.callBackRun l times) due ∧ (p.callBackRun l times).loanDate = l.loanDate ∧
      (due = old ∨ ∃ now ∈ times, ∃ wanted, p.RecallsBy l now wanted ∧ due = laterOf (p.guarantee l) wanted) := by
  -- from the last recall backwards: it sees the loan that the recalls before it left
  induction times using List.reverseRecOn with
  | nil => exact ⟨old, hl, rfl, .inl rfl⟩
  | append_singleton times now ih =>
    have hnow : now.InUtc := htimes now (List.mem_append_right _ List.mem_cons_self)
    obtain ⟨due, hrun, hloan, hdue⟩ := ih fun t ht => htimes t (List.mem_append_left _ ht)
    rw [callBackRun_concat]
    rcases callBackStep_cases (p := p) hrun hnow with hstep | ⟨wanted, hby, hstep⟩
    · rw [hstep]
      refine ⟨due, hrun, hloan, hdue.imp_right ?_⟩
      rintro ⟨t, ht, hwanted⟩
      exact ⟨t, List.mem_append_left _ ht, hwanted⟩
    · rw [hstep, guarantee_congr hloan]
      have hlater : (laterOf (p.guarantee l) wanted).InUtc :=
        laterOf_inUtc (guarantee_inUtc hl.loanDate_inUtc) (hby.inUtc hnow)
      refine ⟨_, hrun.callBack hlater, hloan, .inr ⟨now, ?_, wanted, ?_, rfl⟩⟩
      · exact List.mem_append_right _ List.mem_cons_self
      · exact (recallsBy_congr hloan hl.loanDate_inUtc hnow).1 hby

/-- a recall of a run that succeeds leaves the loan due on the date that it gives alone -/
theorem callBackRun_concat_dueDate (hl : UtcLoan l old) (times : List DateTime) (htimes : ∀ t ∈ times, t.InUtc)
    (hnow : now.InUtc) (h : p.RecallsBy l now wanted) :
    (p.callBackRun l (times ++ [now])).dueDate = some (laterOf (p.guarantee l) wanted) := by
  obtain ⟨due, hrun, hloan, -⟩ := callBackRun_cases (p := p) hl times htimes
  have hlater : (laterOf (p.guarantee l) wanted).InUtc :=
    laterOf_inUtc (guarantee_inUtc hl.loanDate_inUtc) (h.inUtc hnow)
  have hstep := ((recallsBy_congr hloan hl.loanDate_inUtc hnow).2 h).callBack hrun.loanDate_inUtc hnow
  rw [callBackRun_concat, callBackStep, hstep, guarantee_congr hloan]
  exact (hrun.callBack hlater).dueDate_eq

/-! ## The bound -/

/-- the due date of a recall is within the later of the guarantee and the old due date if the date of return is -/
theorem laterOf_guarantee_notAfter_iff (hl : UtcLoan l old) (hnow : now.InUtc) (h : p.RecallsBy l now wanted) :
    (laterOf (p.guarantee l) wanted).NotAfter (laterOf (p.guarantee l) old) ↔
      wanted.NotAfter (laterOf (p.guarantee l) old) :=
  have hg := guarantee_inUtc hl.loanDate_inUtc
  laterOf_notAfter_iff hg (h.inUtc hnow) (laterOf_inUtc hg hl.due_inUtc) notAfter_laterOf

/-- **A recall gives the borrower no more time exactly if the item is wanted back in time.** The new due date is within
the later of the old one and the guarantee if and only if the date of return is; in a run of recalls, in whatever order
their times come, every due date on the way is within that bound if and only if the dates of return all are. -/
theorem callBack_bounded_iff (p : LoanPolicy) (l : Loan) (old : DateTime) (hl : UtcLoan l old) :
    let bound := laterOf (p.guarantee l) old
    (∀ now l', now.InUtc → (p.callBack l (some now)).value = .ok l' →
      ∃ wanted due, p.RecallsBy l now wanted ∧ l'.dueDate = some due ∧ (due.NotAfter bound ↔ wanted.NotAfter bound)) ∧
    ∀ times, (∀ now ∈ times, now.InUtc) →
      ((∀ done, done <+: times → ∃ due, (p.callBackRun l done).dueDate = some due ∧ due.NotAfter bound) ↔
        ∀ now ∈ times, ∀ wanted, p.RecallsBy l now wanted → wanted.NotAfter bound) := by
  intro bound
  have hg := guarantee_inUtc (p := p) hl.loanDate_inUtc
  refine ⟨fun now l' hnow h => ?_, fun times htimes => ⟨fun hall now hmem wanted hby => ?_, fun hall done hdone => ?_⟩⟩
  · obtain ⟨wanted, hby, rfl⟩ := exists_recallsBy hl.loanDate_inUtc hnow h
    have hlater := laterOf_inUtc hg (hby.inUtc hnow)
    exact ⟨wanted, _, hby, (hl.callBack hlater).dueDate_eq, laterOf_guarantee_notAfter_iff hl hnow hby⟩
  · obtain ⟨done, rest, rfl⟩ := List.append_of_mem hmem
    have hnow := htimes now hmem
    have hbefore : ∀ t ∈ done, t.InUtc := fun t ht => htimes t (List.mem_append_left _ ht)
    obtain ⟨due, hdue, hle⟩ := hall (done ++ [now]) ⟨rest, by simp⟩
    rw [callBackRun_concat_dueDate hl done hbefore hnow hby] at hdue
    cases hdue
    exact (laterOf_guarantee_notAfter_iff hl hnow hby).1 hle
  · have hmem : ∀ t ∈ done, t ∈ times := fun t ht => hdone.subset ht
    obtain ⟨due, hrun, -, hdue⟩ := callBackRun_cases (p := p) hl done fun t ht => htimes t (hmem t ht)
    refine ⟨due, hrun.dueDate_eq, ?_⟩
    rcases hdue with rfl | ⟨now, hin, wanted, hby, rfl⟩
    · exact second_notAfter_laterOf hg.zoned hl.due_inUtc.isAware
    · exact (laterOf_guarantee_notAfter_iff hl (htimes now (hmem now hin)) hby).2 (hall now (hmem now hin) wanted hby)

/-- a policy that wants recalled items back within a week -/
def weekBackPolicy : LoanPolicy :=
  { id := some "policy-1", loanable := true, profileId := some "Rolling", recallReturnInterval := some (.of .days 7) }

theorem utcLoan_marchLoan : UtcLoan marchLoan (.utcDay 2024 3 15) where
  dueDate_eq := rfl
  due_inUtc := rfl
  loanDate_inUtc := utcIfAny_some rfl

/-- recalled early enough, a loan is not lengthened, also by a second recall -/
theorem callBackRun_march_in_time :
    UtcLoan marchLoan (.utcDay 2024 3 15) ∧
      ∃ due, (weekBackPolicy.callBackRun marchLoan [.utcDay 2024 3 5, .utcDay 2024 3 7]).dueDate = some due ∧
        due.NotAfter (laterOf (weekBackPolicy.guarantee marchLoan) (.utcDay 2024 3 15)) := by
  obtain ⟨-, h⟩ := callBack_bounded_iff weekBackPolicy marchLoan _ utcLoan_marchLoan
  refine ⟨utcLoan_marchLoan, (h _ fun now hnow => ?_).2 (fun now hnow wanted hby => ?_) _ List.prefix_rfl⟩
  · fin_cases hnow <;> rfl
  · have hwanted := hby.wanted_eq
    fin_cases hnow
    · have hreturn : weekBackPolicy.returnDate (some (.utcDay 2024 3 5)) =
          .ok (.ok (some (.utcDay 2024 3 12))) := by decide +kernel
      rw [hreturn] at hwanted
      cases hwanted
      decide +kernel
    · have hreturn : weekBackPolicy.returnDate (some (.utcDay 2024 3 7)) =
          .ok (.ok (some (.utcDay 2024 3 14))) := by decide +kernel
      rw [hreturn] at hwanted
      cases hwanted
      decide +kernel

/-- recalled five days before it is due, a loan is lengthened by two days -/
theorem callBack_march_late :
    ∃ l', (weekBackPolicy.callBack marchLoan (some (.utcDay 2024 3 10))).value = .ok l' ∧
      l'.dueDate = some (.utcDay 2024 3 17) ∧
      weekBackPolicy.guarantee marchLoan = none ∧ marchLoan.dueDate = some (.utcDay 2024 3 15) ∧
      ¬ (DateTime.utcDay 2024 3 17).NotAfter
        (laterOf (weekBackPolicy.guarantee marchLoan) (.utcDay 2024 3 15)) := by
  refine ⟨marchLoan.callBack (some (.utcDay 2024 3 17)), by decide +kernel, rfl, rfl, rfl, ?_⟩
  decide +kernel

end LoanPolicy

end Lending
