import Lending.PolicyCollection
import Lending.Proofs.LoanHistory
import Lending.Proofs.LoanPolicy.Faults
import Lending.Proofs.RequestCreation
import Lending.Proofs.Schedule.Governing
import Lending.Proofs.LoanPolicy.InitialDueDate
import Lending.Proofs.Loading
import Lending.Proofs.LoanPolicy.ScheduleLimit
import Lending.Proofs.Time.ClockChange
import Lending.Proofs.LoanPolicy.RenewalRun
import Lending.Proofs.Queue.Numbering
import Lending.Proofs.RequestCreation.Decision
import Lending.Proofs.LoanPolicy.RenewalInstant
import Lending.Proofs.RequestCreation.Run
import Lending.Proofs.LoanPolicy.Accepted
import Lending.Proofs.PolicyCollection.Faults
import Lending.Proofs.PolicyCollection.Names
import Lending.Proofs.Loading.Modes
import Lending.Proofs.RequestCreation.Trace
import Lending.Proofs.CheckOut.Decision
import Lending.Proofs.LoanPolicy.RepeatedRenewal
import Lending.Proofs.Period.Order
import Lending.Proofs.Period.TextDuration
import Lending.Proofs.LoanPolicy.RecallDecision
import Lending.Proofs.LoanPolicy.Violations
import Lending.Proofs.Period.Elapsed
import Lending.Proofs.Period.Classified
import Lending.Proofs.Period.Units
import Lending.Proofs.Time.DayText
import Lending.Proofs.Time.Zulu
import Lending.Proofs.Schedule.ZuluDates
import Lending.Proofs.Time.RoundTrip
import Lending.Proofs.LoanPolicy.DueAfterLending
import Lending.Proofs.Schedule.Truncation
import Lending.Proofs.Schedule.DueDates
import Lending.Proofs.Queue.Storage
import Lending.Proofs.RuleTable.Explanation
