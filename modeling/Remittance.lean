import Remittance.Proofs.DateClause
import Remittance.Session
import Remittance.Proofs.Matcher.Stages
import Remittance.Proofs.Sentence
import Remittance.Proofs.RoundTrip
import Remittance.Proofs.Calendar.Written
import Remittance.Proofs.Calendar.Gregorian
import Remittance.Proofs.Calendar.DayCount
import Remittance.Proofs.Rules
import Remittance.Proofs.Transfer
import Remittance.Proofs.Matcher.Visits
import Remittance.Proofs.Overflow
import Remittance.Proofs.Conservation
import Remittance.Proofs.Matcher.Faults
import Remittance.Proofs.Unexpected
import Remittance.Proofs.Answer
import Remittance.Proofs.Precedence
import Remittance.Proofs.Syntax
import Remittance.Proofs.AddedDate
import Remittance.Proofs.Views
import Remittance.Proofs.Named
import Remittance.Proofs.Due
import Remittance.Proofs.Tally
import Remittance.Proofs.Report
import Remittance.Proofs.Payload
import Remittance.Proofs.Figures
import Remittance.Proofs.Matcher.LetterCase
import Remittance.Proofs.Text.Squeezed
import Remittance.Proofs.Token.Language
