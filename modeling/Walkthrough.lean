import Walkthrough.Age.Numeral
import Walkthrough.Main
import Walkthrough.Script
import Walkthrough.Proofs.Utf8
import Walkthrough.Proofs.Lines
import Walkthrough.Proofs.Joining
import Walkthrough.Proofs.Stages
import Walkthrough.Proofs.Faultless
import Walkthrough.Proofs.Transcript
import Walkthrough.Proofs.FailStop
import Walkthrough.Proofs.Spelling
import Walkthrough.Proofs.Success
import Walkthrough.Proofs.Sheets
import Walkthrough.Proofs.Accounting
import Walkthrough.Proofs.Saturation
import Walkthrough.Proofs.Position
import Walkthrough.Proofs.Flushing
import Walkthrough.Proofs.Thresholds
import Walkthrough.Proofs.Course
import Walkthrough.Proofs.Journal
import Walkthrough.Proofs.Aftermath
import Walkthrough.Proofs.Returning
import Walkthrough.Proofs.Disclosure
import Walkthrough.Proofs.Supply
import Walkthrough.Proofs.Linewise
import Walkthrough.Proofs.Visitors
import Walkthrough.Proofs.Legibility
import Walkthrough.Proofs.Anonymity
import Walkthrough.Proofs.Remainder
import Walkthrough.Proofs.Arguments
import Walkthrough.Proofs.LogSettings
import Walkthrough.Proofs.Refusals
import Walkthrough.Proofs.Exactness
import Walkthrough.Proofs.Questions
import Walkthrough.Proofs.Unquoting
import Walkthrough.Proofs.Padding
import Walkthrough.Proofs.NormalForm
import Walkthrough.Proofs.Recovery
import Walkthrough.Proofs.Capitals
