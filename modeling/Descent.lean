import Descent.Deferred
import Descent.Failure.Report
import Descent.Format.Csv
import Descent.Format.Json
import Descent.Proofs.Brackets
import Descent.Proofs.Conditions
import Descent.Proofs.Context.Blind
import Descent.Proofs.Context.Forward
import Descent.Proofs.FailurePlace
import Descent.Proofs.Groups
import Descent.Proofs.Outside
import Descent.Proofs.Positions
import Descent.Proofs.Relocation
import Descent.Proofs.Repetition.Counts
import Descent.Proofs.Sequences
import Descent.Proofs.Tables
import Descent.Proofs.Termination
import Descent.Script
import Descent.Proofs.Documents
import Descent.Proofs.Extent
import Descent.Proofs.Alternatives
import Descent.Proofs.Repetition.Attempts
import Descent.Proofs.Repetition.Greed
import Descent.Proofs.Repetition.Laws
import Descent.Proofs.Alternatives.Factoring
import Descent.Proofs.Repetition.Separated
import Descent.Proofs.Lookahead
import Descent.Proofs.Sequences.Chains
import Descent.Proofs.Literals
import Descent.Proofs.Elements
import Descent.Proofs.Words
import Descent.Proofs.Consumption
import Descent.Proofs.Interpretation
import Descent.Proofs.Ranges
import Descent.Proofs.Snippets
