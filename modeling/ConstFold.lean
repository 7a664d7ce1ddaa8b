import ConstFold.Builder
import ConstFold.Session
import ConstFold.Proofs.Outcomes
import ConstFold.Proofs.Alike
import ConstFold.Proofs.Causes
import ConstFold.Proofs.Spending
import ConstFold.Proofs.Lockstep
import ConstFold.Proofs.Semantics
import ConstFold.Proofs.Realization
import ConstFold.Proofs.StepLimit
import ConstFold.Proofs.DepthLimit
import ConstFold.Proofs.Adequacy
import ConstFold.Proofs.Quiet
import ConstFold.Proofs.Substitution
import ConstFold.Proofs.Reads
import ConstFold.Proofs.Compositional
import ConstFold.Proofs.Following
import ConstFold.Proofs.Reuse
import ConstFold.Proofs.FirstFailure
import ConstFold.Proofs.Jumps
import ConstFold.Proofs.Writes
import ConstFold.Proofs.Equivariance
import ConstFold.Proofs.Lookups
import ConstFold.Proofs.Unfolding
import ConstFold.Proofs.Unrolling
import ConstFold.Proofs.Calls
import ConstFold.Proofs.Checked
import ConstFold.Proofs.Faultless
import ConstFold.Proofs.BodyForms
import ConstFold.Proofs.Entries
import ConstFold.Proofs.Surcharge
import ConstFold.Proofs.Recorded
import ConstFold.Proofs.Inescapable
import ConstFold.Proofs.Conditionals
import ConstFold.Proofs.LazyOperators
import ConstFold.Proofs.Specialization
import ConstFold.Proofs.Denotation
import ConstFold.Proofs.Expressions
import ConstFold.Proofs.Integers
import ConstFold.Proofs.TextGrowth
import ConstFold.Proofs.Unquoting
import ConstFold.Proofs.Diagnostics
import ConstFold.Proofs.Histories
