import GuardedScript.Argument
import GuardedScript.Arithmetic
import GuardedScript.Binary64
import GuardedScript.Bindings
import GuardedScript.Context
import GuardedScript.Context.Functions
import GuardedScript.Context.Variables
import GuardedScript.Decimal.Double
import GuardedScript.Decimal.Integer
import GuardedScript.Decimal.Shortest
import GuardedScript.Diagnostics
import GuardedScript.Evaluation
import GuardedScript.Evaluation.Call
import GuardedScript.Evaluation.Member
import GuardedScript.Evaluation.Step
import GuardedScript.Evaluation.Task
import GuardedScript.Failure
import GuardedScript.Failure.Code
import GuardedScript.Function
import GuardedScript.Function.Binding
import GuardedScript.Member
import GuardedScript.Operator
import GuardedScript.Options
import GuardedScript.Outcome
import GuardedScript.Parameter
import GuardedScript.Policy
import GuardedScript.Policy.Check
import GuardedScript.Proofs.Agreement
import GuardedScript.Proofs.BodyLocals
import GuardedScript.Proofs.Budget
import GuardedScript.Proofs.CanonicalKeys
import GuardedScript.Proofs.CauseChains
import GuardedScript.Proofs.CheckedArithmetic
import GuardedScript.Proofs.Conversions
import GuardedScript.Proofs.Delegation
import GuardedScript.Proofs.DenyList
import GuardedScript.Proofs.Descent
import GuardedScript.Proofs.Discipline
import GuardedScript.Proofs.Effects
import GuardedScript.Proofs.Fixity
import GuardedScript.Proofs.Flattening
import GuardedScript.Proofs.Growth
import GuardedScript.Proofs.Inheritance
import GuardedScript.Proofs.IntegerChains
import GuardedScript.Proofs.IntegerComparisons
import GuardedScript.Proofs.Landing
import GuardedScript.Proofs.Limiter
import GuardedScript.Proofs.Locality
import GuardedScript.Proofs.Lookup
import GuardedScript.Proofs.Mediation
import GuardedScript.Proofs.MemberKeys
import GuardedScript.Proofs.NamedArguments
import GuardedScript.Proofs.OperatorTable
import GuardedScript.Proofs.OverloadOrder
import GuardedScript.Proofs.Precedence
import GuardedScript.Proofs.Provenance
import GuardedScript.Proofs.ReadBack
import GuardedScript.Proofs.Resolution
import GuardedScript.Proofs.RoundTrips
import GuardedScript.Proofs.RoundedIntegers
import GuardedScript.Proofs.Schedule
import GuardedScript.Proofs.Sealing
import GuardedScript.Proofs.Seating
import GuardedScript.Proofs.Sparing
import GuardedScript.Proofs.Specificity
import GuardedScript.Proofs.Stability
import GuardedScript.Proofs.Termination
import GuardedScript.Proofs.Terms
import GuardedScript.Proofs.TypedRegistration
import GuardedScript.Reduction
import GuardedScript.Registration
import GuardedScript.StandardOperators
import GuardedScript.State
import GuardedScript.Store
import GuardedScript.Table
import GuardedScript.Text.Blank
import GuardedScript.Text.CodeTable
import GuardedScript.Text.DefaultIgnorable
import GuardedScript.Text.GraphemeExtend
import GuardedScript.Text.Graphic
import GuardedScript.Text.Key
import GuardedScript.Text.Quoted
import GuardedScript.Value
import GuardedScript.Value.Coercion
import GuardedScript.Value.Equality
import GuardedScript.Value.Host
import GuardedScript.Value.Number
import GuardedScript.Value.Text
import GuardedScript.ValueType
