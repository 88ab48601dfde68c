/-!
# Binary operators

Seventeen operators, each of one of eight precedence tiers.
-/

set_option autoImplicit false

namespace GuardedScript

/-- Precedence tiers. -/
inductive Tier
  | exponent
  | multiplicative
  | additive
  | comparison
  | equality
  | bitwise
  | logicalAnd
  | logicalOr
deriving DecidableEq, Repr

namespace Tier

/-- All tiers, the most tightly binding one first. -/
def all : List Tier :=
  [exponent, multiplicative, additive, comparison, equality, bitwise, logicalAnd, logicalOr]

/-- The position of a tier among all tiers: the smaller, the more tightly it binds. -/
def rank : Tier → Nat
  | exponent => 0
  | multiplicative => 1
  | additive => 2
  | comparison => 3
  | equality => 4
  | bitwise => 5
  | logicalAnd => 6
  | logicalOr => 7

end Tier

/-- The binary operators. -/
inductive Operator
  | power
  | multiply
  | divide
  | modulo
  | add
  | subtract
  | less
  | lessEqual
  | greater
  | greaterEqual
  | equal
  | notEqual
  | bitAnd
  | bitOr
  | bitXor
  | and
  | or
deriving DecidableEq, Repr

namespace Operator

/-- All operators, by tier. -/
def all : List Operator :=
  [power, multiply, divide, modulo, add, subtract, less, lessEqual, greater, greaterEqual, equal,
    notEqual, bitAnd, bitOr, bitXor, and, or]

/-- The symbol that an operator is written as and that its functions are registered under. -/
def symbol : Operator → String
  | power => "^"
  | multiply => "*"
  | divide => "/"
  | modulo => "%"
  | add => "+"
  | subtract => "-"
  | less => "<"
  | lessEqual => "<="
  | greater => ">"
  | greaterEqual => ">="
  | equal => "=="
  | notEqual => "!="
  | bitAnd => "&"
  | bitOr => "|"
  | bitXor => "><"
  | and => "&&"
  | or => "||"

/-- The operator with a symbol. -/
def ofSymbol? (symbol : String) : Option Operator :=
  all.find? (fun operator => operator.symbol == symbol)

/-- The tier of an operator. -/
def tier : Operator → Tier
  | power => .exponent
  | multiply | divide | modulo => .multiplicative
  | add | subtract => .additive
  | less | lessEqual | greater | greaterEqual => .comparison
  | equal | notEqual => .equality
  | bitAnd | bitOr | bitXor => .bitwise
  | and => .logicalAnd
  | or => .logicalOr

/-- Whether an operator binds more tightly than another. -/
def bindsTighterThan (operator other : Operator) : Bool :=
  operator.tier.rank < other.tier.rank

end Operator

end GuardedScript
