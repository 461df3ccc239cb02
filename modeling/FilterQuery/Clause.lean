import FilterQuery.Operator
import FilterQuery.Target
import FilterQuery.Value

/-!
# Clauses

A clause compares two operands. An operand is a target or a constant, and a
constant is a literal or a range of literals. `Clause.shape` sorts clauses by
the kinds of their operands; a clause that compares a constant with a target
is turned around there, so the target is always the subject.
-/

namespace FilterQuery

/-- Inclusive bounds. -/
structure Range where
  lower : Value
  upper : Value

/-- An operand that refers to no field. -/
inductive Constant where
  | literal (value : Value)
  | range (bounds : Range)

/-- One side of a comparison. -/
inductive Operand where
  | target (target : Target)
  | constant (constant : Constant)

namespace Operand

def literal (value : Value) : Operand := .constant (.literal value)

def range (bounds : Range) : Operand := .constant (.range bounds)

end Operand

structure Clause where
  subject : Operand
  operator : Operator
  object : Operand

namespace Operand

/-- The target of an operand that is one. -/
def targets : Operand → List Target
  | .target t => [t]
  | .constant _ => []

end Operand

namespace Clause

/-- The targets that a clause refers to, in reading order. -/
def targets (c : Clause) : List Target := c.subject.targets ++ c.object.targets

/-- The clause as seen from the other side. -/
def flipped (c : Clause) : Clause := ⟨c.object, c.operator.flipped, c.subject⟩

end Clause

/-! ## Shapes -/

inductive Shape where
  | targetConstant (target : Target) (operator : Operator) (object : Constant)
  | targetTarget (subject : Target) (operator : Operator) (object : Target)
  | constantConstant (subject : Constant) (operator : Operator) (object : Constant)

namespace Clause

/-- The shape of a clause. Turning a clause around flips its operator. -/
def shape (c : Clause) : Shape :=
  match c.subject, c.object with
  | .target subject, .target object => .targetTarget subject c.operator object
  | .target target, .constant object => .targetConstant target c.operator object
  | .constant subject, .target target => .targetConstant target c.operator.flipped subject
  | .constant subject, .constant object => .constantConstant subject c.operator object

end Clause

end FilterQuery
