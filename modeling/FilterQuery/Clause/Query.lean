import FilterQuery.Clause
import FilterQuery.Pattern
import FilterQuery.Query
import FilterQuery.Target.Resolve

/-!
# Queries of clauses

`Clause.toQuery` says what a clause asks of a stored document, by the shape
of the clause:

- a target and a constant give a condition on the field;
- two targets give an expression, only for the six relations;
- two constants give an expression, for all but patterns.

Constants land in the query as they are, so only plain ones pass.

`Clause.toQuery` is a trace; `Resolver.translate` is the step of the program,
with the checks in the same order.
-/

namespace FilterQuery

/-! ## Checking constants -/

namespace Constant

/-- A plain value, under the operator that takes it. -/
def plain (operator : Operator) (value : Value) : Except ConvertError Value :=
  if value.isPlain then .ok value else .error (.notPlain operator.token value.kindName)

def plainLiteral (operator : Operator) : Constant → Except ConvertError Value
  | .literal value => plain operator value
  | .range _ => .error (.misplacedRange operator.token)

/-- The plain bounds of a constant, the lower one checked first. -/
def plainBounds (operator : Operator) : Constant → Except ConvertError Range
  | .range ⟨lower, upper⟩ => do
      let lower ← plain operator lower
      let upper ← plain operator upper
      return ⟨lower, upper⟩
  | .literal _ => .error (.rangeRequired operator.token)

/-- The expression of a constant that is a pattern. -/
def pattern [RegexEngine] (operator : Operator) (c : Constant) : Except ConvertError Regex := do
  match ← c.plainLiteral operator with
  | .string text =>
      match Pattern.compile? text with
      | some regex => return regex
      | none => throw (.patternTooLarge text)
  | value => throw (.textRequired operator.token value.kindName)

end Constant

/-! ## Queries by shape -/

namespace Clause

variable [RegexEngine]

/-- What an operator and a constant ask of the field with a key. A range is
two comparisons, joined as its operator says. -/
def condition (key : String) (operator : Operator) (object : Constant) :
    Except ConvertError Query :=
  match operator with
  | .relation r => do
      return .field key (.compare r (← object.plainLiteral operator))
  | .like => do return .field key (.like (← object.pattern operator))
  | .unlike => do return .field key (.unlike (← object.pattern operator))
  | .between => do
      let bounds ← object.plainBounds operator
      return .all [.field key (.compare .gte bounds.lower), .field key (.compare .lte bounds.upper)]
  | .outside => do
      let bounds ← object.plainBounds operator
      return .any [.field key (.compare .lt bounds.lower), .field key (.compare .gt bounds.upper)]
  | .within => do return .field key (.within (← object.plainLiteral operator))
  | .without => do return .field key (.without (← object.plainLiteral operator))
  | .other token => .error (.unknownOperator token)

/-- A target against a constant. An operator without a meaning is refused
before the target is looked at, and the constant is looked at last. -/
def pathQuery (s : Strategy) (target : Target) (operator : Operator) (object : Constant) :
    Trace Query :=
  if operator.isOther then Trace.fail (.unknownOperator operator.token)
  else do
    let key ← target.resolve s
    Trace.ofExcept (condition key operator object)

/-- A target against a target. Both are looked at before the operator, which
has to be a relation. -/
def pathsQuery (s : Strategy) (subject : Target) (operator : Operator) (object : Target) :
    Trace Query := do
  let left ← subject.resolve s
  let right ← object.resolve s
  match operator with
  | .relation r => return .expression (.compare r (.reference left) (.reference right))
  | _ => Trace.fail (.unknownOperator operator.token)

/-- A constant against a constant. The subject is looked at first. -/
def constantsQuery (subject : Constant) (operator : Operator) (object : Constant) :
    Except ConvertError Query :=
  match operator with
  | .relation r => do
      let left ← subject.plainLiteral operator
      let right ← object.plainLiteral operator
      return .expression (.compare r (.constant left) (.constant right))
  | .between => do
      let value ← subject.plainLiteral operator
      let bounds ← object.plainBounds operator
      return .expression
        (.between (.constant value) (.constant bounds.lower) (.constant bounds.upper))
  | .outside => do
      let value ← subject.plainLiteral operator
      let bounds ← object.plainBounds operator
      return .expression
        (.outside (.constant value) (.constant bounds.lower) (.constant bounds.upper))
  | .within => do
      let value ← subject.plainLiteral operator
      let list ← object.plainLiteral operator
      return .expression (.within (.constant value) (.constant list))
  | .without => do
      let value ← subject.plainLiteral operator
      let list ← object.plainLiteral operator
      return .expression (.without (.constant value) (.constant list))
  | .like | .unlike => .error .patternForLiteral
  | .other token => .error (.unknownOperator token)

/-- The query of a clause under a strategy. -/
def toQuery (s : Strategy) (c : Clause) : Trace Query :=
  match c.shape with
  | .targetConstant target operator object => pathQuery s target operator object
  | .targetTarget subject operator object => pathsQuery s subject operator object
  | .constantConstant subject operator object =>
      Trace.ofExcept (constantsQuery subject operator object)

end Clause

/-! ## Translating in a session -/

/-- Find the query of a clause. Beside a constant the operator is looked at
first and the constant last; targets that are compared with each other come
before the operator. -/
def Resolver.translate [RegexEngine] (s : Strategy) (c : Clause) : Resolver Query :=
  match c.shape with
  | .targetConstant target operator object => do
      if operator.isOther then throw (.unknownOperator operator.token)
      let key ← resolve s target
      ofExcept (Clause.condition key operator object)
  | .targetTarget subject operator object => do
      let left ← resolve s subject
      let right ← resolve s object
      match operator with
      | .relation r => return .expression (.compare r (.reference left) (.reference right))
      | _ => throw (.unknownOperator operator.token)
  | .constantConstant subject operator object =>
      ofExcept (Clause.constantsQuery subject operator object)

end FilterQuery
