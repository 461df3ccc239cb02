import FilterQuery.Decoder

/-!
# Operators

The comparison operators of a filter. Six of them compare two values; the
others match a pattern, or look for a value in a range or a list, and come in
pairs of which the second denies the first. A token that names no operator is
kept, so that the error can name it when the clause is converted.
-/

namespace FilterQuery

/-! ## Relations -/

inductive Relation where
  | eq
  | ne
  | gt
  | gte
  | lt
  | lte
deriving Repr, DecidableEq

namespace Relation

/-- The token of a relation in a filter. -/
def token : Relation → String
  | .eq => "eq"
  | .ne => "neq"
  | .gt => "gt"
  | .gte => "gte"
  | .lt => "lt"
  | .lte => "lte"

/-- The relation as seen from the other side: `42 gt /a` says `/a lt 42`. -/
def flipped : Relation → Relation
  | .gt => .lt
  | .gte => .lte
  | .lt => .gt
  | .lte => .gte
  | .eq => .eq
  | .ne => .ne

def every : List Relation := [.eq, .ne, .gt, .gte, .lt, .lte]

@[simp] theorem flipped_flipped (r : Relation) : r.flipped.flipped = r := by
  cases r <;> rfl

end Relation

/-! ## Operators -/

inductive Operator where
  | relation (relation : Relation)
  | like
  | unlike
  | between
  | outside
  | within
  | without
  | other (token : String)
deriving Repr, DecidableEq

namespace Operator

def token : Operator → String
  | .relation r => r.token
  | .like => "like"
  | .unlike => "nlike"
  | .between => "between"
  | .outside => "nbetween"
  | .within => "in"
  | .without => "nin"
  | .other token => token

/-- The operators that have a meaning. -/
def known : List Operator :=
  Relation.every.map .relation ++ [.like, .unlike, .between, .outside, .within, .without]

def ofToken (token : String) : Operator :=
  (known.find? (·.token = token)).getD (.other token)

/-- The operator as seen from the other side of the comparison. Only a
relation has another side. -/
def flipped : Operator → Operator
  | .relation r => .relation r.flipped
  | op => op

@[simp] theorem flipped_flipped (op : Operator) : op.flipped.flipped = op := by
  cases op <;> simp [flipped]

/-- Whether the operator has no meaning. -/
def isOther : Operator → Bool
  | .other _ => true
  | _ => false

def toJson (op : Operator) : Json := .string op.token

/-- Any text is an operator. -/
def decode : Decoder Operator := fun depth source =>
  (Decoder.text depth source).map ofToken

end Operator

end FilterQuery
