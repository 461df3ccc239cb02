import FilterQuery.Operator
import FilterQuery.Value

/-!
# Queries

A query as what it asks for, before it is spelled as a document. A document
has no room for the difference between a connective, an operator and a key:
all are keys, and a reference to a field is a text with a dollar sign. A
`Query` keeps them apart, so the shapes that a document can take are the
constructors of these types, and `Query.toDocument` spells them.
-/

namespace FilterQuery

def Relation.key : Relation → String
  | .eq => "$eq"
  | .ne => "$ne"
  | .gt => "$gt"
  | .gte => "$gte"
  | .lt => "$lt"
  | .lte => "$lte"

/-! ## Conditions on a field -/

/-- What a query asks of the value of one field. -/
inductive Condition where
  | compare (relation : Relation) (value : Value)
  | within (list : Value)
  | without (list : Value)
  | like (pattern : Regex)
  | unlike (pattern : Regex)

/-- How a condition is spelled. Equality has no operator of its own. -/
def Condition.toValue : Condition → Value
  | .compare .eq value => value
  | .compare relation value => .single relation.key value
  | .within list => .single "$in" list
  | .without list => .single "$nin" list
  | .like pattern => .single "$regex" (.regex pattern)
  | .unlike pattern => .single "$not" (.single "$regex" (.regex pattern))

/-! ## Expressions -/

/-- An argument of an expression: the value of the field with a key, or a
constant. -/
inductive Argument where
  | reference (key : String)
  | constant (value : Value)

/-- The text that refers to the field with a key. -/
def referenceTo (key : String) : String := "$" ++ key

def Argument.toValue : Argument → Value
  | .reference key => .string (referenceTo key)
  | .constant value => value

/-- What a query asks of values that need not belong to one field. -/
inductive Expression where
  | compare (relation : Relation) (left right : Argument)
  | between (subject lower upper : Argument)
  | outside (subject lower upper : Argument)
  | within (subject list : Argument)
  | without (subject list : Argument)

namespace Expression

def binary (operator : String) (left right : Argument) : Value :=
  .single operator (.array [left.toValue, right.toValue])

def toValue : Expression → Value
  | .compare relation left right => binary relation.key left right
  | .between subject lower upper =>
      .single "$and" (.array [binary "$gte" subject lower, binary "$lte" subject upper])
  | .outside subject lower upper =>
      .single "$or" (.array [binary "$lt" subject lower, binary "$gt" subject upper])
  | .within subject list => binary "$in" subject list
  | .without subject list => .single "$not" (binary "$in" subject list)

end Expression

/-! ## Queries -/

inductive Query where
  | field (key : String) (condition : Condition)
  | expression (expression : Expression)
  | all (members : List Query)
  | any (members : List Query)

namespace Query

mutual

/-- How a query is spelled: a document with one entry. -/
def toDocument : Query → Document
  | .field key condition => Entries.single key condition.toValue
  | .expression e => Entries.single "$expr" e.toValue
  | .all members => Entries.single "$and" (.array (documents members))
  | .any members => Entries.single "$or" (.array (documents members))

def documents : List Query → List Value
  | [] => []
  | member :: rest => .object member.toDocument :: documents rest

end

/-! ## Joining queries -/

/-- All of the queries at once; one query alone needs no connective. -/
def allOf : List Query → Query
  | [only] => only
  | members => .all members

/-- Any of the queries; one query alone needs no connective. -/
def anyOf : List Query → Query
  | [only] => only
  | members => .any members

end Query

end FilterQuery
