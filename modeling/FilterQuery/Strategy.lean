import FilterQuery.Target

/-!
# Field-access strategies

A strategy says which top-level fields a filter may refer to and which it has
to. Fields are named by their pointers, as `Target.field` gives them. A
strategy has a list of allowed or of denied fields, never both: `Strategy.new`
refuses options that ask for that.
-/

namespace FilterQuery

/-- How required fields are to be met: one of them, or all of them. -/
inductive RequireMode where
  | any
  | all
deriving Repr, DecidableEq

namespace RequireMode

def name : RequireMode → String
  | .any => "any"
  | .all => "all"

def ofName? : String → Option RequireMode
  | "any" => some .any
  | "all" => some .all
  | _ => none

end RequireMode

/-- The top-level fields that may be referred to. -/
inductive FieldList where
  | unrestricted
  | allow (fields : List String)
  | deny (fields : List String)
deriving Repr, DecidableEq

def FieldList.permits (list : FieldList) (field : String) : Bool :=
  match list with
  | .unrestricted => true
  | .allow fields => fields.contains field
  | .deny fields => !fields.contains field

/-- What is asked for about required fields. -/
structure RequireOptions where
  fields : Option (List String) := none
  which : Option RequireMode := none
deriving Repr, DecidableEq

/-- What a caller asks for. -/
structure StrategyOptions where
  allow : Option (List String) := none
  deny : Option (List String) := none
  require : Option RequireOptions := none
deriving Repr, DecidableEq

/-- Why options make no strategy. -/
inductive StrategyError where
  | optionsNotObject
  | allowNotArray
  | denyNotArray
  | allowAndDeny
  | requireNotObject
  | requireFieldsNotArray
  | invalidRequireMode
deriving Repr, DecidableEq

namespace StrategyError

def message : StrategyError → String
  | .optionsNotObject => "Argument \"options\" must be an object"
  | .allowNotArray => "Argument \"options.allow\" must be an array of strings"
  | .denyNotArray => "Argument \"options.deny\" must be an array of strings"
  | .allowAndDeny => "Argument \"options\" cannot contain both allow and deny"
  | .requireNotObject => "Argument \"options.require\" must be an object"
  | .requireFieldsNotArray => "Argument \"options.require.fields\" must be an array of strings"
  | .invalidRequireMode => "Argument \"options.require.which\" must be \"any\" or \"all\""

end StrategyError

/-- Which fields a filter may refer to, and which it has to. -/
structure Strategy where
  list : FieldList
  required : List String
  mode : RequireMode
deriving Repr, DecidableEq

namespace Strategy

/-- Every field is permitted and none is required. -/
def unrestricted : Strategy := ⟨.unrestricted, [], .any⟩

/-- The field list of options; an empty list restricts nothing. -/
def fieldList (allow deny : List String) : Except StrategyError FieldList :=
  match allow, deny with
  | [], [] => .ok .unrestricted
  | [], _ :: _ => .ok (.deny deny)
  | _ :: _, [] => .ok (.allow allow)
  | _ :: _, _ :: _ => .error .allowAndDeny

/-- The strategy of options. What is not said is empty, and `any` of the
required fields will do. -/
def new (options : StrategyOptions) : Except StrategyError Strategy := do
  let list ← fieldList (options.allow.getD []) (options.deny.getD [])
  let require := options.require.getD {}
  return ⟨list, require.fields.getD [], require.which.getD .any⟩

def isDenyList (s : Strategy) : Bool :=
  match s.list with
  | .deny _ => true
  | _ => false

def permits (s : Strategy) (field : String) : Bool := s.list.permits field

/-- Whether the fields that are referred to are enough. -/
def isMetBy (s : Strategy) (fields : List String) : Bool :=
  match s.mode with
  | .all => s.required.all fields.contains
  | .any => s.required.isEmpty || s.required.any fields.contains

end Strategy

end FilterQuery
