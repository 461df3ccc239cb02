import FilterQuery.Strategy

/-!
# Why a filter cannot be converted

Each constructor is one cause; `message` says it in words. Three of them are
breaches of the strategy, and `fields?` gives the fields these are about.
-/

namespace FilterQuery

inductive ConvertError where
  /-- A segment of the target with this pointer is reserved. -/
  | invalidTarget (pointer : String)
  | deniedField (field : String)
  | unallowedField (field : String)
  /-- The filter does not refer to enough of these fields. -/
  | requiredField (fields : List String) (mode : RequireMode)
  /-- The token names no operator, or none for these operands. -/
  | unknownOperator (token : String)
  /-- A range stands where the operator takes a literal. -/
  | misplacedRange (operator : String)
  | notPlain (operator kind : String)
  /-- A literal stands where the operator takes a range. -/
  | rangeRequired (operator : String)
  | textRequired (operator kind : String)
  /-- The pattern's program would be too large. -/
  | patternTooLarge (pattern : String)
  | emptyTarget
  /-- The integer has more than 64 bits. -/
  | outOfRange (n : Int)
  | patternForLiteral
deriving Repr, DecidableEq

namespace ConvertError

def message : ConvertError → String
  | .invalidTarget pointer => "Invalid target encountered: " ++ pointer
  | .deniedField field => "Denied field encountered: " ++ field
  | .unallowedField field => "Non-allowed field encountered: " ++ field
  | .requiredField fields mode =>
      "Missing required fields (" ++ mode.name ++ "): " ++ (Json.strings fields).render
  | .unknownOperator token => "Unknown operator: " ++ token
  | .misplacedRange operator =>
      unableToConvert ++ " Range operand is only valid with between/nbetween, not " ++ operator
  | .notPlain operator kind =>
      unableToConvert ++ " Literal for " ++ operator
        ++ " must be a scalar or an array of scalars, found " ++ kind
  | .rangeRequired operator => unableToConvert ++ " " ++ operator ++ " requires a range operand"
  | .textRequired operator kind =>
      unableToConvert ++ " " ++ operator ++ " requires a string pattern, found " ++ kind
  | .patternTooLarge pattern =>
      unableToConvert ++ " Invalid match pattern " ++ Text.showQuoted pattern
        ++ ": Compiled regex exceeds size limit of 10485760 bytes."
  | .emptyTarget => emptyTargetMessage
  | .outOfRange n => outOfRangeMessage n
  | .patternForLiteral => "Comparing literals to (n)like match expressions is unsupported"

/-- The fields that a breach of the strategy is about. -/
def fields? : ConvertError → Option (List String)
  | .deniedField field => some [field]
  | .unallowedField field => some [field]
  | .requiredField fields _ => some fields
  | _ => none

/-- Whether the strategy is what the filter fails on. -/
def isPolicyViolation : ConvertError → Bool
  | .deniedField _ | .unallowedField _ | .requiredField _ _ => true
  | _ => false

end ConvertError

namespace Strategy

def assertAllowed (s : Strategy) (t : Target) : Except ConvertError Unit :=
  if s.permits t.field then .ok ()
  else if s.isDenyList then .error (.deniedField t.field)
  else .error (.unallowedField t.field)

def assertRequired (s : Strategy) (fields : List String) : Except ConvertError Unit :=
  if s.isMetBy fields then .ok () else .error (.requiredField s.required s.mode)

end Strategy

end FilterQuery
