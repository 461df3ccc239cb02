import FilterQuery.Json.Printer
import FilterQuery.Text.Visible

/-!
# Why a text cannot be decoded

A text that is decoded into a typed value is either malformed, or it is well
formed and holds something else than what is wanted. For the latter
`DataProblem` has one constructor a cause, and `DataProblem.message` says it
in words.
-/

namespace FilterQuery

/-- What stands in a text in place of what was expected. -/
inductive Found where
  | null
  | boolean (b : Bool)
  | integer (n : Int)
  | float (x : Float)
  | string (s : String)
  | sequence
  | map
  | unitVariant
deriving Repr

namespace Found

def describe : Found → String
  | .null => "null"
  | .boolean b => "boolean `" ++ String.ofList (Json.booleanChars b) ++ "`"
  | .integer n => "integer `" ++ String.ofList (Json.Number.integer n).chars ++ "`"
  | .float x => "floating point `" ++ String.ofList (Json.Number.float x).chars ++ "`"
  | .string s => "string " ++ Text.showQuoted s
  | .sequence => "sequence"
  | .map => "map"
  | .unitVariant => "unit variant"

end Found

/-- Why a well-formed text does not stand for a value of the wanted type. -/
inductive DataProblem where
  | missingField (name : String)
  | duplicateField (name : String)
  | unknownVariant (name : String) (known : List String)
  | invalidType (found : Found) (expected : String)
  | invalidLength (length : Nat) (record : String) (fields : Nat)
  | notASegment
  | emptyTarget
  | outOfRange (n : Int)
deriving Repr

/-- Names between backquotes, with what joins the last to the others. -/
def nameList : List String → String
  | [a, b] => "`" ++ a ++ "` or `" ++ b ++ "`"
  | names => "one of " ++ ", ".intercalate (names.map fun name => "`" ++ name ++ "`")

/-- The start of each message that says why a filter cannot be converted. -/
def unableToConvert : String := "Invalid filter. Unable to convert."

/-- That an integer lies outside the signed 64-bit range. -/
def outOfRangeMessage (n : Int) : String :=
  unableToConvert ++ " Integer " ++ toString n ++ " is out of range"

/-- That a target has no segments. -/
def emptyTargetMessage : String := "Target path must contain at least one segment"

namespace DataProblem

def message : DataProblem → String
  | .missingField name => "missing field `" ++ name ++ "`"
  | .duplicateField name => "duplicate field `" ++ name ++ "`"
  | .unknownVariant name known =>
      "unknown variant `" ++ name ++ "`, expected " ++ nameList known
  | .invalidType found expected =>
      "invalid type: " ++ found.describe ++ ", expected " ++ expected
  | .invalidLength length record fields =>
      "invalid length " ++ toString length ++ ", expected struct " ++ record ++ " with "
        ++ toString fields ++ (if fields = 1 then " element" else " elements")
  | .notASegment => "data did not match any variant of untagged enum PathSegment"
  | .emptyTarget => emptyTargetMessage
  | .outOfRange n => outOfRangeMessage n

end DataProblem

/-- Why a text cannot be decoded: it is no JSON text of the shape that can be
decoded at all, or what it holds is not what is wanted. -/
inductive DecodeError where
  | malformed
  | data (problem : DataProblem)
deriving Repr

end FilterQuery
