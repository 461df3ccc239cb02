import FilterQuery.CommandLine.Arguments
import FilterQuery.Conversion
import FilterQuery.Documentation

/-!
# The command line

What the program does with a request, as a function of the texts it can read:
its standard input, and the files that a strategy may be kept in. `respond`
gives the exit code and what is printed.
-/

namespace FilterQuery

open Json (FloatReader)

namespace CommandLine

/-! ## Errors -/

inductive Failure where
  | conversion (e : ConvertError)
  | strategy (e : StrategyError)
  | json (e : DecodeError)
  | unwritable (e : WriteError)
  | file (reason : String)
  | noInput
  | unknownCategory (name : String)

namespace Failure

def message : Failure → String
  | .conversion e => "Conversion error: " ++ e.message
  | .strategy e => "Invalid strategy: " ++ e.message
  | .json .malformed => "Invalid JSON: malformed"
  | .json (.data problem) => "Invalid JSON: " ++ problem.message
  | .unwritable e => "Invalid JSON: " ++ e.message
  | .file reason => "IO error: " ++ reason
  | .noInput => "No filter provided. Pass it as an argument or pipe JSON to stdin."
  | .unknownCategory name =>
      "Unknown category: '" ++ name ++ "'\nRun 'filterdoc docs' to see available categories."

end Failure

/-! ## Strategies -/

/-- Where the options of a strategy stand: in the argument itself, or in the
file it names. -/
inductive StrategyPlace where
  | inline (text : String)
  | file (path : String)
deriving Repr, DecidableEq

/-- A strategy argument names a file with an `@` in front. -/
def StrategyPlace.ofArgument (s : String) : StrategyPlace :=
  match s.toList with
  | '@' :: path => .file (String.ofList path)
  | _ => .inline s

/-- The texts of files, or the reason why one cannot be read. -/
abbrev Files := String → Except String String

def readPlace (files : Files) : StrategyPlace → Except Failure String
  | .inline text => .ok text
  | .file path => (files path).mapError .file

/-- The strategy of an argument; without one every field may be referred
to. -/
def loadStrategy [FloatReader] (files : Files) : Option String → Except Failure Strategy
  | none => .ok .unrestricted
  | some argument => do
      let text ← readPlace files (.ofArgument argument)
      let options ← (Decoder.fromText Decoder.value text).mapError .json
      (Strategy.ofJson options).mapError .strategy

/-! ## Conversions -/

/-- Convert the text of a filter. The filter is read before the strategy. -/
def convert [RegexEngine] [FloatReader] (files : Files) (filter strategy : Option String) :
    Except Failure ConversionResult := do
  match filter with
  | none => throw .noInput
  | some text =>
      let filter ← (Decoder.fromText Filter.decode text).mapError .json
      let strategy ← loadStrategy files strategy
      (filter.convertWith strategy).mapError .conversion

def categoryText (name : String) : Except Failure String :=
  match Documentation.Category.ofName? name with
  | some category => .ok category.text
  | none => .error (.unknownCategory name)

/-! ## Responses -/

/-- How the program ends: its exit code and what it has printed. -/
structure Response where
  exit : UInt8
  output : String
  complaint : String
deriving Repr, DecidableEq

def versionText : String := "filterdoc 0.1.0\n"

def usageText : String :=
  "usage: filterdoc convert [FILTER] [-s STRATEGY] [-p] | docs | doc CATEGORY\n"

/-- What a request prints; `input` is the standard input, which holds the
filter where no argument does. -/
def answer [RegexEngine] [FloatReader] (files : Files) (input : String) : Request → Except Failure
    String
  | .convert filter strategy pretty => do
      let result ← convert files (some (filter.getD input)) strategy
      let text ← (if pretty then result.toJson.writePretty else result.toJson.write).mapError
        .unwritable
      return text ++ "\n"
  | .docs => .ok Documentation.overviewText
  | .doc category => categoryText category
  | .version => .ok versionText

def respond [RegexEngine] [FloatReader] (files : Files) (input : String) (args : List String) :
    Response :=
  match Request.ofArguments args with
  | none => ⟨2, "", usageText⟩
  | some request =>
      match answer files input request with
      | .ok text => ⟨0, text, ""⟩
      | .error failure => ⟨1, "", failure.message ++ "\n"⟩

/-! ## What has to be read -/

def Request.readsInput : Request → Bool
  | .convert none _ _ => true
  | _ => false

def Request.file? : Request → Option String
  | .convert _ (some argument) _ =>
      match StrategyPlace.ofArgument argument with
      | .file path => some path
      | .inline _ => none
  | _ => none

end CommandLine

end FilterQuery
