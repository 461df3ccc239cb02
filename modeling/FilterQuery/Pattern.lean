import FilterQuery.Pattern.CaseFolding
import FilterQuery.Pattern.Engine

/-!
# Wildcard patterns

`Pattern.compile?` turns a pattern into a regular expression that matches
whole texts without regard to case, and `Regex.matches` says whether such an
expression matches a text. A pattern is written as a source in one pass, in
which runs of literal characters are escaped as a whole. The engine then
builds the expression, or refuses it.

Matching goes through the tokens from the last to the first and keeps, for
each rest of the text, whether the tokens so far match it. So its cost is the
product of both lengths, whatever the pattern.
-/

namespace FilterQuery

namespace Pattern

/-! ## Compiling -/

/-- The options of a compiled pattern: case is ignored. -/
def options : String := "i"

/-- A text as an expression spells it. -/
def escape (text : List Char) : List Char := text.flatMap fun c => (Token.literal c).source

/-- What the source of an expression goes on with, for a rest of a pattern.
The characters before that rest which stand for themselves are held back, the
last one first, until a wildcard or the end of the pattern comes. -/
def sourceRest (held : List Char) : List Char → List Char
  | [] => escape held.reverse ++ ['$']
  | '\\' :: c :: rest => sourceRest (c :: held) rest
  | '*' :: rest => escape held.reverse ++ Token.anyRun.source ++ sourceRest [] rest
  | '_' :: rest => escape held.reverse ++ Token.anyOne.source ++ sourceRest [] rest
  | c :: rest => sourceRest (c :: held) rest

/-- The source of the expression that matches what a pattern says. -/
def sourceOf (pattern : String) : String := String.ofList ('^' :: sourceRest [] pattern.toList)

/-- The expression that matches what a pattern says, unless the engine refuses
to build it. -/
def compile? [RegexEngine] (pattern : String) : Option Regex :=
  let source := sourceOf pattern
  if RegexEngine.builds true source then some ⟨source, options⟩ else none

/-! ## Matching -/

/-- Whether a wildcard stands for a character: it does for any but the line
feed. -/
def isWild (c : Char) : Bool := c ≠ '\n'

/-- For each rest of a text, whether one character of the given class and
then what `next` says for the shorter rest match it. -/
def oneOf (belongs : Char → Bool) : List Char → (next : List Bool) → List Bool
  | x :: xs, _ :: next => (belongs x && next.headD false) :: oneOf belongs xs next
  | _, _ => [false]

/-- For each rest of a text, whether a run of characters and then what `next`
says for the rest after it match it. -/
def runOf : List Char → (next : List Bool) → List Bool
  | x :: xs, here :: next =>
      let later := runOf xs next
      (here || (isWild x && later.headD false)) :: later
  | _, next => next

/-- For each rest of a text, from the whole text to the empty one, whether
the tokens match it. -/
def matchesRests : List Token → List Char → List Bool
  | [], text => text.map (fun _ => false) ++ [true]
  | .literal c :: tokens, text => oneOf (· == c) text (matchesRests tokens text)
  | .anyOne :: tokens, text => oneOf isWild text (matchesRests tokens text)
  | .anyRun :: tokens, text => runOf text (matchesRests tokens text)

def matchesAll (tokens : List Token) (text : List Char) : Bool :=
  (matchesRests tokens text).headD false

/-- A token in the form that stands for all its cases. -/
def foldToken : Token → Token
  | .literal c => .literal (simpleFold c)
  | .anyOne => .anyOne
  | .anyRun => .anyRun

end Pattern

/-- Whether an expression matches a text. One that is not built matches none,
and one that is not spelled as a compiled pattern is left to the engine. -/
def Regex.matches [RegexEngine] (r : Regex) (text : String) : Bool :=
  RegexEngine.builds r.ignoresCase r.source &&
    match Token.ofSource? r.source with
    | none => RegexEngine.finds r.ignoresCase r.source text
    | some tokens =>
        if r.ignoresCase then
          Pattern.matchesAll (tokens.map Pattern.foldToken) (text.toList.map simpleFold)
        else Pattern.matchesAll tokens text.toList

end FilterQuery
