import FilterQuery.Pattern.Token

/-!
# The engine behind regular expressions

An expression is built from its source before it matches anything, and an
engine refuses a source whose program would be too large. How large that is,
and what is matched by expressions that no pattern is compiled to, is the
engine's own matter. Everything that compiles patterns takes the engine as a
parameter, and nothing that is proved about it depends on which one it is.

The program runs with `RegexEngine.bySize`. It estimates the size of a
program from its tokens and builds only what is spelled with tokens.
-/

namespace FilterQuery

class RegexEngine where
  /-- Whether there is an expression with this source. -/
  builds (ignoresCase : Bool) (source : String) : Bool
  /-- Whether an expression matches a text; asked only about expressions that
  are not spelled as compiled patterns. -/
  finds (ignoresCase : Bool) (source text : String) : Bool

namespace RegexEngine

/-- The greatest size of an expression's program, in bytes. -/
def sizeLimit : Nat := 10 * (1 <<< 20)

/-- The size of a token's part of the program. A wildcard needs the automaton
of all characters but the line feed, a literal only that of its cases. -/
def tokenSize : Token → Nat
  | .literal _ => 128
  | .anyOne => 512
  | .anyRun => 512

def programSize (tokens : List Token) : Nat :=
  tokens.foldr (fun token size => tokenSize token + size) 0

instance bySize : RegexEngine where
  builds _ source :=
    match Token.ofSource? source with
    | some tokens => programSize tokens ≤ sizeLimit
    | none => false
  finds _ _ _ := false

end RegexEngine

end FilterQuery
