import FilterQuery.Value

/-!
# Patterns and expression sources as tokens

A wildcard pattern is a list of tokens: `*` is any run of characters, `_` any
one character, `\x` the character `x` itself, and every other character
itself. A backslash that ends the pattern stands for itself.

The source of a regular expression spells the same tokens in another
alphabet, between anchors for the start and the end of the text:
`ofSource?` reads back what `sourceOf` writes.
-/

namespace FilterQuery

/-- A part of a wildcard pattern. -/
inductive Token where
  | literal (c : Char)
  | anyOne
  | anyRun
deriving Repr, DecidableEq

namespace Token

/-! ## Patterns -/

def ofPattern : List Char → List Token
  | [] => []
  | '\\' :: c :: rest => .literal c :: ofPattern rest
  | '*' :: rest => .anyRun :: ofPattern rest
  | '_' :: rest => .anyOne :: ofPattern rest
  | c :: rest => .literal c :: ofPattern rest

/-! ## Expression sources -/

/-- The characters that mean something in an expression source unless a
backslash stands before them. -/
def isMeta (c : Char) : Bool :=
  c ∈ ['\\', '.', '+', '*', '?', '(', ')', '|', '[', ']', '\x7b', '\x7d', '^', '$', '#', '&',
    '-', '~']

/-- How a token is spelled in an expression source. -/
def source : Token → List Char
  | .literal c => if isMeta c then ['\\', c] else [c]
  | .anyOne => ['.', '\x7b', '1', '\x7d']
  | .anyRun => ['.', '*']

/-- The source of the expression that matches a whole text. -/
def sourceOf (tokens : List Token) : String :=
  String.ofList ('^' :: tokens.flatMap source ++ ['$'])

/-- The tokens spelled between the anchors of an expression source. -/
def ofSourceBody? : List Char → Option (List Token)
  | ['$'] => some []
  | '.' :: '*' :: rest => (ofSourceBody? rest).map (.anyRun :: ·)
  | '.' :: '\x7b' :: '1' :: '\x7d' :: rest => (ofSourceBody? rest).map (.anyOne :: ·)
  | '\\' :: c :: rest => if isMeta c then (ofSourceBody? rest).map (.literal c :: ·) else none
  | c :: rest => if isMeta c then none else (ofSourceBody? rest).map (.literal c :: ·)
  | [] => none

/-- The tokens of an expression source, if it is spelled with them. -/
def ofSource? (source : String) : Option (List Token) :=
  match source.toList with
  | '^' :: rest => ofSourceBody? rest
  | _ => none

end Token

end FilterQuery
