/-!
# Quoted text

A text in JSON stands between quotes. Writing escapes the quote, the
backslash and the control characters, and leaves everything else as it is.
Reading goes in two steps, because a quoted text can be well written and
still stand for no text: first the characters between the quotes become
`Piece`s (`read?`), then pieces become a text (`textOf?`), which fails where
an escape gives one half of a surrogate pair without the other.
-/

namespace FilterQuery

namespace Json

namespace Quoted

/-! ## Writing -/

def hexDigit (n : Nat) : Char := Nat.digitChar n

def escape (c : Char) : List Char :=
  if c = '"' then ['\\', '"']
  else if c = '\\' then ['\\', '\\']
  else if c = '\x08' then ['\\', 'b']
  else if c = '\t' then ['\\', 't']
  else if c = '\n' then ['\\', 'n']
  else if c = '\x0c' then ['\\', 'f']
  else if c = '\r' then ['\\', 'r']
  else if c.toNat < 0x20 then
    ['\\', 'u', '0', '0', hexDigit (c.toNat / 16), hexDigit (c.toNat % 16)]
  else [c]

def write (s : String) : List Char :=
  '"' :: s.toList.flatMap escape ++ ['"']

/-! ## Reading -/

/-- A piece of a quoted text: a character, or the 16-bit number of an escape
`\uXXXX`. -/
inductive Piece where
  | char (c : Char)
  | code (n : Nat)
deriving Repr, DecidableEq

/-- The value of a digit to the base sixteen, in either case. -/
def hexValue? (c : Char) : Option Nat :=
  if '0' ≤ c && c ≤ '9' then some (c.toNat - 48)
  else if 'a' ≤ c && c ≤ 'f' then some (c.toNat - 87)
  else if 'A' ≤ c && c ≤ 'F' then some (c.toNat - 55)
  else none

/-- The number four hexadecimal digits stand for. -/
def hexCode? (a b c d : Char) : Option Nat := do
  return (((← hexValue? a) * 16 + (← hexValue? b)) * 16 + (← hexValue? c)) * 16 + (← hexValue? d)

def unescape? : Char → Option Char
  | '"' => some '"'
  | '\\' => some '\\'
  | '/' => some '/'
  | 'b' => some '\x08'
  | 'f' => some '\x0c'
  | 'n' => some '\n'
  | 'r' => some '\r'
  | 't' => some '\t'
  | _ => none

/-- Read up to the closing quote, and give what follows it. Nothing where the
quote is missing, an escape is unknown or a control character stands bare. -/
def read? : List Char → Option (List Piece × List Char)
  | [] => none
  | '"' :: rest => some ([], rest)
  | '\\' :: 'u' :: a :: b :: c :: d :: rest =>
      match hexCode? a b c d, read? rest with
      | some n, some (pieces, rest) => some (.code n :: pieces, rest)
      | _, _ => none
  | '\\' :: e :: rest =>
      match unescape? e, read? rest with
      | some c, some (pieces, rest) => some (.char c :: pieces, rest)
      | _, _ => none
  | c :: rest =>
      if c.toNat < 0x20 || c = '\\' then none
      else (read? rest).map fun (pieces, rest) => (.char c :: pieces, rest)

/-- The first half of a surrogate pair. -/
def isHigh (n : Nat) : Bool := 0xD800 ≤ n && n < 0xDC00

/-- The second half of a surrogate pair. -/
def isLow (n : Nat) : Bool := 0xDC00 ≤ n && n < 0xE000

/-- The characters that pieces stand for; a surrogate pair is one character,
and half of one is none. -/
def charsOf? : List Piece → Option (List Char)
  | [] => some []
  | .char c :: rest => (charsOf? rest).map (c :: ·)
  | .code n :: .code m :: rest =>
      if isHigh n then
        if isLow m then
          (charsOf? rest).map (Char.ofNat (0x10000 + (n - 0xD800) * 0x400 + (m - 0xDC00)) :: ·)
        else none
      else if isLow n then none
      else (charsOf? (.code m :: rest)).map (Char.ofNat n :: ·)
  | .code n :: rest =>
      if isHigh n || isLow n then none
      else (charsOf? rest).map (Char.ofNat n :: ·)

def textOf? (pieces : List Piece) : Option String :=
  (charsOf? pieces).map String.ofList

end Quoted

end Json

end FilterQuery
