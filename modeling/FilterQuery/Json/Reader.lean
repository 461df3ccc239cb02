import FilterQuery.Json.Source

/-!
# Reading JSON

`Source.ofText` reads a text into its source and says whether anything but
blanks follows the value. Of two steps of the reader, one inside the other,
at least one takes a character, so twice the length of the text bounds the
depth of its recursion.
-/

namespace FilterQuery

namespace Json

/-- A character that may stand between the parts of a JSON text. -/
def isBlank (c : Char) : Bool := c = ' ' || c = '\t' || c = '\n' || c = '\r'

/-- The characters after leading blanks. -/
def skipBlanks (cs : List Char) : List Char := cs.dropWhile isBlank

/-- A source, and the characters that follow it. After a fault nothing is
read, so nothing follows. -/
abbrev Reading (α : Type) := α × List Char

/-- A value that begins with neither a quote, a bracket nor a brace. -/
def readWord [FloatReader] (cs : List Char) : Reading Source :=
  match cs with
  | 'n' :: 'u' :: 'l' :: 'l' :: rest => (.null, rest)
  | 't' :: 'r' :: 'u' :: 'e' :: rest => (.boolean true, rest)
  | 'f' :: 'a' :: 'l' :: 's' :: 'e' :: rest => (.boolean false, rest)
  | _ =>
      match Literal.read? cs with
      | some (l, rest) => (.number l.value?, rest)
      | none => (.fault, [])

mutual

/-- Read one value; `fuel` bounds how many steps are taken below this one. -/
def readValue [FloatReader] : (fuel : Nat) → List Char → Reading Source
  | 0, _ => (.fault, [])
  | fuel + 1, cs =>
      match skipBlanks cs with
      | '"' :: rest =>
          match Quoted.read? rest with
          | some (pieces, rest) => (.string (Quoted.textOf? pieces), rest)
          | none => (.fault, [])
      | '[' :: rest =>
          match skipBlanks rest with
          | ']' :: rest => (.array .closed, rest)
          | rest =>
              let (items, rest) := readItems fuel rest
              (.array items, rest)
      | '\x7b' :: rest =>
          match skipBlanks rest with
          | '\x7d' :: rest => (.object .closed, rest)
          | '"' :: rest =>
              let (members, rest) := readMembers fuel rest
              (.object members, rest)
          | _ => (.object .broken, [])
      | cs => readWord cs

/-- Read items, at least one, up to the closing bracket. -/
def readItems [FloatReader] : (fuel : Nat) → List Char → Reading Source.Items
  | 0, _ => (.broken, [])
  | fuel + 1, cs =>
      let (item, rest) := readValue fuel cs
      match skipBlanks rest with
      | ',' :: rest =>
          let (items, rest) := readItems fuel rest
          (.cons item items, rest)
      | ']' :: rest => (.cons item .closed, rest)
      | _ => (.cons item .broken, [])

/-- Read members, at least one, from behind the opening quote of the first
key up to the closing brace. -/
def readMembers [FloatReader] : (fuel : Nat) → List Char → Reading Source.Members
  | 0, _ => (.broken, [])
  | fuel + 1, cs =>
      match Quoted.read? cs with
      | none => (.broken, [])
      | some (pieces, rest) =>
          let key := Quoted.textOf? pieces
          match skipBlanks rest with
          | ':' :: rest =>
              let (value, rest) := readValue fuel rest
              match skipBlanks rest with
              | ',' :: rest =>
                  match skipBlanks rest with
                  | '"' :: rest =>
                      let (members, rest) := readMembers fuel rest
                      (.cons key value members, rest)
                  | _ => (.cons key value .broken, [])
              | '\x7d' :: rest => (.cons key value .closed, rest)
              | _ => (.cons key value .broken, [])
          | _ => (.cons key .fault .broken, [])

end

namespace Source

/-- Read a text: its source, and whether nothing but blanks follows. -/
def ofText [FloatReader] (text : String) : Source × Bool :=
  let cs := text.toList
  let (source, rest) := readValue (2 * cs.length + 1) cs
  (source, (skipBlanks rest).isEmpty)

end Source

end Json

end FilterQuery
