import FilterQuery.Target

/-!
# Document keys of targets

A query names a field by its key: the texts of the path's segments, joined by
dots. A segment must not hold a character that means something in a key or in
an expression, nor two hyphens in a row; such a text is reserved.

While the key is still empty no dot is put before a segment, so empty
segments at the front of a path leave no trace in its key.
-/

namespace FilterQuery

/-- The characters that no segment of a key may hold. -/
def reservedChars : List Char :=
  ['"', '\x7b', '\x7d', '$', ';', ',', '(', ')', '[', ']', '\'', '*', '<', '>', '#', '~', '@', '&',
    '%', '?', ':', '\x60', '/', '\\']

/-- Whether characters hold a reserved one or two hyphens in a row. -/
def holdsReserved : List Char → Bool
  | [] => false
  | '-' :: '-' :: _ => true
  | c :: rest => c ∈ reservedChars || holdsReserved rest

/-- Whether a text may not be a segment of a key. -/
def isReserved (s : String) : Bool := holdsReserved s.toList

namespace Target

/-- Put a segment behind a key. -/
def extendKey (key segment : String) : String :=
  if key = "" then segment else key ++ "." ++ segment

/-- The key of the path with these texts. -/
def keyOfTexts (texts : List String) : String := texts.foldl extendKey ""

def key (t : Target) : String := keyOfTexts t.texts

def isReserved (t : Target) : Bool := t.texts.any FilterQuery.isReserved

end Target

end FilterQuery
