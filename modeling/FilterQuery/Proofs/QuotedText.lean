import FilterQuery.Json.Quoted

/-!
# Quoted texts read back

A text is written between quotes character by character, and each character
by itself is read back as one piece: as itself, or as the number of an escape
where it is a control character without a letter of its own (`pieceOf`). The
number of such an escape is never half of a surrogate pair, so the pieces of a
written text stand for that text, wherever in it they stand (`textOf?_pieces`).
-/

namespace FilterQuery

namespace Json

namespace Quoted

/-- The piece that a character is read back as. -/
def pieceOf (c : Char) : Piece :=
  if c.toNat < 0x20 ∧ c ∉ ['\x08', '\t', '\n', '\x0c', '\r'] then .code c.toNat else .char c

/-! ## Digits of an escape -/

theorem hexValue?_hexDigit {n : Nat} (h : n < 16) : hexValue? (hexDigit n) = some n := by
  have hall : ∀ n < 16, hexValue? (hexDigit n) = some n := by decide
  exact hall n h

/-- The four digits that a control character is written with. -/
theorem hexCode?_control {n : Nat} (h : n < 0x20) :
    hexCode? '0' '0' (hexDigit (n / 16)) (hexDigit (n % 16)) = some n := by
  have hzero : hexValue? '0' = some 0 := rfl
  simp only [hexCode?, hzero, hexValue?_hexDigit (show n / 16 < 16 by omega),
    hexValue?_hexDigit (show n % 16 < 16 by omega), Option.bind_eq_bind, Option.bind_some,
    Option.pure_def, Option.some.injEq]
  omega

/-! ## Reading what was written -/

/-- Put a piece in front of what is read. -/
def withPiece (piece : Piece) (read : Option (List Piece × List Char)) :
    Option (List Piece × List Char) :=
  read.map fun (pieces, rest) => (piece :: pieces, rest)

theorem read?_code {a b c d : Char} {n : Nat} (h : hexCode? a b c d = some n) (cs : List Char) :
    read? ('\\' :: 'u' :: a :: b :: c :: d :: cs) = withPiece (.code n) (read? cs) := by
  rw [read?, h]
  cases read? cs <;> rfl

theorem read?_letter {e c : Char} (h : unescape? e = some c) (hu : e ≠ 'u') (cs : List Char) :
    read? ('\\' :: e :: cs) = withPiece (.char c) (read? cs) := by
  rw [read?, h]
  · cases read? cs <;> rfl
  · rintro _ _ _ _ _ rfl
    exact absurd rfl hu

theorem read?_bare {c : Char} (hquote : c ≠ '"') (hslash : c ≠ '\\') (hcontrol : ¬c.toNat < 0x20)
    (cs : List Char) : read? (c :: cs) = withPiece (.char c) (read? cs) := by
  rw [read?]
  · simp [hslash, hcontrol, withPiece]
  · exact hquote
  · exact fun _ _ _ _ _ h => absurd h hslash
  · exact fun _ _ h => absurd h hslash

/-- A written character is read as its piece: it has an escape with a letter, an
escape with a number, or none. -/
theorem read?_escape (c : Char) (cs : List Char) :
    read? (escape c ++ cs) = withPiece (pieceOf c) (read? cs) := by
  by_cases hletter : c ∈ ['"', '\\', '\x08', '\t', '\n', '\x0c', '\r']
  · simp only [List.mem_cons, List.not_mem_nil, or_false] at hletter
    obtain rfl | rfl | rfl | rfl | rfl | rfl | rfl := hletter <;>
      exact read?_letter rfl (by decide) cs
  · simp only [List.mem_cons, List.not_mem_nil, or_false, not_or] at hletter
    obtain ⟨hquote, hslash, hb, ht, hn, hf, hr⟩ := hletter
    by_cases hcontrol : c.toNat < 0x20
    · have hescape : escape c
          = ['\\', 'u', '0', '0', hexDigit (c.toNat / 16), hexDigit (c.toNat % 16)] := by
        simp only [escape, hquote, hslash, hb, ht, hn, hf, hr, hcontrol, if_true, if_false]
      have hpiece : pieceOf c = .code c.toNat := if_pos ⟨hcontrol, by simp [hb, ht, hn, hf, hr]⟩
      rw [hescape, hpiece]
      exact read?_code (hexCode?_control hcontrol) cs
    · have hescape : escape c = [c] := by
        simp only [escape, hquote, hslash, hb, ht, hn, hf, hr, hcontrol, if_false]
      have hpiece : pieceOf c = .char c := if_neg fun h => hcontrol h.1
      rw [hescape, hpiece]
      exact read?_bare hquote hslash hcontrol cs

/-- What is written between the quotes is read up to the closing one. -/
theorem read?_flatMap_escape (cs rest : List Char) :
    read? (cs.flatMap escape ++ '"' :: rest) = some (cs.map pieceOf, rest) := by
  induction cs with
  | nil => rw [List.flatMap_nil, List.nil_append, read?, List.map_nil]
  | cons c cs ih =>
    rw [List.flatMap_cons, List.append_assoc, read?_escape, ih]
    rfl

/-- A control character is no half of a surrogate pair, so its number needs
no second one behind it. -/
theorem charsOf?_pieceOf_cons (c : Char) (pieces : List Piece) :
    charsOf? (pieceOf c :: pieces) = (charsOf? pieces).map (c :: ·) := by
  by_cases h : c.toNat < 0x20 ∧ c ∉ ['\x08', '\t', '\n', '\x0c', '\r']
  · have hpiece : pieceOf c = .code c.toNat := if_pos h
    have hhigh : isHigh c.toNat = false := by
      simp only [isHigh, Bool.and_eq_false_iff, decide_eq_false_iff_not]
      omega
    have hlow : isLow c.toNat = false := by
      simp only [isLow, Bool.and_eq_false_iff, decide_eq_false_iff_not]
      omega
    have hchar : Char.ofNat c.toNat = c := Char.ofNat_toNat c
    rw [hpiece]
    cases pieces with
    | nil => simp [charsOf?, hhigh, hlow, hchar]
    | cons piece pieces => cases piece <;> simp [charsOf?, hhigh, hlow, hchar]
  · have hpiece : pieceOf c = .char c := if_neg h
    rw [hpiece, charsOf?]

theorem textOf?_pieces (s : String) : textOf? (s.toList.map pieceOf) = some s := by
  have hchars : ∀ cs : List Char, charsOf? (cs.map pieceOf) = some cs := by
    intro cs
    induction cs with
    | nil => rfl
    | cons c cs ih => rw [List.map_cons, charsOf?_pieceOf_cons, ih, Option.map_some]
  rw [textOf?, hchars, Option.map_some, String.ofList_toList]

/-- A written text, behind its opening quote. -/
theorem write_eq (s : String) (rest : List Char) :
    write s ++ rest = '"' :: (s.toList.flatMap escape ++ '"' :: rest) := by
  simp [write]

end Quoted

end Json

end FilterQuery
