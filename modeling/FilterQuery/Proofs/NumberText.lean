import FilterQuery.Json.Literal
import Mathlib.Data.List.Basic
import Mathlib.Data.List.TakeDrop

/-!
# Number literals read back

A literal is written with digits, and reading takes as many characters as
belong to it: what follows must not go on with a number (`EndsNumber`). A
literal whose fraction consists of digits is then read back as it is
(`Literal.read?_text`), and all literals that are ever written are such
(`Number.wellFormed_literal`).

From a number to its literal and back is another step. For an integer of 64
bits it is exact (`value?_literal_integer`). For a float it is a matter of
rounding, and `Number.ReadsBack` says of one number that it is exact.
-/

namespace FilterQuery

namespace Json

/-! ## Digits -/

theorem isDigit_of_mem_digits {n : Nat} {c : Char} (h : c ∈ digits n) : c.isDigit = true :=
  Nat.isDigit_of_mem_toDigits (by decide) (by decide) h

theorem digits_ne_nil (n : Nat) : digits n ≠ [] := Nat.toDigits_ne_nil

@[simp] theorem ofDigits_digits (n : Nat) : ofDigits (digits n) = n :=
  Nat.ofDigitChars_ten_toDigits

/-- Only zero is written with a zero at the front. -/
theorem eq_zero_of_head?_digits {n : Nat} (h : (digits n).head? = some '0') : n = 0 := by
  induction n using Nat.strongRecOn with
  | ind n ih =>
    have hdigits : digits n
        = if n < 10 then [n.digitChar] else digits (n / 10) ++ [(n % 10).digitChar] :=
      Nat.toDigits_eq_if (by decide)
    rw [hdigits] at h
    split at h
    next hlt =>
      rw [List.head?_cons, Option.some.injEq, Nat.digitChar_eq_zero] at h
      exact h
    next hge =>
      have hlead : (digits (n / 10)).head? = some '0' := by
        rwa [List.head?_append_of_ne_nil _ (digits_ne_nil _)] at h
      have := ih (n / 10) (by omega) hlead
      omega

/-! ## Where a number ends -/

/-- Characters that do not go on with a number. -/
structure EndsNumber (cs : List Char) : Prop where
  digit : ∀ c ∈ cs.head?, c.isDigit = false
  point : cs.head? ≠ some '.'
  exponent : ∀ c ∈ cs.head?, c ≠ 'e' ∧ c ≠ 'E'

theorem EndsNumber.nil : EndsNumber [] := ⟨by simp, by simp, by simp⟩

theorem EndsNumber.cons {c : Char} (hdigit : c.isDigit = false) (hpoint : c ≠ '.') (he : c ≠ 'e')
    (hE : c ≠ 'E') (cs : List Char) : EndsNumber (c :: cs) :=
  ⟨by simpa using hdigit, by simpa using hpoint, by simpa using ⟨he, hE⟩⟩

namespace Literal

theorem readDigits?_append {ds rest : List Char} (hne : ds ≠ []) (hds : ∀ c ∈ ds, c.isDigit = true)
    (hrest : ∀ c ∈ rest.head?, c.isDigit = false) : readDigits? (ds ++ rest) = some (ds, rest) := by
  have hspan : (ds ++ rest).span Char.isDigit = (ds, rest) := by
    have hstop : rest.takeWhile Char.isDigit = [] ∧ rest.dropWhile Char.isDigit = rest := by
      cases rest with
      | nil => simp
      | cons c cs => simp [hrest c rfl]
    rw [List.span_eq_takeWhile_dropWhile, List.takeWhile_append_of_pos hds,
      List.dropWhile_append_of_pos hds, hstop.1, hstop.2, List.append_nil]
  rw [readDigits?, hspan]
  cases ds with
  | nil => exact absurd rfl hne
  | cons d ds => rfl

theorem readWhole?_digits (n : Nat) {rest : List Char}
    (hrest : ∀ c ∈ rest.head?, c.isDigit = false) :
    readWhole? (digits n ++ rest) = some (n, rest) := by
  have hread := readDigits?_append (digits_ne_nil n) (fun _ => isDigit_of_mem_digits) hrest
  have hzero : ¬((digits n).head? = some '0' ∧ 1 < (digits n).length) := by
    rintro ⟨hhead, hlength⟩
    rw [eq_zero_of_head?_digits hhead] at hlength
    exact absurd hlength (by decide)
  simp [readWhole?, hread, hzero]

theorem readFraction?_fractionText {ds rest : List Char} (hds : ∀ c ∈ ds, c.isDigit = true)
    (hdigit : ∀ c ∈ rest.head?, c.isDigit = false) (hpoint : rest.head? ≠ some '.') :
    readFraction? (fractionText ds ++ rest) = some (ds, rest) := by
  by_cases hne : ds = []
  · subst hne
    cases rest with
    | nil => rfl
    | cons c cs =>
      have hc : c ≠ '.' := by simpa using hpoint
      simp [fractionText, readFraction?, hc]
  · have hfraction : fractionText ds = '.' :: ds := by simp [fractionText, hne]
    rw [hfraction, List.cons_append, readFraction?]
    exact readDigits?_append hne hds hdigit

theorem readExponent?_exponentText (e : Option Int) {rest : List Char} (hrest : EndsNumber rest) :
    readExponent? (exponentText e ++ rest) = some (e, rest) := by
  cases e with
  | none =>
    cases rest with
    | nil => rfl
    | cons c cs =>
      have hc : ¬(c = 'e' ∨ c = 'E') := not_or.mpr (hrest.exponent c rfl)
      simp [exponentText, readExponent?, hc]
  | some e =>
    have hread := readDigits?_append (digits_ne_nil e.natAbs) (fun _ => isDigit_of_mem_digits)
      hrest.digit
    by_cases he : e < 0
    · have hvalue : -(e.natAbs : Int) = e := by omega
      simp only [exponentText, he, if_true, List.cons_append, readExponent?, decide_true,
        Bool.true_or, readExponentSign, hread, Option.map_some, ofDigits_digits, hvalue]
    · have hvalue : (e.natAbs : Int) = e := by omega
      simp only [exponentText, he, if_false, List.cons_append, readExponent?, decide_true,
        Bool.true_or, if_true, readExponentSign, Bool.false_eq_true, hread, Option.map_some,
        ofDigits_digits, hvalue]

/-- A literal as it can be written: its fraction consists of digits. -/
def WellFormed (l : Literal) : Prop := ∀ c ∈ l.fraction, c.isDigit = true

theorem head?_exponentText (e : Option Int) {rest : List Char} (hrest : EndsNumber rest) :
    ∀ c ∈ (exponentText e ++ rest).head?, c.isDigit = false ∧ c ≠ '.' := by
  cases e with
  | none =>
    intro c hc
    refine ⟨hrest.digit c hc, ?_⟩
    rintro rfl
    exact hrest.point hc
  | some e => simp [exponentText]

theorem head?_fractionText (ds : List Char) {rest : List Char}
    (hrest : ∀ c ∈ rest.head?, c.isDigit = false) :
    ∀ c ∈ (fractionText ds ++ rest).head?, c.isDigit = false := by
  unfold fractionText
  split
  · exact hrest
  · simp

section Parts

variable {whole : Nat} {fraction : List Char} {exponent : Option Int} {cs ds es rest : List Char}

theorem read?_unsigned (hcs : cs.head? ≠ some '-') (hwhole : readWhole? cs = some (whole, ds))
    (hfraction : readFraction? ds = some (fraction, es))
    (hexponent : readExponent? es = some (exponent, rest)) :
    read? cs = some (⟨false, whole, fraction, exponent⟩, rest) := by
  cases cs with
  | nil => simp [read?, hwhole, hfraction, hexponent]
  | cons c cs =>
    have hc : c ≠ '-' := by simpa using hcs
    simp [read?, hc, hwhole, hfraction, hexponent]

theorem read?_negative (hwhole : readWhole? cs = some (whole, ds))
    (hfraction : readFraction? ds = some (fraction, es))
    (hexponent : readExponent? es = some (exponent, rest)) :
    read? ('-' :: cs) = some (⟨true, whole, fraction, exponent⟩, rest) := by
  simp [read?, hwhole, hfraction, hexponent]

end Parts

/-- A written literal is read back, and no character of what follows. -/
theorem read?_text {l : Literal} (hl : l.WellFormed) {rest : List Char} (hrest : EndsNumber rest) :
    read? (l.text ++ rest) = some (l, rest) := by
  obtain ⟨negative, whole, fraction, exponent⟩ := l
  have hend := head?_exponentText exponent hrest
  have hdigit : ∀ c ∈ (exponentText exponent ++ rest).head?, c.isDigit = false :=
    fun c hc => (hend c hc).1
  have hpoint : (exponentText exponent ++ rest).head? ≠ some '.' := fun hc => (hend '.' hc).2 rfl
  have hwhole := readWhole?_digits whole (head?_fractionText fraction hdigit)
  have hfraction := readFraction?_fractionText hl hdigit hpoint
  have hexponent := readExponent?_exponentText exponent hrest
  cases negative with
  | true =>
    simp only [text, if_true, List.append_assoc, List.cons_append, List.nil_append]
    exact read?_negative hwhole hfraction hexponent
  | false =>
    simp only [text, Bool.false_eq_true, if_false, List.append_assoc, List.nil_append]
    refine read?_unsigned ?_ hwhole hfraction hexponent
    rw [List.head?_append_of_ne_nil _ (digits_ne_nil whole)]
    intro hhead
    have hminus := isDigit_of_mem_digits (List.mem_of_head? hhead)
    cases hminus

/-- A literal is written with a minus or a digit at the front. -/
theorem text_eq_cons (l : Literal) :
    ∃ c cs, l.text = c :: cs ∧ (c = '-' ∨ c.isDigit = true) := by
  cases hds : digits l.whole with
  | nil => exact absurd hds (digits_ne_nil l.whole)
  | cons d ds =>
    have hd : d.isDigit = true := isDigit_of_mem_digits (n := l.whole) (by simp [hds])
    cases hl : l.negative with
    | true => exact ⟨'-', _, by simp only [text, hl, if_true, List.cons_append]; rfl, Or.inl rfl⟩
    | false =>
      exact ⟨d, _, by simp only [text, hl, hds, Bool.false_eq_true, if_false, List.nil_append,
        List.cons_append]; rfl, Or.inr hd⟩

/-! ## The literals that are written -/

theorem wellFormed_ofDecimal (d : Decimal) : (ofDecimal d).WellFormed := by
  have hdigits : ∀ c ∈ digits d.coefficient, c.isDigit = true := fun _ => isDigit_of_mem_digits
  have hzero : ∀ c ∈ ['0'], c.isDigit = true := by simp
  simp only [ofDecimal]
  split
  · exact hzero
  split
  · exact fun c hc => hdigits c (List.mem_of_mem_drop hc)
  split
  · exact hzero
  · intro c hc
    rcases List.mem_append.mp (List.mem_of_mem_drop hc) with hc | hc
    · rw [List.eq_of_mem_replicate hc]
      rfl
    · exact hdigits c hc

end Literal

namespace Number

theorem wellFormed_literal (n : Number) : n.literal.WellFormed := by
  cases n with
  | integer n => exact fun c hc => (List.not_mem_nil hc).elim
  | float x => exact Literal.wellFormed_ofDecimal _

/-- The literal of an integer that fits 64 bits, signed or unsigned, stands
for that integer. -/
theorem value?_literal_integer [FloatReader] {n : Int} (hlow : Int64.minValue.toInt ≤ n)
    (hhigh : n < UInt64.size) : (literal (.integer n)).value? = some (.integer n) := by
  have hinteger : (literal (.integer n)).integer? = some n := by
    by_cases hn : n < 0
    · have habs : -(n.natAbs : Int) = n := by omega
      have hpos : 0 < n.natAbs := by omega
      simp only [literal, Literal.integer?, hn, hpos, habs, hlow, decide_true, Option.isNone_none,
        Bool.and_self, if_true]
    · have habs : (n.natAbs : Int) = n := by omega
      have hsize : n.natAbs < UInt64.size := by omega
      simp only [literal, Literal.integer?, hn, hsize, habs, decide_true, decide_false,
        Option.isNone_none, Bool.and_self, Bool.false_eq_true, if_true, if_false]
  rw [Literal.value?, hinteger]

/-- The number reader reads back the number that was written. -/
def ReadsBack [FloatReader] (n : Number) : Prop := n.literal.value? = some n

instance [FloatReader] (n : Number) : Decidable n.ReadsBack := inferInstanceAs (Decidable (_ = _))

theorem readsBack_int64 [FloatReader] (n : Int64) : ReadsBack (.integer n.toInt) := by
  have hhigh : n.toInt ≤ Int64.maxValue.toInt := n.toInt_le
  have hsize : Int64.maxValue.toInt < UInt64.size := by decide
  exact value?_literal_integer n.minValue_le_toInt (by omega)

end Number

end Json

end FilterQuery
