import FilterQuery.Json.Printer
import FilterQuery.Json.Reader
import FilterQuery.Proofs.NumberText
import FilterQuery.Proofs.QuotedText

/-!
# JSON texts

What a JSON text is, apart from how it is printed or read: `IsText j cs` says
that the characters `cs` are a text of the value `j`, with blanks wherever
they may stand. Both printers give texts (`isText_chars`,
`isText_prettyChars`), and the reader reads a text of a value as the source of
that value (`readValue_of_isText`), whatever follows it. Put together: what is
printed is read back, without a fault and to the last character
(`Source.ofText_render`, `Source.ofText_renderPretty`).

All that is asked of the value is that its numbers are finite and read back.
-/

namespace FilterQuery

namespace Json

/-! ## The grammar -/

def Blank (cs : List Char) : Prop := ∀ c ∈ cs, isBlank c = true

mutual

/-- The characters are a text of the value, without blanks around it. -/
inductive IsText [FloatReader] : Json → List Char → Prop
  | null : IsText .null ['n', 'u', 'l', 'l']
  | boolean (b : Bool) : IsText (.boolean b) (booleanChars b)
  | number {l : Literal} {n : Number} (hl : l.WellFormed) (hn : l.value? = some n) :
      IsText (.number n) l.text
  | string (s : String) : IsText (.string s) (Quoted.write s)
  | emptyArray {gap : List Char} (hgap : Blank gap) : IsText (.array []) ('[' :: (gap ++ [']']))
  | array {items : List Json} {cs : List Char} (h : AreItems items cs) :
      IsText (.array items) ('[' :: cs)
  | emptyObject {gap : List Char} (hgap : Blank gap) :
      IsText (.object []) ('\x7b' :: (gap ++ ['\x7d']))
  | object {members : List (String × Json)} {cs : List Char} (h : AreMembers members cs) :
      IsText (.object members) ('\x7b' :: cs)

/-- The characters are a text of the items, at least one, up to and with the
closing bracket. -/
inductive AreItems [FloatReader] : List Json → List Char → Prop
  | last {item : Json} {lead cs trail : List Char} (hlead : Blank lead) (h : IsText item cs)
      (htrail : Blank trail) : AreItems [item] (lead ++ (cs ++ (trail ++ [']'])))
  | cons {item : Json} {rest : List Json} {lead cs trail more : List Char} (hlead : Blank lead)
      (h : IsText item cs) (htrail : Blank trail) (hrest : AreItems rest more) :
      AreItems (item :: rest) (lead ++ (cs ++ (trail ++ ',' :: more)))

/-- The characters are a text of the members, at least one, up to and with
the closing brace. -/
inductive AreMembers [FloatReader] : List (String × Json) → List Char → Prop
  | last {key : String} {value : Json} {lead middle after cs trail : List Char} (hlead : Blank lead)
      (hmiddle : Blank middle) (hafter : Blank after) (h : IsText value cs) (htrail : Blank trail) :
      AreMembers [(key, value)]
        (lead ++ (Quoted.write key ++ (middle ++ ':' :: (after ++ (cs ++ (trail ++ ['\x7d']))))))
  | cons {key : String} {value : Json} {rest : List (String × Json)}
      {lead middle after cs trail more : List Char} (hlead : Blank lead) (hmiddle : Blank middle)
      (hafter : Blank after) (h : IsText value cs) (htrail : Blank trail)
      (hrest : AreMembers rest more) :
      AreMembers ((key, value) :: rest)
        (lead ++ (Quoted.write key ++ (middle ++ ':' :: (after ++ (cs ++ (trail ++ ',' :: more))))))

end

/-! ## Blanks -/

theorem Blank.nil : Blank [] := fun _ h => (List.not_mem_nil h).elim

theorem skipBlanks_append {gap : List Char} (hgap : Blank gap) (cs : List Char) :
    skipBlanks (gap ++ cs) = skipBlanks cs :=
  List.dropWhile_append_of_pos hgap

theorem skipBlanks_cons {c : Char} (hc : isBlank c = false) (cs : List Char) :
    skipBlanks (c :: cs) = c :: cs := by
  rw [skipBlanks, List.dropWhile_cons_of_neg (by simp [hc])]

theorem skipBlanks_append_cons {gap : List Char} (hgap : Blank gap) {c : Char}
    (hc : isBlank c = false) (cs : List Char) : skipBlanks (gap ++ c :: cs) = c :: cs := by
  rw [skipBlanks_append hgap, skipBlanks_cons hc]

theorem skipBlanks_skipBlanks (cs : List Char) : skipBlanks (skipBlanks cs) = skipBlanks cs := by
  induction cs with
  | nil => rfl
  | cons c cs ih =>
    cases hc : isBlank c with
    | true =>
      have hskip : skipBlanks (c :: cs) = skipBlanks cs := List.dropWhile_cons_of_pos hc
      rwa [hskip]
    | false => rw [skipBlanks_cons hc, skipBlanks_cons hc]

theorem readValue_skipBlanks [FloatReader] (fuel : Nat) (cs : List Char) :
    readValue fuel (skipBlanks cs) = readValue fuel cs := by
  cases fuel with
  | zero => rfl
  | succ fuel => rw [readValue, readValue, skipBlanks_skipBlanks]

theorem readItems_skipBlanks [FloatReader] (fuel : Nat) (cs : List Char) :
    readItems fuel (skipBlanks cs) = readItems fuel cs := by
  cases fuel with
  | zero => rfl
  | succ fuel => rw [readItems, readItems, readValue_skipBlanks]

/-- Blanks in front of a value make no difference. -/
theorem readValue_append [FloatReader]
    {gap : List Char} (hgap : Blank gap) (fuel : Nat) (cs : List Char) :
    readValue fuel (gap ++ cs) = readValue fuel cs := by
  rw [← readValue_skipBlanks, skipBlanks_append hgap, readValue_skipBlanks]

theorem readItems_append [FloatReader]
    {gap : List Char} (hgap : Blank gap) (fuel : Nat) (cs : List Char) :
    readItems fuel (gap ++ cs) = readItems fuel cs := by
  rw [← readItems_skipBlanks, skipBlanks_append hgap, readItems_skipBlanks]

/-- A minus or a digit is no other mark. -/
theorem ne_of_startsNumber {c d : Char} (hc : c = '-' ∨ c.isDigit = true) (hminus : d ≠ '-')
    (hdigit : d.isDigit = false) : c ≠ d := by
  rintro rfl
  rcases hc with hc | hc
  · exact hminus hc
  · rw [hdigit] at hc
    cases hc

theorem isBlank_of_startsNumber {c : Char} (hc : c = '-' ∨ c.isDigit = true) :
    isBlank c = false := by
  have hspace : c ≠ ' ' := ne_of_startsNumber hc (by decide) rfl
  have htab : c ≠ '\t' := ne_of_startsNumber hc (by decide) rfl
  have hline : c ≠ '\n' := ne_of_startsNumber hc (by decide) rfl
  have hreturn : c ≠ '\r' := ne_of_startsNumber hc (by decide) rfl
  simp [isBlank, hspace, htab, hline, hreturn]

/-- What follows a value, blanks and then a mark, does not go on with a
number. -/
theorem endsNumber_append {gap : List Char} (hgap : Blank gap) {c : Char}
    (hdigit : c.isDigit = false) (hpoint : c ≠ '.') (he : c ≠ 'e') (hE : c ≠ 'E') (cs : List Char) :
    EndsNumber (gap ++ c :: cs) := by
  cases gap with
  | nil => exact .cons hdigit hpoint he hE cs
  | cons b gap =>
    have hb : isBlank b = true := hgap b List.mem_cons_self
    simp only [isBlank, Bool.or_eq_true, decide_eq_true_eq] at hb
    obtain ((rfl | rfl) | rfl) | rfl := hb <;>
      exact .cons rfl (by decide) (by decide) (by decide) _

/-! ## Steps of the reader -/

section Steps

variable {fuel : Nat} {cs rest : List Char}

theorem readValue_string [FloatReader] (s : String) :
    readValue (fuel + 1) (Quoted.write s ++ rest) = (.string (some s), rest) := by
  rw [Quoted.write_eq, readValue, skipBlanks_cons (by decide)]
  simp [Quoted.read?_flatMap_escape, Quoted.textOf?_pieces]

/-- A value that begins like a number is read as one. -/
theorem readValue_number [FloatReader] {c : Char} (hc : c = '-' ∨ c.isDigit = true) {l : Literal}
    (h : Literal.read? (c :: cs) = some (l, rest)) :
    readValue (fuel + 1) (c :: cs) = (.number l.value?, rest) := by
  have hquote : c ≠ '"' := ne_of_startsNumber hc (by decide) rfl
  have hbracket : c ≠ '[' := ne_of_startsNumber hc (by decide) rfl
  have hbrace : c ≠ '\x7b' := ne_of_startsNumber hc (by decide) rfl
  have hn : c ≠ 'n' := ne_of_startsNumber hc (by decide) rfl
  have ht : c ≠ 't' := ne_of_startsNumber hc (by decide) rfl
  have hf : c ≠ 'f' := ne_of_startsNumber hc (by decide) rfl
  rw [readValue, skipBlanks_cons (isBlank_of_startsNumber hc)]
  simp [hquote, hbracket, hbrace, readWord, hn, ht, hf, h]

theorem readValue_items [FloatReader] {c : Char} {ds : List Char} (hcs : skipBlanks cs = c :: ds)
    (hc : c ≠ ']') :
    readValue (fuel + 1) ('[' :: cs)
      = (.array (readItems fuel cs).1, (readItems fuel cs).2) := by
  rw [readValue, skipBlanks_cons (by decide)]
  simp [hcs, hc, ← readItems_skipBlanks fuel cs]

theorem readValue_members [FloatReader] {ds : List Char} (hcs : skipBlanks cs = '"' :: ds) :
    readValue (fuel + 1) ('\x7b' :: cs)
      = (.object (readMembers fuel ds).1, (readMembers fuel ds).2) := by
  rw [readValue, skipBlanks_cons (by decide)]
  simp [hcs]

theorem readItems_last [FloatReader] {item : Source}
    {ds : List Char} (hitem : readValue fuel cs = (item, ds)) (hds : skipBlanks ds = ']' :: rest) :
    readItems (fuel + 1) cs = (.cons item .closed, rest) := by
  simp [readItems, hitem, hds]

theorem readItems_cons [FloatReader] {item : Source} {items : Source.Items} {ds more : List Char}
    (hitem : readValue fuel cs = (item, ds)) (hds : skipBlanks ds = ',' :: more)
    (hmore : readItems fuel more = (items, rest)) :
    readItems (fuel + 1) cs = (.cons item items, rest) := by
  simp [readItems, hitem, hds, hmore]

section Members

variable {key : String} {value : Source} {ds es : List Char}

theorem readMembers_last [FloatReader] (hvalue : readValue fuel ds = (value, es))
    (hes : skipBlanks es = '\x7d' :: rest) {gap : List Char} (hgap : Blank gap) :
    readMembers (fuel + 1) (key.toList.flatMap Quoted.escape ++ '"' :: (gap ++ ':' :: ds))
      = (.cons (some key) value .closed, rest) := by
  have hcolon : skipBlanks (gap ++ ':' :: ds) = ':' :: ds := skipBlanks_append_cons hgap rfl ds
  simp [readMembers, Quoted.read?_flatMap_escape, Quoted.textOf?_pieces, hcolon, hvalue, hes]

theorem readMembers_cons [FloatReader] {members : Source.Members} {more behind : List Char}
    (hvalue : readValue fuel ds = (value, es)) (hes : skipBlanks es = ',' :: more)
    (hquote : skipBlanks more = '"' :: behind)
    (hmore : readMembers fuel behind = (members, rest)) {gap : List Char} (hgap : Blank gap) :
    readMembers (fuel + 1) (key.toList.flatMap Quoted.escape ++ '"' :: (gap ++ ':' :: ds))
      = (.cons (some key) value members, rest) := by
  have hcolon : skipBlanks (gap ++ ':' :: ds) = ':' :: ds := skipBlanks_append_cons hgap rfl ds
  simp [readMembers, Quoted.read?_flatMap_escape, Quoted.textOf?_pieces, hcolon, hvalue, hes,
    hquote, hmore]

end Members

end Steps

/-! ## Reading a text -/

/-- A text begins with a mark that is no blank and does not end a list. -/
theorem IsText.head [FloatReader] {j : Json} {cs : List Char} (h : IsText j cs) :
    ∃ c ds, cs = c :: ds ∧ isBlank c = false ∧ c ≠ ']' := by
  cases h with
  | null | emptyArray hgap | array h | emptyObject hgap | object h | string s =>
    exact ⟨_, _, rfl, by decide, by decide⟩
  | boolean b => cases b <;> exact ⟨_, _, rfl, by decide, by decide⟩
  | @number l n hl hn =>
    obtain ⟨c, ds, htext, hc⟩ := l.text_eq_cons
    exact ⟨c, ds, htext, isBlank_of_startsNumber hc, ne_of_startsNumber hc (by decide) rfl⟩

theorem AreItems.head [FloatReader] {items : List Json} {cs : List Char} (h : AreItems items cs)
    (rest : List Char) : ∃ c ds, skipBlanks (cs ++ rest) = c :: ds ∧ c ≠ ']' := by
  cases h with
  | last hlead h _ | cons hlead h _ _ =>
    obtain ⟨c, ds, rfl, hblank, hclose⟩ := h.head
    rw [List.append_assoc, skipBlanks_append hlead]
    exact ⟨c, _, skipBlanks_cons hblank _, hclose⟩

theorem AreMembers.head [FloatReader] {members : List (String × Json)} {cs : List Char}
    (h : AreMembers members cs) (rest : List Char) :
    ∃ ds, skipBlanks (cs ++ rest) = '"' :: ds := by
  cases h with
  | last hlead _ _ _ _ | cons hlead _ _ _ _ _ =>
    rw [List.append_assoc, skipBlanks_append hlead, List.append_assoc, Quoted.write_eq]
    exact ⟨_, skipBlanks_cons (by decide) _⟩

mutual

/-- A text of a value is read as the source of the value. -/
theorem readValue_of_isText [FloatReader] {j : Json} {cs : List Char} (h : IsText j cs) (fuel : Nat)
    (hfuel : 2 * cs.length ≤ fuel) {rest : List Char} (hrest : EndsNumber rest) :
    readValue fuel (cs ++ rest) = (j.toSource, rest) := by
  obtain ⟨c, ds, hcs, hblank, -⟩ := h.head
  obtain ⟨fuel, rfl⟩ : ∃ n, fuel = n + 1 := by
    rw [hcs, List.length_cons] at hfuel
    exact ⟨fuel - 1, by omega⟩
  cases h with
  | null => rfl
  | boolean b => cases b <;> rfl
  | string s => exact readValue_string s
  | @number l n hl hn =>
    obtain ⟨d, es, htext, hd⟩ := l.text_eq_cons
    have hread := Literal.read?_text hl hrest
    rw [htext, List.cons_append] at hread ⊢
    rw [readValue_number hd hread, hn, toSource]
  | emptyArray hgap =>
    simp [readValue, skipBlanks_cons (show isBlank '[' = false from rfl),
      skipBlanks_append_cons hgap (show isBlank ']' = false from rfl), toSource, itemSources]
  | emptyObject hgap =>
    simp [readValue, skipBlanks_cons (show isBlank '\x7b' = false from rfl),
      skipBlanks_append_cons hgap (show isBlank '\x7d' = false from rfl), toSource, memberSources]
  | array h =>
    obtain ⟨d, es, hstart, hd⟩ := h.head rest
    rw [List.length_cons] at hfuel
    rw [List.cons_append, readValue_items hstart hd,
      readItems_of_areItems h fuel (by omega) rest, toSource]
  | object h =>
    obtain ⟨es, hstart⟩ := h.head rest
    rw [List.length_cons] at hfuel
    rw [List.cons_append, readValue_members hstart,
      readMembers_of_areMembers h fuel (by omega) hstart, toSource]

theorem readItems_of_areItems [FloatReader] {items : List Json} {cs : List Char}
    (h : AreItems items cs) (fuel : Nat) (hfuel : 2 * cs.length ≤ fuel) (rest : List Char) :
    readItems fuel (cs ++ rest) = (itemSources items, rest) := by
  cases h with
  | @last item lead ds trail hlead h htrail =>
    simp only [List.length_append, List.length_singleton] at hfuel
    obtain ⟨fuel, rfl⟩ : ∃ n, fuel = n + 1 := ⟨fuel - 1, by omega⟩
    have hends : EndsNumber (trail ++ ']' :: rest) :=
      endsNumber_append htrail rfl (by decide) (by decide) (by decide) rest
    have hitem := readValue_of_isText h fuel (by omega) hends
    have hclose : skipBlanks (trail ++ ']' :: rest) = ']' :: rest :=
      skipBlanks_append_cons htrail rfl rest
    simp only [List.append_assoc, List.singleton_append]
    rw [readItems_append hlead]
    exact readItems_last hitem hclose
  | @cons item more lead ds trail es hlead h htrail hmore =>
    simp only [List.length_append, List.length_cons] at hfuel
    obtain ⟨fuel, rfl⟩ : ∃ n, fuel = n + 1 := ⟨fuel - 1, by omega⟩
    have hends : EndsNumber (trail ++ ',' :: (es ++ rest)) :=
      endsNumber_append htrail rfl (by decide) (by decide) (by decide) _
    have hitem := readValue_of_isText h fuel (by omega) hends
    have hcomma : skipBlanks (trail ++ ',' :: (es ++ rest)) = ',' :: (es ++ rest) :=
      skipBlanks_append_cons htrail rfl _
    have hitems := readItems_of_areItems hmore fuel (by omega) rest
    simp only [List.append_assoc, List.cons_append]
    rw [readItems_append hlead]
    exact readItems_cons hitem hcomma hitems

theorem readMembers_of_areMembers [FloatReader] {members : List (String × Json)} {cs : List Char}
    (h : AreMembers members cs) (fuel : Nat) (hfuel : 2 * cs.length ≤ fuel) {rest ds : List Char}
    (hstart : skipBlanks (cs ++ rest) = '"' :: ds) :
    readMembers fuel ds = (memberSources members, rest) := by
  cases h with
  | @last key value lead middle after es trail hlead hmiddle hafter h htrail =>
    simp only [List.append_assoc, skipBlanks_append hlead, Quoted.write_eq,
      skipBlanks_cons (show isBlank '"' = false from rfl), List.cons.injEq, true_and,
      List.cons_append, List.nil_append] at hstart
    subst hstart
    simp only [List.length_append, List.length_cons, List.length_nil] at hfuel
    obtain ⟨fuel, rfl⟩ : ∃ n, fuel = n + 1 := ⟨fuel - 1, by omega⟩
    have hends : EndsNumber (trail ++ '\x7d' :: rest) :=
      endsNumber_append htrail rfl (by decide) (by decide) (by decide) rest
    have hvalue := readValue_of_isText h fuel (by omega) hends
    rw [← readValue_append hafter] at hvalue
    exact readMembers_last hvalue (skipBlanks_append_cons htrail rfl rest) hmiddle
  | @cons key value more lead middle after es trail fs hlead hmiddle hafter h htrail hmore =>
    simp only [List.append_assoc, skipBlanks_append hlead, Quoted.write_eq,
      skipBlanks_cons (show isBlank '"' = false from rfl), List.cons.injEq, true_and,
      List.cons_append] at hstart
    subst hstart
    simp only [List.length_append, List.length_cons] at hfuel
    obtain ⟨fuel, rfl⟩ : ∃ n, fuel = n + 1 := ⟨fuel - 1, by omega⟩
    have hends : EndsNumber (trail ++ ',' :: (fs ++ rest)) :=
      endsNumber_append htrail rfl (by decide) (by decide) (by decide) _
    have hvalue := readValue_of_isText h fuel (by omega) hends
    rw [← readValue_append hafter] at hvalue
    obtain ⟨gs, hquote⟩ := hmore.head rest
    have hmembers := readMembers_of_areMembers hmore fuel (by omega) hquote
    exact readMembers_cons hvalue (skipBlanks_append_cons htrail rfl _) hquote hmembers hmiddle

end

/-! ## Printing a text -/

mutual

/-- The numbers in a value, at any depth. -/
def numbers : Json → List Number
  | .number n => [n]
  | .array items => numbersOfItems items
  | .object members => numbersOfMembers members
  | .null | .boolean _ | .string _ => []

def numbersOfItems : List Json → List Number
  | [] => []
  | item :: rest => item.numbers ++ numbersOfItems rest

def numbersOfMembers : List (String × Json) → List Number
  | [] => []
  | (_, value) :: rest => value.numbers ++ numbersOfMembers rest

end

/-- A number that has a literal and is read back from it. -/
def Number.Faithful [FloatReader] (n : Number) : Prop := n.isFinite = true ∧ n.ReadsBack

theorem isText_number [FloatReader] {n : Number} (h : n.Faithful) : IsText (.number n) n.chars := by
  rw [Number.chars, if_pos h.1]
  exact .number n.wellFormed_literal h.2

mutual

theorem isText_chars [FloatReader] : ∀ (j : Json), (∀ n ∈ j.numbers, n.Faithful) → IsText j j.chars
  | .null, _ => .null
  | .boolean b, _ => .boolean b
  | .number n, h => by
      rw [chars]
      exact isText_number (h n (by simp [numbers]))
  | .string s, _ => .string s
  | .array [], _ => .emptyArray .nil
  | .array (item :: rest), h => by
      rw [numbers, numbersOfItems, List.forall_mem_append] at h
      rw [chars, List.cons_append]
      exact .array (areItems_chars rest h.2 (isText_chars item h.1))
  | .object [], _ => .emptyObject .nil
  | .object ((_, value) :: rest), h => by
      rw [numbers, numbersOfMembers, List.forall_mem_append] at h
      rw [chars]
      simp only [List.cons_append, List.append_assoc]
      exact .object (areMembers_chars rest h.2 (isText_chars value h.1))

/-- Items that are printed behind a text of the first one. -/
theorem areItems_chars [FloatReader] :
    ∀ (rest : List Json), (∀ n ∈ numbersOfItems rest, n.Faithful) →
    ∀ {item : Json} {cs : List Char}, IsText item cs →
      AreItems (item :: rest) (cs ++ itemChars rest)
  | [], _, _, _, hitem => .last .nil hitem .nil
  | next :: rest, h, _, _, hitem => by
      rw [numbersOfItems, List.forall_mem_append] at h
      rw [itemChars, List.cons_append]
      exact .cons .nil hitem .nil (areItems_chars rest h.2 (isText_chars next h.1))

theorem areMembers_chars [FloatReader] : ∀ (rest : List (String × Json)),
    (∀ n ∈ numbersOfMembers rest, n.Faithful) →
      ∀ {key : String} {value : Json} {cs : List Char}, IsText value cs →
        AreMembers ((key, value) :: rest) (Quoted.write key ++ ':' :: (cs ++ memberChars rest))
  | [], _, _, _, _, hvalue => .last .nil .nil .nil hvalue .nil
  | (_, next) :: rest, h, _, _, _, hvalue => by
      rw [numbersOfMembers, List.forall_mem_append] at h
      rw [memberChars]
      simp only [List.cons_append, List.append_assoc]
      exact .cons .nil .nil .nil hvalue .nil (areMembers_chars rest h.2 (isText_chars next h.1))

end

theorem blank_newline (level : Nat) : Blank (newline level) := by
  intro c hc
  rcases List.mem_cons.mp hc with rfl | hc
  · rfl
  · rw [List.eq_of_mem_replicate hc]
    rfl

theorem blank_space : Blank [' '] := by
  simp [Blank, isBlank]

mutual

theorem isText_prettyChars [FloatReader] :
    ∀ (level : Nat) (j : Json), (∀ n ∈ j.numbers, n.Faithful) →
    IsText j (j.prettyChars level)
  | _, .null, _ => .null
  | _, .boolean b, _ => .boolean b
  | _, .number n, h => by
      rw [prettyChars]
      exact isText_number (h n (by simp [numbers]))
  | _, .string s, _ => .string s
  | _, .array [], _ => .emptyArray .nil
  | level, .array (item :: rest), h => by
      rw [numbers, numbersOfItems, List.forall_mem_append] at h
      rw [prettyChars]
      simp only [List.cons_append, List.append_assoc]
      exact .array (areItems_prettyChars level rest h.2 (isText_prettyChars (level + 1) item h.1))
  | _, .object [], _ => .emptyObject .nil
  | level, .object ((_, value) :: rest), h => by
      rw [numbers, numbersOfMembers, List.forall_mem_append] at h
      rw [prettyChars]
      simp only [List.cons_append, List.append_assoc, List.nil_append]
      exact .object
        (areMembers_prettyChars level rest h.2 (isText_prettyChars (level + 1) value h.1))

theorem areItems_prettyChars [FloatReader] : ∀ (level : Nat) (rest : List Json),
    (∀ n ∈ numbersOfItems rest, n.Faithful) →
      ∀ {item : Json} {cs : List Char}, IsText item cs →
        AreItems (item :: rest) (newline (level + 1) ++ (cs ++ prettyItems level rest))
  | _, [], _, _, _, hitem => .last (blank_newline _) hitem (blank_newline _)
  | level, next :: rest, h, _, _, hitem => by
      rw [numbersOfItems, List.forall_mem_append] at h
      rw [prettyItems]
      simp only [List.cons_append, List.append_assoc]
      exact .cons (blank_newline _) hitem .nil
        (areItems_prettyChars level rest h.2 (isText_prettyChars (level + 1) next h.1))

theorem areMembers_prettyChars [FloatReader] : ∀ (level : Nat) (rest : List (String × Json)),
    (∀ n ∈ numbersOfMembers rest, n.Faithful) →
      ∀ {key : String} {value : Json} {cs : List Char}, IsText value cs →
        AreMembers ((key, value) :: rest)
          (newline (level + 1) ++ (Quoted.write key
            ++ ':' :: ' ' :: (cs ++ prettyMembers level rest)))
  | _, [], _, _, _, _, hvalue => .last (blank_newline _) .nil blank_space hvalue (blank_newline _)
  | level, (_, next) :: rest, h, _, _, _, hvalue => by
      rw [numbersOfMembers, List.forall_mem_append] at h
      rw [prettyMembers]
      simp only [List.cons_append, List.append_assoc, List.nil_append]
      exact .cons (blank_newline _) .nil blank_space hvalue .nil
        (areMembers_prettyChars level rest h.2 (isText_prettyChars (level + 1) next h.1))

end

/-! ## What is printed is read back -/

theorem Source.ofText_of_isText [FloatReader] {j : Json}
    {text : String} (h : IsText j text.toList) :
    Source.ofText text = (j.toSource, true) := by
  have hread := readValue_of_isText h (2 * text.toList.length + 1) (by omega) .nil
  rw [List.append_nil] at hread
  simp [Source.ofText, hread, skipBlanks]

theorem Source.ofText_render [FloatReader] {j : Json} (h : ∀ n ∈ j.numbers, n.Faithful) :
    Source.ofText j.render = (j.toSource, true) := by
  refine Source.ofText_of_isText ?_
  rw [render, String.toList_ofList]
  exact isText_chars j h

theorem Source.ofText_renderPretty [FloatReader] {j : Json} (h : ∀ n ∈ j.numbers, n.Faithful) :
    Source.ofText j.renderPretty = (j.toSource, true) := by
  refine Source.ofText_of_isText ?_
  rw [renderPretty, String.toList_ofList]
  exact isText_prettyChars 0 j h

end Json

end FilterQuery
