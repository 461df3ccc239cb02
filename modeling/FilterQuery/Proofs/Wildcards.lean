import FilterQuery.Proofs.PatternMatching

/-!
# What wildcards stand for

A star before and after a pattern lets text stand around what the pattern
matches, and an underscore before it lets one character stand in front. There
is one exception: no wildcard stands for a line feed (`surrounded_iff`,
`newline_refused`).

That nothing else makes room for a line feed is a matter of counting. Each
line feed of a covered text is taken by a literal line feed, and each literal
line feed takes one (`Cover.count_newline`). So a covered text that gets a
line feed is covered by no tokens that differ in their wildcards only.
-/

namespace FilterQuery

namespace Token

/-! ## Patterns one after the other -/

/-- Whether a pattern ends with a backslash that stands before no character. -/
def endsLoose : List Char → Bool
  | [] => false
  | ['\\'] => true
  | '\\' :: _ :: rest => endsLoose rest
  | _ :: rest => endsLoose rest

theorem endsLoose_cons {c : Char} (hc : c ≠ '\\') (rest : List Char) :
    endsLoose (c :: rest) = endsLoose rest := by
  rw [endsLoose]
  · exact fun h _ => hc h
  · exact fun _ _ h _ => hc h

theorem ofPattern_cons {c : Char} (hc : c ≠ '\\') (hrun : c ≠ '*') (hone : c ≠ '_')
    (rest : List Char) : ofPattern (c :: rest) = .literal c :: ofPattern rest := by
  rw [ofPattern]
  · exact fun _ _ h _ => hc h
  · exact hrun
  · exact hone

/-- Only a loose backslash is read otherwise when more comes after it. -/
theorem ofPattern_append (p q : List Char) (h : endsLoose p = false) :
    ofPattern (p ++ q) = ofPattern p ++ ofPattern q := by
  induction p using ofPattern.induct with
  | case1 => rfl
  | case2 c rest ih =>
      rw [endsLoose] at h
      rw [List.cons_append, List.cons_append, ofPattern, ofPattern, ih h, List.cons_append]
  | case3 rest ih =>
      rw [endsLoose_cons (by decide)] at h
      rw [List.cons_append, ofPattern, ofPattern, ih h, List.cons_append]
  | case4 rest ih =>
      rw [endsLoose_cons (by decide)] at h
      rw [List.cons_append, ofPattern, ofPattern, ih h, List.cons_append]
  | case5 c rest hescape hrun hone ih =>
      -- a backslash that escapes nothing is the last character
      have hc : c ≠ '\\' := by
        rintro rfl
        cases rest with
        | nil => cases h
        | cons d rest => exact hescape d rest rfl rfl
      rw [endsLoose_cons hc] at h
      rw [List.cons_append, ofPattern_cons hc hrun hone, ofPattern_cons hc hrun hone, ih h,
        List.cons_append]

/-! ## Covered texts one after the other -/

variable {fold : Char → Char} {tokens more : List Token} {text rest : List Char}

theorem Cover.append (h : Cover fold tokens text) (hrest : Cover fold more rest) :
    Cover fold (tokens ++ more) (text ++ rest) := by
  obtain ⟨pieces, rfl, hpieces⟩ := h
  obtain ⟨others, rfl, hothers⟩ := hrest
  exact ⟨pieces ++ others, List.flatten_append, List.rel_append hpieces hothers⟩

theorem cover_singleton {token : Token} (h : Fits fold token text) : Cover fold [token] text :=
  ⟨[text], List.flatten_singleton, .cons h .nil⟩

/-! ## Counting line feeds -/

theorem Fits.count_newline {token : Token} {piece : List Char} (h : Fits simpleFold token piece) :
    piece.count '\n' = [token].count (.literal '\n') := by
  cases h with
  | @literal c x h =>
      have hnewline : x = '\n' ↔ c = '\n' := by
        rw [← simpleFold_eq_newline, h, simpleFold_eq_newline]
      simp [List.count_singleton, hnewline]
  | anyOne h => simp [h]
  | anyRun h => simp [List.count_eq_zero.mpr h]

/-- A covered text has as many line feeds as its tokens say. -/
theorem Cover.count_newline (h : Cover simpleFold tokens text) :
    text.count '\n' = tokens.count (.literal '\n') := by
  induction tokens generalizing text with
  | nil =>
      rw [cover_nil.mp h]
      rfl
  | cons token tokens ih =>
      obtain ⟨piece, rest, rfl, hpiece, hrest⟩ := cover_cons.mp h
      rw [List.count_append, hpiece.count_newline, ih hrest, ← List.count_append,
        List.singleton_append]

end Token

namespace Pattern

open Token

section Covered

variable {tokens : List Token} {text : List Char}

/-- Text may stand around a covered text, where stars are put around the
tokens, exactly if it has no line feed. -/
theorem cover_surrounded_iff (h : Cover simpleFold tokens text) (before after : List Char) :
    Cover simpleFold (.anyRun :: (tokens ++ [.anyRun])) (before ++ text ++ after) ↔
      '\n' ∉ before ∧ '\n' ∉ after := by
  constructor
  · intro hcover
    have hcount := hcover.count_newline
    simp only [List.count_append, List.count_cons, List.count_nil, h.count_newline] at hcount
    have hzero : before.count '\n' = 0 ∧ after.count '\n' = 0 := by
      simp at hcount
      omega
    exact ⟨List.count_eq_zero.mp hzero.1, List.count_eq_zero.mp hzero.2⟩
  · rintro ⟨hbefore, hafter⟩
    rw [List.append_assoc]
    exact (cover_singleton (.anyRun hbefore)).append (h.append (cover_singleton (.anyRun hafter)))

/-- One character may stand before a covered text, where an underscore is put
before the tokens, exactly if it is no line feed. -/
theorem cover_preceded_iff (h : Cover simpleFold tokens text) (x : Char) :
    Cover simpleFold (.anyOne :: tokens) (x :: text) ↔ x ≠ '\n' := by
  constructor
  · intro hcover
    obtain ⟨y, rest, hcons, hy, -⟩ := cover_anyOne.mp hcover
    obtain ⟨rfl, -⟩ := List.cons.inj hcons
    exact hy
  · exact fun hx => (cover_singleton (.anyOne hx)).append h

end Covered

/-! ## The main statement -/

/-- Where a pattern matches a text, wildcards around the pattern stand for
exactly the texts and characters around it that hold no line feed. -/
theorem surrounded_iff [RegexEngine] {p c : String} {r : Regex} (hp : endsLoose p.toList = false)
    (hr : compile? p = some r) (hc : r.matches c = true) (a b : String) (x : Char) :
    (∀ s, compile? ("*" ++ p ++ "*") = some s →
        (s.matches (a ++ c ++ b) = true ↔ '\n' ∉ a.toList ∧ '\n' ∉ b.toList)) ∧
      ∀ s, compile? ("_" ++ p) = some s → (s.matches (String.singleton x ++ c) = true ↔ x ≠ '\n') := by
  have hcover := (matches_iff_cover hr c).mp hc
  constructor
  · intro s hs
    have htokens : ofPattern ("*" ++ p ++ "*").toList
        = .anyRun :: (ofPattern p.toList ++ [.anyRun]) := by
      rw [String.toList_append, String.toList_append]
      exact congrArg _ (ofPattern_append p.toList ['*'] hp)
    rw [matches_iff_cover hs, htokens, String.toList_append, String.toList_append]
    exact cover_surrounded_iff hcover a.toList b.toList
  · intro s hs
    have htokens : ofPattern ("_" ++ p).toList = .anyOne :: ofPattern p.toList := by
      rw [String.toList_append]
      rfl
    rw [matches_iff_cover hs, htokens, String.toList_append, String.toList_singleton]
    exact cover_preceded_iff hcover x

/-- A literal line feed is matched, and a line feed around it is not. -/
theorem surrounded_iff_twoLines :
    endsLoose "b\n_".toList = false ∧ compile? "b\n_" = some ⟨"^b\n.\x7b1\x7d$", "i"⟩ ∧
      Regex.matches ⟨"^b\n.\x7b1\x7d$", "i"⟩ "B\nx" = true ∧
      compile? ("*" ++ "b\n_" ++ "*") = some ⟨"^.*b\n.\x7b1\x7d.*$", "i"⟩ ∧
      Regex.matches ⟨"^.*b\n.\x7b1\x7d.*$", "i"⟩ ("a\t" ++ "B\nx" ++ "y") = true ∧
      ¬Regex.matches ⟨"^.*b\n.\x7b1\x7d.*$", "i"⟩ ("a\t" ++ "B\nx" ++ "\ny") = true := by
  have hp : endsLoose "b\n_".toList = false := by decide
  have hr : compile? "b\n_" = some ⟨"^b\n.\x7b1\x7d$", "i"⟩ := rfl
  have hc : Regex.matches ⟨"^b\n.\x7b1\x7d$", "i"⟩ "B\nx" = true := by decide
  have hs : compile? ("*" ++ "b\n_" ++ "*") = some ⟨"^.*b\n.\x7b1\x7d.*$", "i"⟩ := rfl
  refine ⟨hp, hr, hc, hs, ((surrounded_iff hp hr hc "a\t" "y" 'x').1 _ hs).mpr (by decide), ?_⟩
  rw [(surrounded_iff hp hr hc "a\t" "\ny" 'x').1 _ hs]
  decide

/-- The empty pattern matches the empty text, and a star or an underscore
alone does not match a line feed. -/
theorem newline_refused :
    endsLoose "".toList = false ∧ compile? "" = some ⟨"^$", "i"⟩ ∧
      Regex.matches ⟨"^$", "i"⟩ "" = true ∧
      compile? ("*" ++ "" ++ "*") = some ⟨"^.*.*$", "i"⟩ ∧
      Regex.matches ⟨"^.*.*$", "i"⟩ ("\n" ++ "" ++ "") = false ∧
      compile? ("_" ++ "") = some ⟨"^.\x7b1\x7d$", "i"⟩ ∧
      Regex.matches ⟨"^.\x7b1\x7d$", "i"⟩ (String.singleton '\n' ++ "") = false := by
  exact ⟨by decide, rfl, by decide, rfl, by decide, rfl, by decide⟩

end Pattern

end FilterQuery
