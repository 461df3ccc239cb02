import Mathlib.Data.List.Forall2
import FilterQuery.Proofs.PatternSource

/-!
# What compiled patterns match

A pattern denotes the texts that its tokens cover: the text can be cut into
pieces, one for each token, and every piece fits its token (`Token.Cover`). A
literal takes one character that folds as it does, and wildcards take no line
feed. A compiled pattern matches exactly these texts (`matches_iff_cover`).

Matching does not look for pieces. It reads the tokens back from the source
and keeps a row of answers, one for each rest of the text. The step over a
token turns the row for the tokens behind it into the row with it
(`Answers.oneOf`, `Answers.runOf`), and this is all that the search for places
to cut comes to (`answers_matchesRests`).

The rows are about folded tokens and a folded text. Only the line feed folds
to the line feed, so wildcards do not see the difference, and a text can be
cut before it is folded or after (`cover_fold`).
-/

namespace FilterQuery

/-! ## Folding and the line feed -/

namespace CaseFolding

theorem newline_lt_of_mem_ranges : ∀ r ∈ ranges, 10 < r.first + r.shift := by
  decide +kernel

theorem eq_of_ofNat_eq_newline {n : Nat} (h : Char.ofNat n = '\n') : n = 10 := by
  have htoNat : (Char.ofNat n).toNat = 10 := congrArg Char.toNat h
  by_cases hvalid : n.isValidChar
  · rw [Char.ofNat, dif_pos hvalid] at htoNat
    exact htoNat
  · rw [Char.ofNat, dif_neg hvalid] at htoNat
    cases htoNat

end CaseFolding

/-- The line feed has no other case. -/
theorem simpleFold_eq_newline {c : Char} : simpleFold c = '\n' ↔ c = '\n' := by
  constructor
  · intro h
    unfold simpleFold at h
    split at h
    next r hr =>
      -- a range holds nothing before its first character, which is shifted past the line feed
      have hcontains : r.contains c.toNat = true := by simpa using List.find?_some hr
      have hlt := CaseFolding.newline_lt_of_mem_ranges r (List.mem_of_find?_eq_some hr)
      have heq := CaseFolding.eq_of_ofNat_eq_newline h
      simp only [CaseFolding.Range.contains, Bool.and_eq_true, decide_eq_true_eq] at hcontains
      omega
    next => exact h
  · rintro rfl
    rfl

namespace Token

/-! ## Covered texts -/

/-- The pieces of text that fit a token. Characters are equal if they fold
alike. -/
inductive Fits (fold : Char → Char) : Token → List Char → Prop
  | literal {c x : Char} (h : fold x = fold c) : Fits fold (.literal c) [x]
  | anyOne {x : Char} (h : x ≠ '\n') : Fits fold .anyOne [x]
  | anyRun {run : List Char} (h : '\n' ∉ run) : Fits fold .anyRun run

/-- The text is cut into pieces that fit the tokens, one after the other. -/
def Cover (fold : Char → Char) (tokens : List Token) (text : List Char) : Prop :=
  ∃ pieces : List (List Char), pieces.flatten = text ∧ List.Forall₂ (Fits fold) tokens pieces

variable {fold : Char → Char} {tokens : List Token} {text : List Char}

theorem cover_nil : Cover fold [] text ↔ text = [] := by
  constructor
  · rintro ⟨pieces, rfl, h⟩
    cases h
    rfl
  · rintro rfl
    exact ⟨[], rfl, .nil⟩

theorem cover_cons {token : Token} :
    Cover fold (token :: tokens) text ↔
      ∃ piece rest, text = piece ++ rest ∧ Fits fold token piece ∧ Cover fold tokens rest := by
  constructor
  · rintro ⟨pieces, rfl, h⟩
    cases h with
    | cons hpiece hpieces => exact ⟨_, _, List.flatten_cons, hpiece, _, rfl, hpieces⟩
  · rintro ⟨piece, rest, rfl, hpiece, pieces, rfl, hpieces⟩
    exact ⟨piece :: pieces, List.flatten_cons, .cons hpiece hpieces⟩

/-! ### Token by token -/

theorem fits_literal {c : Char} {piece : List Char} :
    Fits fold (.literal c) piece ↔ ∃ x, piece = [x] ∧ fold x = fold c := by
  constructor
  · intro hfits
    cases hfits with
    | literal h => exact ⟨_, rfl, h⟩
  · rintro ⟨x, rfl, h⟩
    exact .literal h

theorem fits_anyOne {piece : List Char} :
    Fits fold .anyOne piece ↔ ∃ x, piece = [x] ∧ x ≠ '\n' := by
  constructor
  · intro hfits
    cases hfits with
    | anyOne h => exact ⟨_, rfl, h⟩
  · rintro ⟨x, rfl, h⟩
    exact .anyOne h

theorem fits_anyRun {piece : List Char} : Fits fold .anyRun piece ↔ '\n' ∉ piece := by
  constructor
  · intro hfits
    cases hfits with
    | anyRun h => exact h
  · exact .anyRun

theorem cover_literal {c : Char} :
    Cover fold (.literal c :: tokens) text ↔
      ∃ x rest, text = x :: rest ∧ fold x = fold c ∧ Cover fold tokens rest := by
  rw [cover_cons]
  constructor
  · rintro ⟨piece, rest, rfl, hpiece, hrest⟩
    obtain ⟨x, rfl, hx⟩ := fits_literal.mp hpiece
    exact ⟨x, rest, rfl, hx, hrest⟩
  · rintro ⟨x, rest, rfl, hx, hrest⟩
    exact ⟨[x], rest, rfl, .literal hx, hrest⟩

theorem cover_anyOne :
    Cover fold (.anyOne :: tokens) text ↔
      ∃ x rest, text = x :: rest ∧ x ≠ '\n' ∧ Cover fold tokens rest := by
  rw [cover_cons]
  constructor
  · rintro ⟨piece, rest, rfl, hpiece, hrest⟩
    obtain ⟨x, rfl, hx⟩ := fits_anyOne.mp hpiece
    exact ⟨x, rest, rfl, hx, hrest⟩
  · rintro ⟨x, rest, rfl, hx, hrest⟩
    exact ⟨[x], rest, rfl, .anyOne hx, hrest⟩

theorem cover_anyRun :
    Cover fold (.anyRun :: tokens) text ↔
      ∃ run rest, text = run ++ rest ∧ '\n' ∉ run ∧ Cover fold tokens rest := by
  simp only [cover_cons, fits_anyRun]

end Token

namespace Pattern

/-! ## Rows of answers -/

theorem isWild_iff {x : Char} : isWild x = true ↔ x ≠ '\n' := by
  rw [isWild, decide_eq_true_iff]

/-- A row of answers to one question about each rest of a text, from the whole
text to the empty one. -/
inductive Answers (P : List Char → Prop) : List Char → List Bool → Prop
  | nil {here : Bool} (h : here = true ↔ P []) : Answers P [] [here]
  | cons {x : Char} {xs : List Char} {here : Bool} {later : List Bool}
      (h : here = true ↔ P (x :: xs)) (hlater : Answers P xs later) :
      Answers P (x :: xs) (here :: later)

namespace Answers

variable {P Q : List Char → Prop} {text : List Char} {next : List Bool}

theorem congr (hPQ : ∀ rest, P rest ↔ Q rest) (h : Answers P text next) : Answers Q text next := by
  induction h with
  | nil h => exact .nil (h.trans (hPQ _))
  | cons h _ ih => exact .cons (h.trans (hPQ _)) ih

theorem headD (h : Answers P text next) : next.headD false = true ↔ P text := by
  cases h with
  | nil h => exact h
  | cons h _ => exact h

/-- Only the empty rest is empty. -/
theorem isEmpty : ∀ text : List Char,
    Answers (· = []) text (text.map (fun _ => false) ++ [true])
  | [] => .nil (iff_of_true rfl rfl)
  | _ :: rest => .cons (iff_of_false Bool.false_ne_true (List.cons_ne_nil _ _)) (isEmpty rest)

/-- One character that belongs, and then what the next row answers. -/
theorem oneOf (belongs : Char → Bool) (h : Answers P text next) :
    Answers (fun rest => ∃ x xs, rest = x :: xs ∧ belongs x = true ∧ P xs) text
      (Pattern.oneOf belongs text next) := by
  induction h with
  | nil h => exact .nil (by simp)
  | cons h hlater ih =>
    refine .cons ?_ ih
    rw [Bool.and_eq_true, hlater.headD]
    simp

/-- A run goes on only over characters that a wildcard stands for, and what
the next row answers may come after any of them. -/
theorem runOf (h : Answers P text next) :
    Answers (fun rest => ∃ run rest', rest = run ++ rest' ∧ '\n' ∉ run ∧ P rest') text
      (Pattern.runOf text next) := by
  induction h with
  | @nil here h =>
    refine .nil (h.trans ⟨fun hP => ⟨[], [], rfl, List.not_mem_nil, hP⟩, ?_⟩)
    rintro ⟨run, rest', hrest, -, hP⟩
    obtain ⟨-, rfl⟩ := List.append_eq_nil_iff.mp hrest.symm
    exact hP
  | @cons x xs here later h hlater ih =>
    refine .cons ?_ ih
    rw [Bool.or_eq_true, Bool.and_eq_true, isWild_iff, h, ih.headD]
    constructor
    · rintro (hP | ⟨hx, run, rest', rfl, hrun, hP⟩)
      · exact ⟨[], x :: xs, rfl, List.not_mem_nil, hP⟩
      · exact ⟨x :: run, rest', rfl, by simp [hx.symm, hrun], hP⟩
    · rintro ⟨run, rest', hrest, hrun, hP⟩
      cases run with
      | nil => exact Or.inl (hrest ▸ hP)
      | cons y ys =>
        obtain ⟨rfl, rfl⟩ := List.cons.inj hrest
        rw [List.mem_cons, not_or] at hrun
        exact Or.inr ⟨Ne.symm hrun.1, ys, rest', rfl, hrun.2, hP⟩

end Answers

/-- For each rest of a text, matching answers whether the tokens cover it. -/
theorem answers_matchesRests : ∀ (tokens : List Token) (text : List Char),
    Answers (Token.Cover id tokens) text (matchesRests tokens text)
  | [], text => (Answers.isEmpty text).congr fun _ => Token.cover_nil.symm
  | .literal c :: tokens, text =>
      ((answers_matchesRests tokens text).oneOf (· == c)).congr fun _ => by
        simp [Token.cover_literal]
  | .anyOne :: tokens, text =>
      ((answers_matchesRests tokens text).oneOf isWild).congr fun _ => by
        simp [Token.cover_anyOne, isWild]
  | .anyRun :: tokens, text =>
      (answers_matchesRests tokens text).runOf.congr fun _ => Token.cover_anyRun.symm

theorem matchesAll_iff_cover {tokens : List Token} {text : List Char} :
    matchesAll tokens text = true ↔ Token.Cover id tokens text :=
  (answers_matchesRests tokens text).headD

/-! ## Folded texts -/

/-- A folded piece fits a folded token as the piece fits the token when
characters are compared by folding. -/
theorem fits_fold {token : Token} {piece : List Char} :
    Token.Fits id (foldToken token) (piece.map simpleFold) ↔ Token.Fits simpleFold token piece := by
  cases token with
  | literal c =>
      rw [foldToken, Token.fits_literal, Token.fits_literal]
      simp [List.map_eq_singleton_iff]
  | anyOne =>
      rw [foldToken, Token.fits_anyOne, Token.fits_anyOne]
      simp [List.map_eq_singleton_iff, simpleFold_eq_newline]
  | anyRun =>
      rw [foldToken, Token.fits_anyRun, Token.fits_anyRun]
      simp [simpleFold_eq_newline]

theorem cover_fold : ∀ {tokens : List Token} {text : List Char},
    Token.Cover id (tokens.map foldToken) (text.map simpleFold) ↔
      Token.Cover simpleFold tokens text
  | [], text => by rw [List.map_nil, Token.cover_nil, Token.cover_nil, List.map_eq_nil_iff]
  | token :: tokens, text => by
      rw [List.map_cons, Token.cover_cons, Token.cover_cons]
      constructor
      · rintro ⟨piece, rest, htext, hpiece, hrest⟩
        obtain ⟨piece, rest, rfl, rfl, rfl⟩ := List.map_eq_append_iff.mp htext
        exact ⟨piece, rest, rfl, fits_fold.mp hpiece, cover_fold.mp hrest⟩
      · rintro ⟨piece, rest, rfl, hpiece, hrest⟩
        exact ⟨_, _, List.map_append, fits_fold.mpr hpiece, cover_fold.mpr hrest⟩

/-! ## The main statement -/

/-- A compiled pattern matches the texts that the tokens of the pattern cover
without regard to case. -/
theorem matches_iff_cover [RegexEngine] {p : String} {r : Regex} (h : compile? p = some r)
    (text : String) :
    r.matches text = true ↔
      Token.Cover simpleFold (Token.ofPattern p.toList) text.toList := by
  obtain ⟨hbuilds, rfl⟩ := compile?_eq_some.mp h
  have hcase : options.toList.contains 'i' = true := by decide
  simp only [Regex.matches, Regex.ignoresCase, Token.ofSource?_sourceOf, hcase, hbuilds,
    Bool.true_and, if_true]
  rw [matchesAll_iff_cover, cover_fold]

/-- An escaped wildcard, both wildcards and a backslash at the end; the Kelvin
sign is a `k`, and the line feed is for no wildcard. -/
theorem matches_iff_cover_kelvin :
    compile? "%\\_*_k\\" = some ⟨"^%_.*.\x7b1\x7dk\\\\$", "i"⟩ ∧
      Regex.matches ⟨"^%_.*.\x7b1\x7dk\\\\$", "i"⟩ "%_xyz\u212a\\" = true ∧
      ¬Token.Cover simpleFold (Token.ofPattern "%\\_*_k\\".toList) "%_x\nk\\".toList := by
  have hcompile : compile? "%\\_*_k\\" = some ⟨"^%_.*.\x7b1\x7dk\\\\$", "i"⟩ := rfl
  refine ⟨hcompile, (matches_iff_cover hcompile _).mpr ?_, fun hcover => ?_⟩
  · refine ⟨[['%'], ['_'], ['x', 'y'], ['z'], ['\u212a'], ['\\']], rfl, ?_⟩
    exact .cons (.literal rfl) (.cons (.literal rfl) (.cons (.anyRun (by decide))
      (.cons (.anyOne (by decide)) (.cons (.literal rfl) (.cons (.literal rfl) .nil)))))
  · have hmatches := (matches_iff_cover hcompile _).mpr hcover
    revert hmatches
    decide

end Pattern

end FilterQuery
