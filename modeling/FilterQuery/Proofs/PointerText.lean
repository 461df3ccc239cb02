import FilterQuery.Proofs.KeyText
import FilterQuery.Proofs.ReportedFields

/-!
# Pointers identify paths

A pointer has its path's texts between its slashes: cut there and unescaped,
it gives them back, whatever characters they have and also where they are
empty (`Pointer.pieces_ofTexts`). Nothing is asked of the path, other than for
keys (`FilterQuery.Proofs.KeyText`).

Escaping is two replacements one after the other, and their order matters:
the tildes that the second one brings in are not escaped again
(`Pointer.escape_eq_replaceChar`).
-/

namespace FilterQuery

namespace Pointer

/-! ## Escaping -/

def escape (x : String) : String := String.ofList (x.toList.flatMap escapeChar)

/-- Some characters in place of each `c`. -/
def replaceChar (c : Char) (others cs : List Char) : List Char :=
  cs.flatMap fun d => if d = c then others else [d]

theorem notMem_replaceChar {c : Char} {others : List Char} (h : c ∉ others) (cs : List Char) :
    c ∉ replaceChar c others cs := by
  rw [replaceChar, List.mem_flatMap]
  rintro ⟨d, -, hmem⟩
  split at hmem
  · exact h hmem
  next hne => exact hne (List.mem_singleton.mp hmem).symm

/-- First the tildes are replaced and then the slashes. -/
theorem escape_eq_replaceChar (cs : List Char) :
    cs.flatMap escapeChar = replaceChar '/' ['~', '1'] (replaceChar '~' ['~', '0'] cs) := by
  have hchar : ∀ c, escapeChar c
      = replaceChar '/' ['~', '1'] (if c = '~' then ['~', '0'] else [c]) := by
    intro c
    unfold escapeChar
    split
    · rfl
    · simp [replaceChar]
  rw [replaceChar, replaceChar, List.flatMap_assoc]
  exact List.flatMap_congr fun c _ => hchar c

theorem slash_notMem_escape (x : String) : '/' ∉ (escape x).toList := by
  rw [escape, String.toList_ofList, escape_eq_replaceChar]
  exact notMem_replaceChar (by decide) _

/-! ## Unescaping -/

def unescapeChars : List Char → List Char
  | '~' :: '0' :: rest => '~' :: unescapeChars rest
  | '~' :: '1' :: rest => '/' :: unescapeChars rest
  | c :: rest => c :: unescapeChars rest
  | [] => []

/-- The text that a token of a pointer stands for. -/
def unescape (x : String) : String := String.ofList (unescapeChars x.toList)

theorem unescapeChars_cons {c : Char} (hc : c ≠ '~') (rest : List Char) :
    unescapeChars (c :: rest) = c :: unescapeChars rest := by
  rw [unescapeChars]
  · exact fun _ h _ => hc h
  · exact fun _ h _ => hc h

theorem unescapeChars_escapeChar (c : Char) (rest : List Char) :
    unescapeChars (escapeChar c ++ rest) = c :: unescapeChars rest := by
  unfold escapeChar
  split
  next h =>
    subst h
    rfl
  next htilde =>
    split
    next h =>
      subst h
      rfl
    next => exact unescapeChars_cons htilde rest

theorem unescapeChars_flatMap (cs : List Char) : unescapeChars (cs.flatMap escapeChar) = cs := by
  induction cs with
  | nil => rfl
  | cons c rest ih => rw [List.flatMap_cons, unescapeChars_escapeChar, ih]

theorem unescape_escape (x : String) : unescape (escape x) = x := by
  rw [unescape, escape, String.toList_ofList, unescapeChars_flatMap, String.ofList_toList]

/-! ## Pointers taken apart -/

/-- A join has a separator in front of each piece but the first. -/
theorem intercalate_cons_eq_flatMap (c : Char) (x : List Char) (ys : List (List Char)) :
    [c].intercalate (x :: ys) = x ++ ys.flatMap (c :: ·) := by
  induction ys generalizing x with
  | nil => simp
  | cons y ys ih =>
      rw [List.intercalate_cons_cons, ih, List.flatMap_cons, List.append_assoc,
        List.singleton_append, List.cons_append]

/-- A slash stands in front of each token, so nothing stands in front of the
first one. -/
theorem ofTexts_eq_intercalate (texts : List String) :
    ofTexts texts = "/".intercalate ("" :: texts.map escape) := by
  have htokens : texts.flatMap token
      = ((texts.map escape).map String.toList).flatMap ('/' :: ·) := by
    simp only [List.map_map, List.flatMap_map, escape, Function.comp_apply, String.toList_ofList]
    rfl
  rw [← String.toList_inj, ofTexts, String.toList_ofList, htokens, String.toList_intercalate,
    List.map_cons]
  exact (intercalate_cons_eq_flatMap '/' [] _).symm

/-- Cut at its slashes and unescaped, a pointer gives back the texts it is made
of. -/
theorem pieces_ofTexts (texts : List String) :
    (Text.pieces '/' (ofTexts texts)).map unescape = "" :: texts := by
  have hslash : ∀ x ∈ "" :: texts.map escape, '/' ∉ x.toList := by
    rw [List.forall_mem_cons, List.forall_mem_map]
    exact ⟨by decide, fun x _ => slash_notMem_escape x⟩
  have hpieces : Text.pieces '/' (ofTexts texts) = "" :: texts.map escape := by
    rw [ofTexts_eq_intercalate]
    exact Text.pieces_intercalate (List.cons_ne_nil _ _) hslash
  have hunescape : (texts.map escape).map unescape = texts := by
    rw [List.map_map]
    exact List.map_id'' unescape_escape texts
  rw [hpieces, List.map_cons, hunescape]
  rfl

theorem ofTexts_inj {texts others : List String} :
    ofTexts texts = ofTexts others ↔ texts = others := by
  refine ⟨fun h => ?_, fun h => h ▸ rfl⟩
  have hpieces := pieces_ofTexts texts
  rw [h, pieces_ofTexts] at hpieces
  exact (List.cons.inj hpieces).2.symm

end Pointer

namespace Target

theorem field_inj {t u : Target} : t.field = u.field ↔ t.first.text = u.first.text := by
  rw [field, field, Pointer.ofTexts_inj, List.singleton_inj]

/-- Whether a list of fields has the field of a target is a matter of first
texts. -/
theorem field_mem_map_iff {t : Target} {us : List Target} :
    t.field ∈ us.map field ↔ ∃ u ∈ us, u.first.text = t.first.text := by
  simp only [List.mem_map, field_inj]

/-- A pointer holds the texts of its path, so equal pointers are those of paths
with equal texts, and equal fields those of paths with equal first texts. This
is how fields are looked up in the lists of a strategy, and how a session knows
a field again. -/
theorem pointer_faithful (t u : Target) (us : List Target) :
    (Text.pieces '/' t.pointer).map Pointer.unescape = "" :: t.texts ∧
      (t.pointer = u.pointer ↔ t.texts = u.texts) ∧
      (t.field = u.field ↔ t.first.text = u.first.text) ∧
      ((FieldList.allow (us.map field)).permits t.field = true ↔
        ∃ u ∈ us, u.first.text = t.first.text) ∧
      ((FieldList.deny (us.map field)).permits t.field = false ↔
        ∃ u ∈ us, u.first.text = t.first.text) ∧
      (Session.add (us.map field) t.field = us.map field ↔
        ∃ u ∈ us, u.first.text = t.first.text) := by
  refine ⟨Pointer.pieces_ofTexts t.texts, Pointer.ofTexts_inj, field_inj, ?_, ?_, ?_⟩
  · rw [← field_mem_map_iff]
    simp [FieldList.permits]
  · rw [← field_mem_map_iff]
    simp [FieldList.permits]
  · rw [← field_mem_map_iff]
    constructor
    · intro hadd
      by_contra hnew
      rw [Session.add_of_notMem hnew] at hadd
      exact List.cons_ne_nil _ _ (List.append_right_eq_self.mp hadd)
    · exact Session.add_of_mem

/-- Texts that look like escapes, and empty ones, are told apart. -/
example : Pointer.ofTexts ["~1", "", "/~0"] = "/~01//~1~00" := by decide

end Target

end FilterQuery
