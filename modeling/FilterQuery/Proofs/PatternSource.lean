import FilterQuery.Pattern

/-!
# The sources of compiled patterns

Compiling a pattern holds back the characters that stand for themselves and
writes them, escaped, before the next wildcard. What it writes is what the
tokens of the pattern spell one after the other (`sourceRest_eq`): held-back
characters get in front of the wildcard that releases them, and none is lost
at the end.

The spellings of tokens are a code. Whatever follows the spelling of a token,
the token is read off first (`ofSourceBody?_source_append`), so a source has
one reading (`sourceOf_injective`), and reading back what a pattern was
compiled to gives the tokens of the pattern. So patterns are compiled to one
source exactly if they have the same tokens (`source_eq_iff`).
-/

namespace FilterQuery

namespace Token

/-! ## Reading a source back -/

/-- A character that means nothing in a source is read as itself. -/
theorem ofSourceBody?_cons_of_not_meta {c : Char} (hc : isMeta c = false) (rest : List Char) :
    ofSourceBody? (c :: rest) = (ofSourceBody? rest).map (literal c :: ·) := by
  have hdollar : c ≠ '$' := by rintro rfl; cases hc
  have hdot : c ≠ '.' := by rintro rfl; cases hc
  have hbackslash : c ≠ '\\' := by rintro rfl; cases hc
  rw [ofSourceBody?, if_neg (by simp [hc])]
  · exact fun h _ => hdollar h
  · exact fun _ h _ => hdot h
  · exact fun _ h _ => hdot h
  · exact fun _ _ h _ => hbackslash h

/-- Before any rest, the spelling of a token is read as that token. -/
theorem ofSourceBody?_source_append (token : Token) (rest : List Char) :
    ofSourceBody? (token.source ++ rest) = (ofSourceBody? rest).map (token :: ·) := by
  cases token with
  | anyOne => rfl
  | anyRun => rfl
  | literal c =>
      cases hc : isMeta c with
      | true => simp [source, ofSourceBody?, hc]
      | false =>
          rw [source, if_neg (by simp [hc]), List.singleton_append,
            ofSourceBody?_cons_of_not_meta hc]

theorem ofSourceBody?_flatMap_source (tokens : List Token) :
    ofSourceBody? (tokens.flatMap source ++ ['$']) = some tokens := by
  induction tokens with
  | nil => rfl
  | cons token rest ih =>
      rw [List.flatMap_cons, List.append_assoc, ofSourceBody?_source_append, ih, Option.map_some]

theorem ofSource?_sourceOf (tokens : List Token) : ofSource? (sourceOf tokens) = some tokens := by
  rw [ofSource?, sourceOf, String.toList_ofList, List.cons_append]
  exact ofSourceBody?_flatMap_source tokens

/-- No two lists of tokens spell one source. -/
theorem sourceOf_injective : Function.Injective sourceOf := by
  intro tokens others h
  have hread : some tokens = some others := by
    rw [← ofSource?_sourceOf tokens, h, ofSource?_sourceOf]
  exact Option.some.inj hread

end Token

namespace Pattern

/-! ## Held-back characters -/

theorem escape_reverse_cons (c : Char) (held : List Char) :
    escape (c :: held).reverse = escape held.reverse ++ (Token.literal c).source := by
  rw [escape, List.reverse_cons, List.flatMap_append, List.flatMap_singleton, escape]

/-- Compiling writes what the held-back characters and then the tokens of the
rest spell. -/
theorem sourceRest_eq (held pattern : List Char) :
    sourceRest held pattern
      = escape held.reverse ++ ((Token.ofPattern pattern).flatMap Token.source ++ ['$']) := by
  have hrelease : ∀ rest : List Char, escape [] ++ rest = rest := fun rest => rfl
  induction held, pattern using sourceRest.induct with
  | case1 held => rfl
  | case2 held c rest ih =>
      rw [sourceRest, ih, Token.ofPattern, escape_reverse_cons, List.flatMap_cons,
        List.append_assoc, List.append_assoc]
  | case3 held rest ih =>
      rw [sourceRest, ih, Token.ofPattern, List.flatMap_cons, List.reverse_nil, hrelease,
        List.append_assoc, List.append_assoc]
  | case4 held rest ih =>
      rw [sourceRest, ih, Token.ofPattern, List.flatMap_cons, List.reverse_nil, hrelease,
        List.append_assoc, List.append_assoc]
  | case5 held c rest hescape hrun hone ih =>
      rw [sourceRest, Token.ofPattern, ih, escape_reverse_cons, List.flatMap_cons,
        List.append_assoc, List.append_assoc]
      all_goals assumption

/-! ## Compiled patterns -/

theorem sourceOf_eq (pattern : String) :
    sourceOf pattern = Token.sourceOf (Token.ofPattern pattern.toList) := by
  have hbody : sourceRest [] pattern.toList
      = (Token.ofPattern pattern.toList).flatMap Token.source ++ ['$'] :=
    sourceRest_eq [] pattern.toList
  rw [sourceOf, hbody, Token.sourceOf, List.cons_append]

section Compiled

variable [RegexEngine]

/-- A pattern is compiled to what its tokens spell, unless the engine refuses
that. -/
theorem compile?_eq_some {pattern : String} {r : Regex} :
    compile? pattern = some r ↔
      RegexEngine.builds true (Token.sourceOf (Token.ofPattern pattern.toList)) = true ∧
        r = ⟨Token.sourceOf (Token.ofPattern pattern.toList), options⟩ := by
  rw [compile?, sourceOf_eq]
  simp only [Option.ite_none_right_eq_some, Option.some.injEq]
  exact and_congr_right' eq_comm

theorem source_of_compile? {pattern : String} {r : Regex} (h : compile? pattern = some r) :
    r.source = Token.sourceOf (Token.ofPattern pattern.toList) := by
  rw [(compile?_eq_some.mp h).2]

/-- Two patterns are compiled to one source exactly if they have the same
tokens, and the source of a pattern is spelled by no tokens but its own. -/
theorem source_eq_iff {p q : String} {r s : Regex} (hp : compile? p = some r)
    (hq : compile? q = some s) :
    (r.source = s.source ↔ Token.ofPattern p.toList = Token.ofPattern q.toList) ∧
      ∀ tokens, Token.sourceOf tokens = r.source ↔ tokens = Token.ofPattern p.toList := by
  rw [source_of_compile? hp, source_of_compile? hq]
  exact ⟨Token.sourceOf_injective.eq_iff, fun _ => Token.sourceOf_injective.eq_iff⟩

end Compiled

/-- A dot before a wildcard, spelled in two ways, and a dot before a star that
is no wildcard. -/
theorem source_eq_iff_dotAndStar :
    compile? "\\a.*" = some ⟨"^a\\..*$", "i"⟩ ∧ compile? "a\\.*" = some ⟨"^a\\..*$", "i"⟩ ∧
      compile? "a.\\*" = some ⟨"^a\\.\\*$", "i"⟩ ∧
      Token.ofPattern "\\a.*".toList = Token.ofPattern "a\\.*".toList ∧
      Token.ofPattern "\\a.*".toList ≠ Token.ofPattern "a.\\*".toList ∧
      Token.sourceOf [.anyRun, .anyOne] ≠ "^a\\..*$" := by
  have hrun : compile? "\\a.*" = some ⟨"^a\\..*$", "i"⟩ := rfl
  have hrun' : compile? "a\\.*" = some ⟨"^a\\..*$", "i"⟩ := rfl
  have hstar : compile? "a.\\*" = some ⟨"^a\\.\\*$", "i"⟩ := rfl
  refine ⟨hrun, hrun', hstar, (source_eq_iff hrun hrun').1.mp rfl, fun h => ?_, fun h => ?_⟩
  · have hsource := (source_eq_iff hrun hstar).1.mpr h
    revert hsource
    decide
  · have htokens := ((source_eq_iff hrun hrun').2 _).mp h
    revert htokens
    decide

end Pattern

end FilterQuery
