import FilterQuery.Proofs.Resolution

/-!
# Reserved text across boundaries

Segments are checked one by one, and what goes into a document is the key
they are joined to. One of the reserved texts has two characters, so two
texts that are not reserved can be joined to one that is: exactly if the first
ends with a hyphen and the second starts with one (`isReserved_append`). A
key is safe nevertheless, as between two segments there is always a dot: to
check the segments is to check the key (`Target.isReserved_key`), whatever
hyphens stand at their ends.
-/

namespace FilterQuery

/-! ## What is reserved -/

theorem holdsReserved_iff {cs : List Char} :
    holdsReserved cs = true ↔ (∃ c ∈ cs, c ∈ reservedChars) ∨ ['-', '-'] <:+: cs := by
  fun_induction holdsReserved cs with
  | case1 => simp
  | case2 rest =>
      have hinfix : ['-', '-'] <:+: '-' :: '-' :: rest :=
        (List.prefix_append ['-', '-'] rest).isInfix
      exact ⟨fun _ => Or.inr hinfix, fun _ => rfl⟩
  | case3 c rest hnot ih =>
      have hprefix : ¬['-', '-'] <+: c :: rest := by
        rintro ⟨rest', hcons⟩
        obtain ⟨rfl, rfl⟩ := List.cons.inj hcons
        exact hnot rest' rfl rfl
      rw [Bool.or_eq_true, decide_eq_true_eq, ih, List.infix_cons_iff]
      simp only [List.mem_cons, exists_eq_or_imp, hprefix, false_or, or_assoc]

/-! ## Joining texts -/

/-- Two hyphens in a row lie in one of two joined texts or across the
boundary. -/
theorem hyphens_infix_append {cs ds : List Char} :
    ['-', '-'] <:+: cs ++ ds ↔
      ['-', '-'] <:+: cs ∨ ['-', '-'] <:+: ds ∨ cs.getLast? = some '-' ∧ ds.head? = some '-' := by
  rw [List.infix_append_iff_ne_nil]
  refine or_congr_right (or_congr_right ⟨?_, ?_⟩)
  · rintro ⟨l, m, hl, hm, hlm, hcs, hds⟩
    have hsingle : l = ['-'] ∧ m = ['-'] := by
      cases l with
      | nil => exact absurd rfl hl
      | cons c l =>
          obtain ⟨rfl, hrest⟩ := List.cons.inj hlm
          cases l with
          | nil => exact ⟨rfl, hrest.symm⟩
          | cons d l =>
              -- nothing is left for the second text
              obtain ⟨-, hnil⟩ := List.cons.inj hrest
              exact absurd (List.append_eq_nil_iff.mp hnil.symm).2 hm
    obtain ⟨rfl, rfl⟩ := hsingle
    exact ⟨List.singleton_suffix_iff_getLast?_eq_some.mp hcs,
      List.singleton_prefix_iff_head?_eq_some.mp hds⟩
  · rintro ⟨hlast, hhead⟩
    exact ⟨['-'], ['-'], by simp, by simp, rfl,
      List.singleton_suffix_iff_getLast?_eq_some.mpr hlast,
      List.singleton_prefix_iff_head?_eq_some.mpr hhead⟩

theorem isReserved_append (a b : String) :
    isReserved (a ++ b) = true ↔
      isReserved a = true ∨ isReserved b = true ∨
        a.toList.getLast? = some '-' ∧ b.toList.head? = some '-' := by
  have hmem : (∃ c ∈ a.toList ++ b.toList, c ∈ reservedChars) ↔
      (∃ c ∈ a.toList, c ∈ reservedChars) ∨ ∃ c ∈ b.toList, c ∈ reservedChars := by
    simp only [List.mem_append, or_and_right, exists_or]
  simp only [isReserved, String.toList_append, holdsReserved_iff, hyphens_infix_append, hmem]
  grind

/-! ## Keys -/

namespace Target

/-- Putting a segment behind a key brings nothing that is reserved, as the dot
between the two is no hyphen on either side of it. -/
theorem isReserved_extendKey (key x : String) :
    FilterQuery.isReserved (extendKey key x)
      = (FilterQuery.isReserved key || FilterQuery.isReserved x) := by
  have hdot : FilterQuery.isReserved "." = false := by decide
  unfold extendKey
  split
  next hkey =>
    subst hkey
    rfl
  next =>
    rw [Bool.eq_iff_iff, Bool.or_eq_true, isReserved_append, isReserved_append, hdot]
    simp

theorem isReserved_foldl_extendKey :
    ∀ (texts : List String) (key : String),
      FilterQuery.isReserved (texts.foldl extendKey key)
        = (FilterQuery.isReserved key || texts.any FilterQuery.isReserved)
  | [], key => (Bool.or_false _).symm
  | x :: rest, key => by
      rw [List.foldl_cons, isReserved_foldl_extendKey rest, isReserved_extendKey, List.any_cons,
        Bool.or_assoc]

/-- It makes no difference whether the segments are checked or the key. -/
theorem isReserved_key (t : Target) : FilterQuery.isReserved t.key = t.isReserved :=
  isReserved_foldl_extendKey t.texts ""

/-- The key of a target without reserved segments is not reserved itself. -/
theorem key_unreserved {t : Target} (ht : t.isReserved = false) :
    FilterQuery.isReserved t.key = false := by
  rw [isReserved_key, ht]

/-- Reserved text is found wherever it stands: two texts are joined to a
reserved one exactly if one of them is reserved or a hyphen stands on either
side of the boundary. No target that resolves has such a key. -/
theorem reserved_joined_iff :
    (∀ a b : String, FilterQuery.isReserved (a ++ b) = true ↔
        FilterQuery.isReserved a = true ∨ FilterQuery.isReserved b = true ∨
          a.toList.getLast? = some '-' ∧ b.toList.head? = some '-') ∧
      ∀ (s : Strategy) (t : Target) (key : String), (t.resolve s).outcome = .ok key →
        FilterQuery.isReserved key = false := by
  refine ⟨isReserved_append, fun s t key hkey => ?_⟩
  obtain ⟨haccepted, rfl⟩ := resolve_outcome_eq_ok.mp hkey
  exact key_unreserved haccepted.unreserved

/-- A path whose segments all begin and end with a hyphen, with an empty name
and a negative position among them. -/
def hyphensAround : Target := ⟨.field "-a-", [.field "-", .field "", .field "-", .index (-1)]⟩

/-- Without the dots in between the same texts would be reserved. -/
theorem reserved_joined_iff_hyphensAround :
    (hyphensAround.resolve .unrestricted).outcome = .ok "-a-.-..-.-1" ∧
      FilterQuery.isReserved "-a-.-..-.-1" = false ∧
      FilterQuery.isReserved ("-a-" ++ "-") = true := by
  have hresolve : (hyphensAround.resolve .unrestricted).outcome = .ok "-a-.-..-.-1" := rfl
  obtain ⟨hjoined, hkeys⟩ := reserved_joined_iff
  refine ⟨hresolve, hkeys .unrestricted hyphensAround _ hresolve, ?_⟩
  exact (hjoined "-a-" "-").mpr (Or.inr (Or.inr ⟨by decide, by decide⟩))

end Target

end FilterQuery
