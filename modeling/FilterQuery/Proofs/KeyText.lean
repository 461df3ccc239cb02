import FilterQuery.Proofs.NumberText
import FilterQuery.Proofs.Resolution
import Mathlib.Algebra.Order.Ring.Nat

/-!
# Keys as joined texts

Making a key looks at the key so far to see whether a dot is due, and not at
how far down the path it is. The two differ while the key is empty: a key is
the join of the texts from the first one on that is not empty
(`Target.keyOfTexts_eq_intercalate`). So it is the join of all of them only if
no empty text stands in front of another text (`Target.key_eq_join_iff`).

On a path whose names are neither empty nor dotted nothing is lost:
`Target.Ordinary` paths have their texts back from their key, and so the key
tells them apart.
-/

namespace FilterQuery

namespace Text

/-! ## Dots in texts -/

/-- How many dots a text has. -/
def dots (x : String) : Nat := x.toList.count '.'

theorem dots_append (x y : String) : dots (x ++ y) = dots x + dots y := by
  rw [dots, String.toList_append, List.count_append, dots, dots]

/-- Joining adds one dot between each two neighbours. -/
theorem dots_intercalate : ∀ texts : List String,
    dots (".".intercalate texts) = (texts.map dots).sum + (texts.length - 1)
  | [] => rfl
  | [x] => by simp
  | x :: y :: rest => by
      have hdot : dots "." = 1 := by decide
      rw [String.intercalate_cons_cons, dots_append, dots_append, hdot,
        dots_intercalate (y :: rest)]
      simp only [List.map_cons, List.sum_cons, List.length_cons]
      omega

end Text

open Text

namespace Target

/-! ## The loop that makes a key -/

/-- The texts from the first one on that is not empty. -/
def fromFirstText (texts : List String) : List String := texts.dropWhile (· = "")

theorem fromFirstText_empty (rest : List String) :
    fromFirstText ("" :: rest) = fromFirstText rest := by
  simp [fromFirstText]

theorem fromFirstText_of_ne {x : String} (hx : x ≠ "") (rest : List String) :
    fromFirstText (x :: rest) = x :: rest := by
  simp [fromFirstText, hx]

theorem length_fromFirstText_le (texts : List String) :
    (fromFirstText texts).length ≤ texts.length :=
  (List.dropWhile_suffix _).length_le

/-- The texts that are left out have no dots. -/
theorem sum_dots_fromFirstText (texts : List String) :
    ((fromFirstText texts).map dots).sum = (texts.map dots).sum := by
  induction texts with
  | nil => rfl
  | cons x rest ih =>
      by_cases hx : x = ""
      · subst hx
        have hdots : dots "" = 0 := by decide
        rw [fromFirstText_empty, ih, List.map_cons, List.sum_cons, hdots, Nat.zero_add]
      · rw [fromFirstText_of_ne hx]

/-- Once a key is not empty, all that comes is joined to it. -/
theorem foldl_extendKey_of_ne : ∀ (texts : List String) {key : String}, key ≠ "" →
    texts.foldl extendKey key = ".".intercalate (key :: texts)
  | [], _, _ => String.intercalate_singleton.symm
  | x :: rest, key, hkey => by
      rw [List.foldl_cons, extendKey, if_neg hkey,
        foldl_extendKey_of_ne rest (append_dot_ne_empty key x), String.intercalate_cons_append,
        String.intercalate_cons_cons]

theorem keyOfTexts_eq_intercalate (texts : List String) :
    keyOfTexts texts = ".".intercalate (fromFirstText texts) := by
  unfold keyOfTexts
  induction texts with
  | nil => rfl
  | cons x rest ih =>
      rw [List.foldl_cons, extendKey, if_pos rfl]
      by_cases hx : x = ""
      · subst hx
        rw [ih, fromFirstText_empty]
      · rw [foldl_extendKey_of_ne rest hx, fromFirstText_of_ne hx]

theorem dots_keyOfTexts (texts : List String) :
    dots (keyOfTexts texts) = (texts.map dots).sum + ((fromFirstText texts).length - 1) := by
  rw [keyOfTexts_eq_intercalate, dots_intercalate, sum_dots_fromFirstText]

theorem keyOfTexts_eq_join_iff (x : String) (rest : List String) :
    keyOfTexts (x :: rest) = ".".intercalate (x :: rest) ↔ x ≠ "" ∨ rest = [] := by
  by_cases hx : x = ""
  · subst hx
    simp only [ne_eq, not_true_eq_false, false_or]
    constructor
    · intro hkey
      -- each text that is left out takes its dot with it
      have hdots := congrArg dots hkey
      have hle := length_fromFirstText_le rest
      rw [dots_keyOfTexts, dots_intercalate, fromFirstText_empty, List.length_cons] at hdots
      exact List.eq_nil_of_length_eq_zero (by omega)
    · rintro rfl
      rfl
  · rw [keyOfTexts_eq_intercalate, fromFirstText_of_ne hx]
    simp [hx]

/-- A key is the join of all texts of its path, unless the path has an empty
one in front of others. -/
theorem key_eq_join_iff (t : Target) :
    t.key = ".".intercalate t.texts ↔ t.first.text ≠ "" ∨ t.rest = [] := by
  have h := keyOfTexts_eq_join_iff t.first.text (t.rest.map Segment.text)
  rwa [List.map_eq_nil_iff] at h

theorem reference_of_accepted {s : Strategy} {t : Target} (h : t.Accepted s) :
    t.reference s = ⟨[t.field], .ok ("$" ++ t.key)⟩ := by
  rw [reference, resolve_of_accepted h]
  rfl

/-! ## Joined keys -/

/-- What a target resolves to: the join of its texts without the empty ones at
the front. It is the join of all of them exactly if there is no empty text in
front of another one. The reference is the key behind a dollar sign. -/
theorem resolve_joined_iff {s : Strategy} {t : Target} {key : String}
    (h : (t.resolve s).outcome = .ok key) :
    key = ".".intercalate (t.texts.dropWhile (· = "")) ∧
      (key = ".".intercalate t.texts ↔ t.first.text ≠ "" ∨ t.rest = []) ∧
      dots key = (t.texts.map dots).sum + ((t.texts.dropWhile (· = "")).length - 1) ∧
      (t.reference s).outcome = .ok ("$" ++ key) := by
  obtain ⟨haccepted, rfl⟩ := resolve_outcome_eq_ok.mp h
  refine ⟨keyOfTexts_eq_intercalate t.texts, key_eq_join_iff t, dots_keyOfTexts t.texts, ?_⟩
  rw [reference_of_accepted haccepted]

/-- A path that starts and ends with an empty name. -/
def emptyAround : Target := ⟨.field "", [.field "a.b", .index (-1), .field ""]⟩

theorem resolve_joined_iff_emptyAround :
    (emptyAround.resolve .unrestricted).outcome = .ok "a.b.-1." ∧
      "a.b.-1." = ".".intercalate (emptyAround.texts.dropWhile (· = "")) ∧
      ("a.b.-1." = ".".intercalate emptyAround.texts ↔
        emptyAround.first.text ≠ "" ∨ emptyAround.rest = []) ∧
      dots "a.b.-1." = (emptyAround.texts.map dots).sum
        + ((emptyAround.texts.dropWhile (· = "")).length - 1) ∧
      (emptyAround.reference .unrestricted).outcome = .ok ("$" ++ "a.b.-1.") := by
  have hresolve : (emptyAround.resolve .unrestricted).outcome = .ok "a.b.-1." := rfl
  exact ⟨hresolve, resolve_joined_iff hresolve⟩

/-- Behind an empty name the dot is missing, in the key and in the reference. -/
theorem leading_dot_dropped :
    ∃ t : Target, t.texts = ["", "password"] ∧
      (t.resolve .unrestricted).outcome = .ok "password" ∧
      (t.reference .unrestricted).outcome = .ok "$password" ∧
      ".".intercalate t.texts = ".password" :=
  ⟨⟨.field "", [.field "password"]⟩, rfl, rfl, rfl, rfl⟩

end Target

/-! ## Keys taken apart -/

/-- The pieces of a text between the places of a character. -/
def Text.pieces (c : Char) (x : String) : List String := (x.split c).toList.map (·.copy)

/-- What has no separator in it is found again in its join. -/
theorem Text.pieces_intercalate {c : Char} {texts : List String} (hne : texts ≠ [])
    (h : ∀ x ∈ texts, c ∉ x.toList) :
    pieces c ((String.singleton c).intercalate texts) = texts := by
  rw [pieces, String.toList_split_intercalate h, if_neg hne]

/-- A position is written with digits and a sign. -/
theorem Segment.text_index (n : Int64) :
    (index n).text ≠ "" ∧ '.' ∉ (index n).text.toList := by
  obtain ⟨c, cs, hcons, -⟩ := (Json.Number.integer n.toInt).literal.text_eq_cons
  constructor
  · rw [text, hcons]
    simp
  · have hdigits : '.' ∉ Json.digits n.toInt.natAbs := fun hmem =>
      absurd (Json.isDigit_of_mem_digits hmem) (by decide)
    rw [text, String.toList_ofList]
    simp [Json.Number.literal, Json.Literal.text, Json.Literal.fractionText,
      Json.Literal.exponentText, hdigits]

namespace Target

/-- A path whose names are neither empty nor dotted. -/
def Ordinary (t : Target) : Prop :=
  ∀ name, .field name ∈ t.segments → name ≠ "" ∧ '.' ∉ name.toList

/-- On an ordinary path no text is empty or dotted, those of positions
included. -/
theorem ordinary_iff {t : Target} : t.Ordinary ↔ ∀ x ∈ t.texts, x ≠ "" ∧ '.' ∉ x.toList := by
  rw [texts, List.forall_mem_map]
  constructor
  · intro h segment hsegment
    cases segment with
    | field name => exact h name hsegment
    | index n => exact Segment.text_index n
  · exact fun h name hname => h (.field name) hname

theorem pieces_key {t : Target} (ht : t.Ordinary) : pieces '.' t.key = t.texts := by
  have htexts := ordinary_iff.mp ht
  have hfirst : t.first.text ≠ "" := (htexts t.first.text List.mem_cons_self).1
  rw [(key_eq_join_iff t).mpr (Or.inl hfirst)]
  exact pieces_intercalate (List.cons_ne_nil _ _) fun x hx => (htexts x hx).2

/-- The key of an ordinary path has the path's texts between its dots, so two
such paths have one key exactly if they have the same texts. -/
theorem ordinary_key_iff {s s' : Strategy} {t u : Target} {key key' : String}
    (ht : t.Ordinary) (hu : u.Ordinary) (hkey : (t.resolve s).outcome = .ok key)
    (hkey' : (u.resolve s').outcome = .ok key') :
    pieces '.' key = t.texts ∧ (key = key' ↔ t.texts = u.texts) := by
  obtain ⟨-, rfl⟩ := resolve_outcome_eq_ok.mp hkey
  obtain ⟨-, rfl⟩ := resolve_outcome_eq_ok.mp hkey'
  refine ⟨pieces_key ht, fun h => ?_, fun h => ?_⟩
  · rw [← pieces_key ht, h, pieces_key hu]
  · rw [key, h, key]

def byPosition : Target := ⟨.field "bar", [.index 0, .index (-9223372036854775808)]⟩

/-- The same path with a name in place of the first position. -/
def byName : Target := ⟨.field "bar", [.field "0", .index (-9223372036854775808)]⟩

theorem ordinary_key_iff_namedPosition :
    byPosition.Ordinary ∧ byName.Ordinary ∧
      (byPosition.resolve .unrestricted).outcome = .ok "bar.0.-9223372036854775808" ∧
      (byName.resolve .unrestricted).outcome = .ok "bar.0.-9223372036854775808" ∧
      byPosition ≠ byName ∧
      pieces '.' "bar.0.-9223372036854775808" = byPosition.texts ∧
      byPosition.texts = byName.texts := by
  have hposition : byPosition.Ordinary := ordinary_iff.mpr (by decide)
  have hname : byName.Ordinary := ordinary_iff.mpr (by decide)
  have hkey : (byPosition.resolve .unrestricted).outcome = .ok "bar.0.-9223372036854775808" := rfl
  have hkey' : (byName.resolve .unrestricted).outcome = .ok "bar.0.-9223372036854775808" := rfl
  obtain ⟨hpieces, hsame⟩ := ordinary_key_iff hposition hname hkey hkey'
  exact ⟨hposition, hname, hkey, hkey', by decide, hpieces, hsame.mp rfl⟩

end Target

end FilterQuery
