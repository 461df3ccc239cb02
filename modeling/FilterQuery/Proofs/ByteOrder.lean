import FilterQuery.Entries
import Mathlib.Order.Basic

/-!
# The order of keys is the order of their bytes

Keys are ordered as strings, character by character. Their UTF-8 bytes are in
the same order (`Text.lt_iff_bytes_lt`): of two characters the later one has
the later bytes, and neither has bytes that the other one's start with. So
entries in order are entries in the order of the bytes of their keys.
-/

namespace FilterQuery

namespace Text

/-- The UTF-8 bytes of a text. -/
def bytes (x : String) : List UInt8 := x.toByteArray.data.toList

theorem bytes_eq_flatMap (x : String) : bytes x = x.toList.flatMap String.utf8EncodeChar := by
  rw [bytes, ← String.utf8Encode_toList, List.utf8Encode, List.toList_data_toByteArray]

/-- A later character has later bytes, whatever comes after them. -/
theorem utf8EncodeChar_lt {c d : Char} (h : c < d) (xs ys : List UInt8) :
    String.utf8EncodeChar c ++ xs < String.utf8EncodeChar d ++ ys := by
  have hval : c.val.toNat < d.val.toNat := h
  have hmax : d.val.toNat < 0x110000 := by
    rcases d.valid with hd | ⟨-, hd⟩
    · exact Nat.lt_trans hd (by decide)
    · exact hd
  unfold String.utf8EncodeChar
  generalize c.val.toNat = v at *
  generalize d.val.toNat = w at *
  -- all bytes but the first carry six bits
  have hlast : v / 64 < w / 64 ∨ v / 64 = w / 64 ∧ v % 64 < w % 64 := by omega
  have hthird : v / 64 < w / 64 →
      v / 4096 < w / 4096 ∨ v / 4096 = w / 4096 ∧ v / 64 % 64 < w / 64 % 64 := by omega
  have hsecond : v / 4096 < w / 4096 →
      v / 262144 < w / 262144 ∨ v / 262144 = w / 262144 ∧ v / 4096 % 64 < w / 4096 % 64 := by omega
  dsimp only
  -- one case for each two numbers of bytes
  split_ifs
  all_goals
    simp (disch := omega) only [List.cons_append, List.nil_append, List.cons_lt_cons_iff,
      UInt8.lt_iff_toNat_lt, ← UInt8.toNat_inj, UInt8.toNat_ofNat', Nat.mod_eq_of_lt]
    omega

theorem flatMap_utf8EncodeChar_lt : ∀ {cs ds : List Char}, cs < ds →
    cs.flatMap String.utf8EncodeChar < ds.flatMap String.utf8EncodeChar
  | _, [], h => absurd h (List.not_lt_nil _)
  | [], d :: ds, _ => by
      rw [List.flatMap_nil, List.flatMap_cons]
      cases hd : String.utf8EncodeChar d with
      | nil => exact absurd hd String.utf8EncodeChar_ne_nil
      | cons b bs => exact List.nil_lt_cons _ _
  | c :: cs, d :: ds, h => by
      rw [List.flatMap_cons, List.flatMap_cons]
      rcases List.cons_lt_cons_iff.mp h with hchar | ⟨rfl, hrest⟩
      · exact utf8EncodeChar_lt hchar _ _
      · exact List.append_left_lt (flatMap_utf8EncodeChar_lt hrest)

theorem bytes_lt {x y : String} (h : x < y) : bytes x < bytes y := by
  rw [bytes_eq_flatMap, bytes_eq_flatMap]
  exact flatMap_utf8EncodeChar_lt h

/-- Texts are ordered as their bytes are. -/
theorem lt_iff_bytes_lt {x y : String} : x < y ↔ bytes x < bytes y := by
  refine ⟨bytes_lt, fun hbytes => ?_⟩
  by_contra hnot
  have hle : y ≤ x := String.not_lt.mp hnot
  by_cases heq : x = y
  · subst heq
    exact List.lt_irrefl _ hbytes
  · have hlt : y < x := String.not_le.mp fun h => heq (String.le_antisymm h hle)
    exact List.lt_asymm hbytes (bytes_lt hlt)

end Text

theorem Entries.ordered_iff_bytes {α : Type} {es : Entries α} :
    Ordered es ↔ (es.map fun e => Text.bytes e.1).Pairwise (· < ·) := by
  rw [Ordered, List.pairwise_map, List.pairwise_map]
  simp only [Text.lt_iff_bytes_lt]

end FilterQuery
