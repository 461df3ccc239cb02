/-!
# Keyed entries in key order

A document and a JSON object both hold their entries in increasing key
order, each key once, so two equal documents always print the same. The
order of keys is the order of strings by code point, which is also the
order of their UTF-8 bytes.

`insert` replaces the value of a key that is already there; `ofList` puts
entries in one by one, so of several entries with one key the last wins.
-/

namespace FilterQuery

/-- Values under text keys, kept in increasing key order by `insert`. -/
abbrev Entries (α : Type) := List (String × α)

namespace Entries

variable {α : Type}

/-- The keys stand in strictly increasing order, so none stands twice. -/
def Ordered (es : Entries α) : Prop := (es.map Prod.fst).Pairwise (· < ·)

/-- Put a value under a key, in place of the value the key had. -/
def insert (key : String) (value : α) : Entries α → Entries α
  | [] => [(key, value)]
  | (k, v) :: rest =>
      if key < k then (key, value) :: (k, v) :: rest
      else if key = k then (key, value) :: rest
      else (k, v) :: insert key value rest

/-- The entries of a list in key order; the last entry of a key counts. -/
def ofList (es : List (String × α)) : Entries α :=
  es.foldl (fun acc e => insert e.1 e.2 acc) []

/-- The entries with one key and its value. -/
def single (key : String) (value : α) : Entries α := [(key, value)]

/-! ## Insertion through keys -/

/-- Insertion adds no key but its own. -/
theorem mem_keys_insert {key k : String} {value : α} {es : Entries α}
    (h : k ∈ (insert key value es).map Prod.fst) : k = key ∨ k ∈ es.map Prod.fst := by
  induction es with
  | nil => simpa [insert] using h
  | cons e rest ih =>
    simp only [insert] at h
    split at h
    · simpa using h
    · split at h
      · simp only [List.map_cons, List.mem_cons] at h ⊢
        rcases h with h | h
        · exact Or.inl h
        · exact Or.inr (Or.inr h)
      · simp only [List.map_cons, List.mem_cons] at h ⊢
        rcases h with h | h
        · exact Or.inr (Or.inl h)
        · rcases ih h with h | h
          · exact Or.inl h
          · exact Or.inr (Or.inr h)

/-- Insertion keeps the order of keys. -/
theorem ordered_insert {key : String} {value : α} {es : Entries α} (h : Ordered es) :
    Ordered (insert key value es) := by
  induction es with
  | nil => simp [insert, Ordered]
  | cons e rest ih =>
    obtain ⟨hhead, htail⟩ := List.pairwise_cons.mp h
    simp only [insert]
    split
    next hlt =>
      refine List.pairwise_cons.mpr ⟨fun k hk => ?_, h⟩
      rcases List.mem_cons.mp hk with rfl | hk
      · exact hlt
      · exact String.lt_trans hlt (hhead k hk)
    next hge =>
      split
      next heq =>
        subst heq
        exact List.pairwise_cons.mpr ⟨hhead, htail⟩
      next hne =>
        refine List.pairwise_cons.mpr ⟨fun k hk => ?_, ih htail⟩
        rcases mem_keys_insert hk with rfl | hk
        · exact String.not_le.mp fun hle => hne (String.le_antisymm hle (String.not_lt.mp hge))
        · exact hhead k hk

/-- Entries put in one by one stand in the order of keys. -/
theorem ordered_ofList (es : List (String × α)) : Ordered (ofList es) := by
  suffices h : ∀ acc : Entries α, Ordered acc →
      Ordered (es.foldl (fun acc e => insert e.1 e.2 acc) acc) from h [] List.Pairwise.nil
  induction es with
  | nil => exact fun _ h => h
  | cons e rest ih => exact fun acc h => ih _ (ordered_insert h)

end Entries

end FilterQuery
