import FilterQuery.Target.Resolve

/-!
# What a resolved target looks like

A target resolves exactly when its field is permitted and no segment is
reserved (`resolve_outcome_eq_ok`), and then to its key. The rest of the
file says what such a key is like: it holds no reserved character but the
joining dot (`dollar_notMem_key`), so no key is ever taken for an operator
or for a reference; and the store reads it below its *component*, the text
before the first dot.

The policy judges `Target.field`, the pointer to the first segment, and the
store reads the component. `component_key` says what the component is:
it comes from the first segment that is not empty, and only up to that
segment's first dot. The two name the same top-level field if the first
segment is not empty and has no dot (`field_eq_leading`), and need not
otherwise.
-/

namespace FilterQuery

/-! ## Reserved characters -/

theorem holdsReserved_of_mem {c : Char} (hc : c ∈ reservedChars) {cs : List Char}
    (hm : c ∈ cs) : holdsReserved cs = true := by
  fun_induction holdsReserved cs with
  | case1 => cases hm
  | case2 rest => rfl
  | case3 d rest _ ih =>
      rw [Bool.or_eq_true, decide_eq_true_eq]
      rcases List.mem_cons.mp hm with rfl | hm
      · exact Or.inl hc
      · exact Or.inr (ih hm)

/-- A text that is not reserved holds none of the reserved characters. -/
theorem notMem_of_unreserved {c : Char} {x : String} (hc : c ∈ reservedChars)
    (hx : isReserved x = false) : c ∉ x.toList := by
  intro hm
  rw [isReserved, holdsReserved_of_mem hc hm] at hx
  cases hx

/-! ## Characters of keys -/

namespace Target

theorem unreserved_of_mem {t : Target} (ht : t.isReserved = false) {x : String}
    (hx : x ∈ t.texts) : FilterQuery.isReserved x = false := by
  have hall := List.any_eq_false.mp ht x hx
  simpa using hall

theorem mem_extendKey {c : Char} {key x : String} (h : c ∈ (extendKey key x).toList) :
    c ∈ key.toList ∨ c = '.' ∨ c ∈ x.toList := by
  unfold extendKey at h
  split at h
  · exact Or.inr (Or.inr h)
  · simpa [String.toList_append, or_assoc] using h

theorem mem_foldl_extendKey {c : Char} :
    ∀ {texts : List String} {key : String}, c ∈ (texts.foldl extendKey key).toList →
      c ∈ key.toList ∨ c = '.' ∨ ∃ x ∈ texts, c ∈ x.toList
  | [], _, h => Or.inl h
  | x :: rest, key, h => by
      rw [List.foldl_cons] at h
      rcases mem_foldl_extendKey h with h | h | ⟨y, hy, hc⟩
      · rcases mem_extendKey h with h | h | h
        · exact Or.inl h
        · exact Or.inr (Or.inl h)
        · exact Or.inr (Or.inr ⟨x, List.mem_cons_self, h⟩)
      · exact Or.inr (Or.inl h)
      · exact Or.inr (Or.inr ⟨y, List.mem_cons_of_mem _ hy, hc⟩)

/-- A key consists of dots and of characters of its segments. -/
theorem mem_key {c : Char} {t : Target} (h : c ∈ t.key.toList) :
    c = '.' ∨ ∃ x ∈ t.texts, c ∈ x.toList := by
  rcases mem_foldl_extendKey h with h | h
  · cases h
  · exact h

/-- The sign that marks operators and references is in no key of a target
without reserved segments. -/
theorem dollar_notMem_key {t : Target} (ht : t.isReserved = false) : '$' ∉ t.key.toList := by
  intro hm
  rcases mem_key hm with h | ⟨x, hx, hc⟩
  · exact absurd h (by decide)
  · exact notMem_of_unreserved (by decide) (unreserved_of_mem ht hx) hc

end Target

/-! ## Components -/

/-- The top-level field that the store reads under a key: the text before
the first dot. -/
def component (key : String) : String := String.ofList (key.toList.takeWhile (· ≠ '.'))

theorem component_append_dot (key rest : String) :
    component (key ++ "." ++ rest) = component key := by
  have hcut : ∀ cs : List Char,
      (cs ++ '.' :: rest.toList).takeWhile (· ≠ '.') = cs.takeWhile (· ≠ '.') := by
    intro cs
    induction cs with
    | nil => simp
    | cons c cs ih =>
        rw [List.cons_append, List.takeWhile_cons, List.takeWhile_cons, ih]
  simp only [component, String.toList_append, List.append_assoc]
  rw [show ".".toList ++ rest.toList = '.' :: rest.toList from rfl, hcut]

/-- A text without dots is its own component. -/
theorem component_of_no_dot {x : String} (hx : '.' ∉ x.toList) : component x = x := by
  have hall : ∀ c ∈ x.toList, decide (c ≠ '.') = true :=
    fun c hc => decide_eq_true fun he => hx (he ▸ hc)
  have hcut := @List.takeWhile_append_of_pos _ _ x.toList [] hall
  rw [List.append_nil, List.takeWhile_nil, List.append_nil] at hcut
  rw [component, hcut, String.ofList_toList]

namespace Target

/-- Where the store finds a target: the component of its first segment that
is not empty. -/
def leading (t : Target) : String := component ((t.texts.find? (· ≠ "")).getD "")

theorem append_dot_ne_empty (key x : String) : key ++ "." ++ x ≠ "" := by
  simp

/-- Once a key is not empty, more segments do not change its component. -/
theorem component_foldl_extendKey :
    ∀ (texts : List String) {key : String}, key ≠ "" →
      component (texts.foldl extendKey key) = component key
  | [], _, _ => rfl
  | x :: rest, key, hkey => by
      rw [List.foldl_cons, extendKey, if_neg hkey,
        component_foldl_extendKey rest (append_dot_ne_empty key x), component_append_dot]

theorem component_keyOfTexts (texts : List String) :
    component (keyOfTexts texts) = component ((texts.find? (· ≠ "")).getD "") := by
  unfold keyOfTexts
  induction texts with
  | nil => rfl
  | cons x rest ih =>
      rw [List.foldl_cons, extendKey, if_pos rfl]
      by_cases hx : x = ""
      · subst hx
        simpa using ih
      · rw [component_foldl_extendKey rest hx]
        simp [hx]

/-- The component of a target's key. Empty segments in front leave no trace
in the key, so it is a later segment that decides. -/
theorem component_key (t : Target) : component t.key = t.leading :=
  component_keyOfTexts t.texts

end Target

/-! ## Fields -/

theorem Pointer.flatMap_escapeChar {cs : List Char} (htilde : '~' ∉ cs) (hslash : '/' ∉ cs) :
    cs.flatMap escapeChar = cs := by
  induction cs with
  | nil => rfl
  | cons c rest ih =>
      rw [List.mem_cons, not_or] at htilde hslash
      rw [List.flatMap_cons, ih htilde.2 hslash.2, escapeChar, if_neg (Ne.symm htilde.1),
        if_neg (Ne.symm hslash.1)]
      rfl

namespace Target

/-- The field of a target whose first segment is not reserved: nothing in
that segment has to be escaped. -/
theorem field_of_unreserved {t : Target} (ht : t.isReserved = false) :
    t.field = "/" ++ t.first.text := by
  have hfirst : FilterQuery.isReserved t.first.text = false :=
    unreserved_of_mem ht List.mem_cons_self
  have hesc := Pointer.flatMap_escapeChar (notMem_of_unreserved (by decide) hfirst)
    (notMem_of_unreserved (by decide) hfirst)
  rw [← String.toList_inj, field, Pointer.ofTexts, String.toList_ofList, String.toList_append]
  simp [Pointer.token, hesc]

/-- The policy and the store agree on the top-level field of a target that
starts with a segment that is not empty and has no dot. -/
theorem field_eq_leading {t : Target} (ht : t.isReserved = false) (hne : t.first.text ≠ "")
    (hdot : '.' ∉ t.first.text.toList) : t.field = "/" ++ t.leading := by
  rw [field_of_unreserved ht, leading]
  simp [texts, segments, hne, component_of_no_dot hdot]

/-! ## Resolution -/

/-- What a target has to fulfil to have a key under a strategy. -/
structure Accepted (s : Strategy) (t : Target) : Prop where
  permitted : s.permits t.field = true
  unreserved : t.isReserved = false

theorem resolve_of_accepted {s : Strategy} {t : Target} (h : t.Accepted s) :
    t.resolve s = ⟨[t.field], .ok t.key⟩ := by
  simp [resolve, Strategy.assertAllowed, h.permitted, h.unreserved, bind, pure, Trace.andThen,
    Trace.ofExcept, Trace.refer, Trace.done]

theorem resolve_of_reserved {s : Strategy} {t : Target} (hpermits : s.permits t.field = true)
    (hreserved : t.isReserved = true) : t.resolve s = ⟨[], .error (.invalidTarget t.pointer)⟩ := by
  rw [resolve, Strategy.assertAllowed, if_pos hpermits, if_pos hreserved]
  rfl

/-- A target that is not accepted resolves to nothing and is not recorded. -/
theorem resolve_of_not_accepted {s : Strategy} {t : Target} (h : ¬t.Accepted s) :
    ∃ e, t.resolve s = ⟨[], .error e⟩ := by
  by_cases hp : s.permits t.field = true
  · have hr : t.isReserved = true := Bool.of_not_eq_false fun hr => h ⟨hp, hr⟩
    exact ⟨.invalidTarget t.pointer, resolve_of_reserved hp hr⟩
  · unfold resolve Strategy.assertAllowed
    rw [if_neg hp]
    split <;> exact ⟨_, rfl⟩

/-- A target resolves to its key and to nothing else. -/
theorem resolve_outcome_eq_ok {s : Strategy} {t : Target} {key : String} :
    (t.resolve s).outcome = .ok key ↔ t.Accepted s ∧ key = t.key := by
  constructor
  · intro h
    by_cases hacc : t.Accepted s
    · rw [resolve_of_accepted hacc] at h
      exact ⟨hacc, (Except.ok.inj h).symm⟩
    · obtain ⟨e, he⟩ := resolve_of_not_accepted hacc
      rw [he] at h
      cases h
  · rintro ⟨hacc, rfl⟩
    rw [resolve_of_accepted hacc]

end Target

end FilterQuery
