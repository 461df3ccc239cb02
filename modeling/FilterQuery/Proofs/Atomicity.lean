import FilterQuery.Proofs.Refusals

/-!
# Resolving is all or nothing

A target is judged twice before it is recorded: its field by the strategy, and
its segments one after the other. `Target.Resolution` says which of the two is
heard first, which error each of them gives and what is left behind. The
segments may be anything while the field is not permitted, and a reserved one
is found at every place of a path. A session that a target is refused in is the
session it was, also if the path was good up to its last segment.
-/

namespace FilterQuery

namespace Strategy

/-- A field is kept out by the list of what is denied, or by not being on the
list of what is allowed. -/
theorem permits_eq_false_iff {s : Strategy} {field : String} :
    s.permits field = false ↔
      (∃ fields, s.list = .deny fields ∧ field ∈ fields) ∨
        ∃ fields, s.list = .allow fields ∧ field ∉ fields := by
  constructor
  · intro h
    rcases breach_cases h with ⟨fields, hlist, hmem, -⟩ | ⟨fields, hlist, hmem, -⟩
    · exact Or.inl ⟨fields, hlist, hmem⟩
    · exact Or.inr ⟨fields, hlist, hmem⟩
  · rintro (⟨fields, hlist, hmem⟩ | ⟨fields, hlist, hmem⟩)
    · simp [permits, hlist, FieldList.permits, hmem]
    · simp [permits, hlist, FieldList.permits, hmem]

end Strategy

namespace Target

variable {s : Strategy} {t : Target}

/-! ## The two judgements -/

theorem isReserved_iff :
    t.isReserved = true ↔ ∃ segment ∈ t.segments, FilterQuery.isReserved segment.text = true := by
  simp [isReserved, texts]

theorem accepted_iff :
    t.Accepted s ↔
      s.permits t.field = true ∧
        ∀ segment ∈ t.segments, FilterQuery.isReserved segment.text = false := by
  have hunreserved : t.isReserved = false ↔
      ∀ segment ∈ t.segments, FilterQuery.isReserved segment.text = false := by
    simp [isReserved, texts]
  rw [← hunreserved]
  exact ⟨fun h => ⟨h.permitted, h.unreserved⟩, fun h => ⟨h.1, h.2⟩⟩

/-- The errors of a target, one for each way to fail. -/
theorem resolve_outcome_error_cases {e : ConvertError} :
    (t.resolve s).outcome = .error e ↔
      (∃ fields, s.list = .deny fields ∧ t.field ∈ fields) ∧ e = .deniedField t.field ∨
      (∃ fields, s.list = .allow fields ∧ t.field ∉ fields) ∧ e = .unallowedField t.field ∨
      (s.permits t.field = true ∧ t.isReserved = true) ∧ e = .invalidTarget t.pointer := by
  rw [resolve_outcome_eq_error]
  constructor
  · intro h
    cases h with
    | denied hlist hmem => exact Or.inl ⟨⟨_, hlist, hmem⟩, rfl⟩
    | unallowed hlist hmem => exact Or.inr (Or.inl ⟨⟨_, hlist, hmem⟩, rfl⟩)
    | reserved hpermits hreserved => exact Or.inr (Or.inr ⟨⟨hpermits, hreserved⟩, rfl⟩)
  · rintro (⟨⟨_, hlist, hmem⟩, rfl⟩ | ⟨⟨_, hlist, hmem⟩, rfl⟩ | ⟨⟨hpermits, hreserved⟩, rfl⟩)
    · exact .denied hlist hmem
    · exact .unallowed hlist hmem
    · exact .reserved hpermits hreserved

/-! ## Resolving in a session -/

/-- What comes of resolving a target in a session: the outcome, and the session
after it. -/
structure Resolution (s : Strategy) (t : Target) (session : Session)
    (outcome : Except ConvertError String) (after : Session) : Prop where
  /-- The strategy is asked first, whatever the segments are. -/
  barred : s.permits t.field = false ↔
    outcome = .error (.deniedField t.field) ∨ outcome = .error (.unallowedField t.field)
  denied : outcome = .error (.deniedField t.field) ↔
    ∃ fields, s.list = .deny fields ∧ t.field ∈ fields
  unallowed : outcome = .error (.unallowedField t.field) ↔
    ∃ fields, s.list = .allow fields ∧ t.field ∉ fields
  reserved : outcome = .error (.invalidTarget t.pointer) ↔
    s.permits t.field = true ∧ ∃ segment ∈ t.segments, FilterQuery.isReserved segment.text = true
  resolved : (∃ key, outcome = .ok key) ↔
    s.permits t.field = true ∧ ∀ segment ∈ t.segments, FilterQuery.isReserved segment.text = false
  unchanged : ∀ e, outcome = .error e → after = session
  recorded : ∀ key, outcome = .ok key →
    after = if t.field ∈ session then session else session ++ [t.field]

theorem run_resolve_of_error {e : ConvertError} (h : (t.resolve s).outcome = .error e)
    (session : Session) : (session.run (t.resolve s)).2 = session := by
  have hnot : ¬t.Accepted s := by
    intro ht
    rw [resolve_of_accepted ht] at h
    cases h
  obtain ⟨d, hd⟩ := resolve_of_not_accepted hnot
  rw [hd]
  rfl

theorem run_resolve_of_ok {key : String} (h : (t.resolve s).outcome = .ok key)
    (session : Session) :
    (session.run (t.resolve s)).2
      = if t.field ∈ session then session else session ++ [t.field] := by
  obtain ⟨ht, -⟩ := resolve_outcome_eq_ok.mp h
  rw [resolve_of_accepted ht]
  show session.add t.field = _
  split
  · exact Session.add_of_mem ‹_›
  · exact Session.add_of_notMem ‹_›

/-- In every session resolving a target fails for its field, or else for a
reserved segment at any place of its path, or else succeeds. Only then is the
field recorded, unless it was before. -/
theorem resolution_run (s : Strategy) (session : Session) (t : Target) :
    t.Resolution s session (session.take (Resolver.resolve s t)).1
      (session.take (Resolver.resolve s t)).2 := by
  have hdenied : (t.resolve s).outcome = .error (.deniedField t.field) ↔
      ∃ fields, s.list = .deny fields ∧ t.field ∈ fields := by
    simp [resolve_outcome_error_cases]
  have hunallowed : (t.resolve s).outcome = .error (.unallowedField t.field) ↔
      ∃ fields, s.list = .allow fields ∧ t.field ∉ fields := by
    simp [resolve_outcome_error_cases]
  rw [Resolver.resolve_follows]
  exact {
    barred := Strategy.permits_eq_false_iff.trans (or_congr hdenied.symm hunallowed.symm)
    denied := hdenied
    unallowed := hunallowed
    reserved := by
      rw [← isReserved_iff]
      simp [Session.run, resolve_outcome_error_cases]
    resolved := by
      rw [← accepted_iff]
      simp [Session.run, resolve_outcome_eq_ok]
    unchanged := fun e h => run_resolve_of_error h session
    recorded := fun key h => run_resolve_of_ok h session }

/-- A reserved text that is denied is denied, and a path that is good up to its
last segment leaves no trace. -/
example :
    Session.take ["/id"] (Resolver.resolve ⟨.deny ["/$age"], [], .any⟩ ⟨.field "$age", []⟩)
        = (.error (.deniedField "/$age"), ["/id"]) ∧
      Session.take ["/id"]
          (Resolver.resolve .unrestricted ⟨.field "foo", [.index (-1), .field "a--b"]⟩)
        = (.error (.invalidTarget "/foo/-1/a--b"), ["/id"]) := ⟨rfl, rfl⟩

end Target

end FilterQuery
