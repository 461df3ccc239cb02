import FilterQuery.Proofs.Assembly

/-!
# Which fields a converted filter makes the store read

The store reads a field in two places of a document: below a key that is no
operator, and inside `$expr` wherever a text starts with a dollar sign. For
a converted filter both are known exactly (`mem_dottedKeys`,
`mem_expressionTexts`): the keys are those of the targets that are compared
with constants, and the texts in expressions are the references to targets
that are compared with each other, and the texts of constants that are
compared with each other.

The three main statements say how far the policy governs these reads.

- A deny-list judges the first segment of a target, and the store goes by
  the component of its key. `denied_component_unread_iff`: no denied
  top-level field is read exactly if none is the leading component of a
  target that starts with an empty segment or with a dotted one. All other
  targets are safe under every deny-list.
- An allow-list has no such gap as long as it lists names alone.
  `component_allowed`: a first segment that is empty or has a dot is on no
  such list, so what is read is on it.
- A text that is compared with a constant is spelled as it is.
  `only_references_iff`: what an expression reads are the compared targets,
  all of them judged and recorded, exactly if the compared constants hold no
  text that starts with a dollar sign and names another field.
-/

namespace FilterQuery

namespace Filter

/-- The targets that a filter compares with constants. -/
def addressedTargets (f : Filter) : List Target := f.clauses.flatMap Clause.addressedTargets

/-- The targets that a filter compares with each other. -/
def comparedTargets (f : Filter) : List Target := f.clauses.flatMap Clause.comparedTargets

/-- The texts at any depth of the constants that a filter compares with each
other. -/
def comparedTexts (f : Filter) : List String := f.clauses.flatMap Clause.comparedTexts

theorem mem_targets {f : Filter} {t : Target} :
    t ∈ f.targets ↔ t ∈ f.addressedTargets ∨ t ∈ f.comparedTargets := by
  simp only [targets, addressedTargets, comparedTargets, List.mem_flatMap, Clause.targets_eq,
    List.mem_append]
  constructor
  · rintro ⟨c, hc, ht | ht⟩
    · exact Or.inl ⟨c, hc, ht⟩
    · exact Or.inr ⟨c, hc, ht⟩
  · rintro (⟨c, hc, ht⟩ | ⟨c, hc, ht⟩)
    · exact ⟨c, hc, Or.inl ht⟩
    · exact ⟨c, hc, Or.inr ht⟩

section Converted

variable {f : Filter} {s : Strategy} {r : ConversionResult}

theorem accepted_of_mem_targets [RegexEngine] (h : f.convertWith s = .ok r)
    {t : Target} (ht : t ∈ f.targets) :
    t.Accepted s := by
  obtain ⟨hasks, -, -⟩ := convertWith_eq_ok.mp h
  obtain ⟨c, hc, ht⟩ := List.mem_flatMap.mp ht
  exact (hasks c hc).accepted ht

theorem field_mem_fields [RegexEngine] (h : f.convertWith s = .ok r)
    {t : Target} (ht : t ∈ f.targets) :
    t.field ∈ r.fields := by
  obtain ⟨-, -, rfl⟩ := convertWith_eq_ok.mp h
  exact Session.mem_addAll.mpr (Or.inr (List.mem_map_of_mem ht))

/-- The keys of a document are those of the addressed targets. -/
theorem mem_dottedKeys [RegexEngine] (h : f.convertWith s = .ok r) {k : String} :
    k ∈ (Value.object r.document).dottedKeys ↔ ∃ t ∈ f.addressedTargets, k = t.key := by
  obtain ⟨hasks, -, rfl⟩ := convertWith_eq_ok.mp h
  have hview : (Value.object (f.assemble (Clause.query s)).toDocument).dottedKeys
      = f.clauses.flatMap fun c => (c.query s).toValue.dottedKeys :=
    Query.dottedKeys_seesThrough.assemble (Clause.query s) f
  simp only [hview, addressedTargets, List.mem_flatMap]
  constructor
  · rintro ⟨c, hc, hk⟩
    obtain ⟨t, ht, rfl⟩ := (hasks c hc).mem_dottedKeys.mp hk
    exact ⟨t, ⟨c, hc, ht⟩, rfl⟩
  · rintro ⟨t, ⟨c, hc, ht⟩, rfl⟩
    exact ⟨c, hc, (hasks c hc).mem_dottedKeys.mpr ⟨t, ht, rfl⟩⟩

/-- The texts in the expressions of a document are the references to the
compared targets and the texts of the compared constants. -/
theorem mem_expressionTexts [RegexEngine] (h : f.convertWith s = .ok r) {x : String} :
    x ∈ (Value.object r.document).expressionTexts ↔
      (∃ t ∈ f.comparedTargets, x = referenceTo t.key) ∨ x ∈ f.comparedTexts := by
  obtain ⟨hasks, -, rfl⟩ := convertWith_eq_ok.mp h
  have hview : (Value.object (f.assemble (Clause.query s)).toDocument).expressionTexts
      = f.clauses.flatMap fun c => (c.query s).toValue.expressionTexts :=
    Query.expressionTexts_seesThrough.assemble (Clause.query s) f
  simp only [hview, comparedTargets, comparedTexts, List.mem_flatMap]
  constructor
  · rintro ⟨c, hc, hx⟩
    rcases (hasks c hc).mem_expressionTexts.mp hx with ⟨t, ht, rfl⟩ | hx
    · exact Or.inl ⟨t, ⟨c, hc, ht⟩, rfl⟩
    · exact Or.inr ⟨c, hc, hx⟩
  · rintro (⟨t, ⟨c, hc, ht⟩, rfl⟩ | ⟨c, hc, hx⟩)
    · exact ⟨c, hc, (hasks c hc).mem_expressionTexts.mpr (Or.inl ⟨t, ht, rfl⟩)⟩
    · exact ⟨c, hc, (hasks c hc).mem_expressionTexts.mpr (Or.inr hx)⟩

end Converted

/-! ## Denied fields -/

/-- The document of a filter reads the field with a key: as a key, or by a
reference that the filter's compared targets account for. -/
def Reads (f : Filter) (document : Document) (key : String) : Prop :=
  key ∈ (Value.object document).dottedKeys ∨
    referenceTo key ∈ (Value.object document).expressionTexts ∧
      ∃ t ∈ f.comparedTargets, t.key = key

theorem reads_iff [RegexEngine] {f : Filter} {s : Strategy} {r : ConversionResult}
    (h : f.convertWith s = .ok r) {k : String} :
    f.Reads r.document k ↔ ∃ t ∈ f.targets, k = t.key := by
  constructor
  · rintro (hk | ⟨-, t, ht, rfl⟩)
    · obtain ⟨t, ht, rfl⟩ := (mem_dottedKeys h).mp hk
      exact ⟨t, mem_targets.mpr (Or.inl ht), rfl⟩
    · exact ⟨t, mem_targets.mpr (Or.inr ht), rfl⟩
  · rintro ⟨t, ht, rfl⟩
    rcases mem_targets.mp ht with ht | ht
    · exact Or.inl ((mem_dottedKeys h).mpr ⟨t, ht, rfl⟩)
    · exact Or.inr ⟨(mem_expressionTexts h).mpr (Or.inl ⟨t, ht, rfl⟩), t, ht, rfl⟩

/-- A target is safe under a deny-list if its first segment names the field
that the store reads. -/
theorem leading_notMem_denied {s : Strategy} {denied : List String} {t : Target}
    (hlist : s.list = .deny denied) (ht : t.Accepted s) (hne : t.first.text ≠ "")
    (hdot : '.' ∉ t.first.text.toList) : "/" ++ t.leading ∉ denied := by
  have hpermitted := ht.permitted
  rw [Strategy.permits, hlist, Target.field_eq_leading ht.unreserved hne hdot] at hpermitted
  simpa [FieldList.permits] using hpermitted

/-- No denied top-level field is read exactly if none is the leading
component of a target whose first segment is empty or has a dot. -/
theorem denied_component_unread_iff [RegexEngine] {f : Filter} {s : Strategy} {r : ConversionResult}
    {denied : List String} (h : f.convertWith s = .ok r) (hlist : s.list = .deny denied) :
    (∀ key, f.Reads r.document key → "/" ++ component key ∉ denied) ↔
      ∀ t ∈ f.targets, t.first.text = "" ∨ '.' ∈ t.first.text.toList →
        "/" ++ t.leading ∉ denied := by
  constructor
  · intro hsafe t ht _
    have hread := hsafe t.key ((reads_iff h).mpr ⟨t, ht, rfl⟩)
    rwa [Target.component_key] at hread
  · intro hodd key hkey
    obtain ⟨t, ht, rfl⟩ := (reads_iff h).mp hkey
    rw [Target.component_key]
    by_cases hfirst : t.first.text = "" ∨ '.' ∈ t.first.text.toList
    · exact hodd t ht hfirst
    · rw [not_or] at hfirst
      exact leading_notMem_denied hlist (accepted_of_mem_targets h ht) hfirst.1 hfirst.2

/-- Hides one field. -/
def withoutPassword : Strategy := ⟨.deny ["/password"], [], .any⟩

/-- A filter that addresses one target and, in a group, compares two, one of
which starts with an empty segment. -/
def userOrAge : Filter :=
  (Filter.ofClause ⟨.target ⟨.field "user", [.index 0]⟩, .relation .eq, .literal (.integer 1)⟩)
    |>.orGroup (.ofClause
      ⟨.target ⟨.field "", [.field "age"]⟩, .relation .lt, .target ⟨.field "limit", []⟩⟩)

def userOrAgeResult : ConversionResult :=
  ⟨["/user", "/", "/limit"],
    [("$or", .array [.object [("user.0", .integer 1)],
      .object [("$expr", .object [("$lt", .array [.string "$age", .string "$limit"])])]])]⟩

theorem denied_component_unread_userOrAge :
    userOrAge.convertWith withoutPassword = .ok userOrAgeResult ∧
      withoutPassword.list = .deny ["/password"] ∧
      ((∀ key, userOrAge.Reads userOrAgeResult.document key →
          "/" ++ component key ∉ ["/password"]) ↔
        ∀ t ∈ userOrAge.targets, t.first.text = "" ∨ '.' ∈ t.first.text.toList →
          "/" ++ t.leading ∉ ["/password"]) :=
  ⟨rfl, rfl, denied_component_unread_iff (s := withoutPassword) rfl rfl⟩

/-- Behind an empty segment a denied field is read. -/
def behindEmpty : Filter :=
  .ofClause ⟨.target ⟨.field "", [.field "password"]⟩, .relation .eq, .literal (.integer 1)⟩

/-- Below a dotted segment a denied field is read. -/
def belowDotted : Filter :=
  .ofClause ⟨.target ⟨.field "password.hash", []⟩, .relation .eq, .literal (.integer 1)⟩

theorem denied_component_read :
    (∃ r, behindEmpty.convertWith withoutPassword = .ok r ∧
        behindEmpty.Reads r.document "password" ∧ "/" ++ component "password" ∈ ["/password"]) ∧
      ∃ r, belowDotted.convertWith withoutPassword = .ok r ∧
        belowDotted.Reads r.document "password.hash" ∧
          "/" ++ component "password.hash" ∈ ["/password"] := by
  constructor
  · exact ⟨⟨["/"], [("password", .integer 1)]⟩, rfl, Or.inl (by decide), by decide⟩
  · exact ⟨⟨["/password.hash"], [("password.hash", .integer 1)]⟩, rfl, Or.inl (by decide),
      by decide⟩

/-! ## Allowed fields -/

/-- What identifies a top-level field by a name that can stand before the
first dot of a key. -/
def NamesField (id : String) : Prop :=
  ∃ name, id = "/" ++ name ∧ name ≠ "" ∧ '.' ∉ name.toList

/-- Under an allow-list of names the policy and the store agree on every
target that is accepted: its field is on the list, so its first segment is a
name. -/
theorem leading_mem_allowed {s : Strategy} {allowed : List String} {t : Target}
    (hlist : s.list = .allow allowed) (hnames : ∀ id ∈ allowed, NamesField id)
    (ht : t.Accepted s) : "/" ++ t.leading ∈ allowed := by
  have hmem : t.field ∈ allowed := by
    have hpermitted := ht.permitted
    rw [Strategy.permits, hlist] at hpermitted
    simpa [FieldList.permits] using hpermitted
  obtain ⟨name, hid, hne, hdot⟩ := hnames t.field hmem
  have hfirst : t.first.text = name := by
    rw [Target.field_of_unreserved ht.unreserved] at hid
    simpa [← String.toList_inj, String.toList_append] using hid
  subst hfirst
  rwa [← Target.field_eq_leading ht.unreserved hne hdot]

/-- Every field that is read is on an allow-list of names. -/
theorem component_allowed [RegexEngine] {f : Filter} {s : Strategy} {r : ConversionResult}
    {allowed : List String} (h : f.convertWith s = .ok r) (hlist : s.list = .allow allowed)
    (hnames : ∀ id ∈ allowed, NamesField id) {key : String} (hread : f.Reads r.document key) :
    "/" ++ component key ∈ allowed := by
  obtain ⟨t, ht, rfl⟩ := (reads_iff h).mp hread
  have haccepted : t.Accepted s := accepted_of_mem_targets h ht
  rw [Target.component_key]
  exact leading_mem_allowed hlist hnames haccepted

/-- Shows two fields. -/
def onlyUserAndLimit : Strategy := ⟨.allow ["/user", "/limit"], [], .any⟩

/-- A filter that addresses one target and, in a group, compares two. -/
def userOrLimit : Filter :=
  (Filter.ofClause ⟨.target ⟨.field "user", [.index 0]⟩, .relation .eq, .literal (.integer 1)⟩)
    |>.orGroup (.ofClause
      ⟨.target ⟨.field "user", [.field "", .field "age"]⟩, .relation .lt,
        .target ⟨.field "limit", []⟩⟩)

def userOrLimitResult : ConversionResult :=
  ⟨["/user", "/limit"],
    [("$or", .array [.object [("user.0", .integer 1)],
      .object [("$expr", .object [("$lt", .array [.string "$user..age", .string "$limit"])])]])]⟩

theorem component_allowed_userOrLimit :
    userOrLimit.convertWith onlyUserAndLimit = .ok userOrLimitResult ∧
      onlyUserAndLimit.list = .allow ["/user", "/limit"] ∧
      (∀ id ∈ ["/user", "/limit"], NamesField id) ∧
      userOrLimit.Reads userOrLimitResult.document "user..age" ∧
      "/" ++ component "user..age" ∈ ["/user", "/limit"] := by
  have hnames : ∀ id ∈ ["/user", "/limit"], NamesField id := by
    simp only [List.forall_mem_cons, List.not_mem_nil, false_implies, implies_true, and_true]
    exact ⟨⟨"user", rfl, by decide, by decide⟩, ⟨"limit", rfl, by decide, by decide⟩⟩
  have hread : userOrLimit.Reads userOrLimitResult.document "user..age" :=
    (reads_iff (s := onlyUserAndLimit) rfl).mpr
      ⟨⟨.field "user", [.field "", .field "age"]⟩, by decide, rfl⟩
  exact ⟨rfl, rfl, hnames, hread, component_allowed (s := onlyUserAndLimit) rfl rfl hnames hread⟩

/-! ## References -/

/-- Of the texts the ones with a dollar sign in front are references, each
to a target that the filter compares with another one and that resolves. -/
def OnlyReferences (s : Strategy) (f : Filter) (texts : List String) : Prop :=
  ∀ key, referenceTo key ∈ texts → ∃ t ∈ f.comparedTargets, (t.resolve s).outcome = .ok key

/-- The expressions of a document hold no references but those to compared
targets exactly if the compared constants hold no others. The compared
targets themselves are judged and recorded in any case. -/
theorem only_references_iff [RegexEngine] {f : Filter} {s : Strategy} {r : ConversionResult}
    (h : f.convertWith s = .ok r) :
    (OnlyReferences s f (Value.object r.document).expressionTexts ↔
        OnlyReferences s f f.comparedTexts) ∧
      ∀ t ∈ f.comparedTargets, (t.resolve s).outcome = .ok t.key ∧ s.permits t.field = true ∧
        t.field ∈ r.fields := by
  have hresolved : ∀ t ∈ f.comparedTargets, (t.resolve s).outcome = .ok t.key := fun t ht =>
    Target.resolve_outcome_eq_ok.mpr
      ⟨accepted_of_mem_targets h (mem_targets.mpr (Or.inr ht)), rfl⟩
  refine ⟨⟨?_, ?_⟩, ?_⟩
  · intro hall key hkey
    exact hall key ((mem_expressionTexts h).mpr (Or.inr hkey))
  · intro hconstants key hkey
    rcases (mem_expressionTexts h).mp hkey with ⟨t, ht, hkey⟩ | hkey
    · have hkey : key = t.key := by
        simpa [referenceTo, ← String.toList_inj, String.toList_append] using hkey
      exact ⟨t, ht, hkey ▸ hresolved t ht⟩
    · exact hconstants key hkey
  · intro t ht
    have hmem : t ∈ f.targets := mem_targets.mpr (Or.inr ht)
    exact ⟨hresolved t ht, (accepted_of_mem_targets h hmem).permitted, field_mem_fields h hmem⟩

theorem only_references_userOrAge :
    userOrAge.convertWith withoutPassword = .ok userOrAgeResult ∧
      (OnlyReferences withoutPassword userOrAge
            (Value.object userOrAgeResult.document).expressionTexts ↔
          OnlyReferences withoutPassword userOrAge userOrAge.comparedTexts) ∧
        ∀ t ∈ userOrAge.comparedTargets,
          (t.resolve withoutPassword).outcome = .ok t.key ∧
            withoutPassword.permits t.field = true ∧ t.field ∈ userOrAgeResult.fields :=
  ⟨rfl, only_references_iff rfl⟩

/-- A constant that is read as a denied field: it is in no list of compared
targets, and nothing is recorded. -/
def constantLikeReference : Filter :=
  .ofClause ⟨.literal (.string "$password"), .relation .eq, .literal (.string "x")⟩

theorem constant_read_as_reference :
    ∃ r, constantLikeReference.convertWith withoutPassword = .ok r ∧
      ¬OnlyReferences withoutPassword constantLikeReference
          (Value.object r.document).expressionTexts ∧
        r.fields = [] ∧ withoutPassword.permits "/password" = false := by
  refine ⟨⟨[], [("$expr", .object [("$eq", .array [.string "$password", .string "x"])])]⟩, rfl,
    ?_, rfl, by decide⟩
  intro hall
  obtain ⟨t, ht, -⟩ := hall "password" (by decide)
  cases ht

end Filter

end FilterQuery
