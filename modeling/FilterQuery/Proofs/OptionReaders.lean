import FilterQuery.Proofs.RecordMembers
import FilterQuery.Strategy.Options

/-!
# Two readers of strategy options

Options come in as a record, or as any JSON value that is looked at key by
key. The two readers are written apart from each other: one goes through the
members and fills a draft, the other looks each key up and says which one has
the wrong shape. They take the same options out of the same object
(`Strategy.optionsOf_eq_ok`), except that a record may also be an array and a
choice also an object: a requirement that is spelled so is refused by the
reader that looks up (`StrategyOptions.RecordSpelling`).

Member by member both come down to the same three questions, so there is one
lemma for each kind of member: a list of texts (`textsOf_eq_ok`), a mode
(`modeOf_eq_ok`) and a requirement (`requireOf_eq_ok`).
-/

namespace FilterQuery

open Decoder (Fills Readable optionalMember)

/-! ## Options as records -/

namespace RequireOptions

variable {members : List (String × Json)} {depth : Nat}

theorem fills_fields (depth : Nat) :
    Fills (fieldsOf depth) "fields" Draft.fields
      (Decoder.optional (Decoder.list Decoder.text) depth) where
  fills := ⟨_, fun draft b => { draft with fields := some b }, rfl, fun _ => rfl,
    fun _ _ => rfl, fun _ _ => rfl⟩
  alone := by
    intro other hmem hne
    simp only [fieldsOf, List.mem_cons, List.not_mem_nil, or_false] at hmem
    rcases hmem with rfl | rfl
    · exact absurd rfl hne
    · exact .of_set (fun _ _ => rfl) fun _ _ => rfl

theorem fills_which (depth : Nat) :
    Fills (fieldsOf depth) "which" Draft.which (Decoder.optional RequireMode.decode depth) where
  fills := ⟨_, fun draft b => { draft with which := some b }, rfl, fun _ => rfl,
    fun _ _ => rfl, fun _ _ => rfl⟩
  alone := by
    intro other hmem hne
    simp only [fieldsOf, List.mem_cons, List.not_mem_nil, or_false] at hmem
    rcases hmem with rfl | rfl
    · exact .of_set (fun _ _ => rfl) fun _ _ => rfl
    · exact absurd rfl hne

theorem decode_object_eq_ok (hkeys : (members.map Prod.fst).Nodup) {o : RequireOptions} :
    decode (depth + 1) (Json.object members).toSource = .ok o ↔
      optionalMember (Decoder.list Decoder.text) depth (members.lookup "fields") = .ok o.fields ∧
        optionalMember RequireMode.decode depth (members.lookup "which") = .ok o.which := by
  constructor
  · intro h
    obtain ⟨draft, hdraft, ho⟩ := Except.bind_eq_ok_iff.mp h
    cases ho
    exact ⟨(fills_fields depth).optionalMember_eq rfl hdraft,
      (fills_which depth).optionalMember_eq rfl hdraft⟩
  · rintro ⟨hfields, hwhich⟩
    have hreadable : ∀ field ∈ fieldsOf depth,
        Readable (fieldsOf depth) members {} field.name := by
      intro field hmem
      simp only [fieldsOf, List.mem_cons, List.not_mem_nil, or_false] at hmem
      rcases hmem with rfl | rfl
      · exact (fills_fields depth).readable rfl hfields
      · exact (fills_which depth).readable rfl hwhich
    obtain ⟨draft, hdraft⟩ := Decoder.exists_fieldMembers hkeys hreadable
    have hfields' := (fills_fields depth).optionalMember_eq rfl hdraft
    have hwhich' := (fills_which depth).optionalMember_eq rfl hdraft
    rw [hfields] at hfields'
    rw [hwhich] at hwhich'
    obtain ⟨fields, which⟩ := o
    cases hfields'
    cases hwhich'
    exact Except.bind_eq_ok_iff.mpr ⟨draft, hdraft, rfl⟩

end RequireOptions

namespace StrategyOptions

variable {members : List (String × Json)} {depth : Nat}

theorem fills_allow (depth : Nat) :
    Fills (fieldsOf depth) "allow" Draft.allow
      (Decoder.optional (Decoder.list Decoder.text) depth) where
  fills := ⟨_, fun draft b => { draft with allow := some b }, rfl, fun _ => rfl,
    fun _ _ => rfl, fun _ _ => rfl⟩
  alone := by
    intro other hmem hne
    simp only [fieldsOf, List.mem_cons, List.not_mem_nil, or_false] at hmem
    rcases hmem with rfl | rfl | rfl
    · exact absurd rfl hne
    · exact .of_set (fun _ _ => rfl) fun _ _ => rfl
    · exact .of_set (fun _ _ => rfl) fun _ _ => rfl

theorem fills_deny (depth : Nat) :
    Fills (fieldsOf depth) "deny" Draft.deny
      (Decoder.optional (Decoder.list Decoder.text) depth) where
  fills := ⟨_, fun draft b => { draft with deny := some b }, rfl, fun _ => rfl,
    fun _ _ => rfl, fun _ _ => rfl⟩
  alone := by
    intro other hmem hne
    simp only [fieldsOf, List.mem_cons, List.not_mem_nil, or_false] at hmem
    rcases hmem with rfl | rfl | rfl
    · exact .of_set (fun _ _ => rfl) fun _ _ => rfl
    · exact absurd rfl hne
    · exact .of_set (fun _ _ => rfl) fun _ _ => rfl

theorem fills_require (depth : Nat) :
    Fills (fieldsOf depth) "require" Draft.require
      (Decoder.optional RequireOptions.decode depth) where
  fills := ⟨_, fun draft b => { draft with require := some b }, rfl, fun _ => rfl,
    fun _ _ => rfl, fun _ _ => rfl⟩
  alone := by
    intro other hmem hne
    simp only [fieldsOf, List.mem_cons, List.not_mem_nil, or_false] at hmem
    rcases hmem with rfl | rfl | rfl
    · exact .of_set (fun _ _ => rfl) fun _ _ => rfl
    · exact .of_set (fun _ _ => rfl) fun _ _ => rfl
    · exact absurd rfl hne

theorem decode_object_eq_ok (hkeys : (members.map Prod.fst).Nodup) {o : StrategyOptions} :
    decode (depth + 1) (Json.object members).toSource = .ok o ↔
      optionalMember (Decoder.list Decoder.text) depth (members.lookup "allow") = .ok o.allow ∧
        optionalMember (Decoder.list Decoder.text) depth (members.lookup "deny") = .ok o.deny ∧
        optionalMember RequireOptions.decode depth (members.lookup "require") = .ok o.require := by
  constructor
  · intro h
    obtain ⟨draft, hdraft, ho⟩ := Except.bind_eq_ok_iff.mp h
    cases ho
    exact ⟨(fills_allow depth).optionalMember_eq rfl hdraft,
      (fills_deny depth).optionalMember_eq rfl hdraft,
      (fills_require depth).optionalMember_eq rfl hdraft⟩
  · rintro ⟨hallow, hdeny, hrequire⟩
    have hreadable : ∀ field ∈ fieldsOf depth,
        Readable (fieldsOf depth) members {} field.name := by
      intro field hmem
      simp only [fieldsOf, List.mem_cons, List.not_mem_nil, or_false] at hmem
      rcases hmem with rfl | rfl | rfl
      · exact (fills_allow depth).readable rfl hallow
      · exact (fills_deny depth).readable rfl hdeny
      · exact (fills_require depth).readable rfl hrequire
    obtain ⟨draft, hdraft⟩ := Decoder.exists_fieldMembers hkeys hreadable
    have hallow' := (fills_allow depth).optionalMember_eq rfl hdraft
    have hdeny' := (fills_deny depth).optionalMember_eq rfl hdraft
    have hrequire' := (fills_require depth).optionalMember_eq rfl hdraft
    rw [hallow] at hallow'
    rw [hdeny] at hdeny'
    rw [hrequire] at hrequire'
    obtain ⟨allow, deny, require⟩ := o
    cases hallow'
    cases hdeny'
    cases hrequire'
    exact Except.bind_eq_ok_iff.mpr ⟨draft, hdraft, rfl⟩

end StrategyOptions

/-! ## Member by member -/

namespace RequireMode

theorem decode_string_eq_ok (depth : Nat) (name : String) {mode : RequireMode} :
    decode depth (Json.string name).toSource = .ok mode ↔ ofName? name = some mode := by
  have hnamed : decode depth (Json.string name).toSource
      = Decoder.named [("any", .bare .any), ("all", .bare .all)] name
          >>= Decoder.Alternative.ofName := by
    cases depth <;> rfl
  rw [hnamed, Decoder.named]
  by_cases hany : name = "any"
  · subst hany
    exact ⟨fun h => congrArg some (Except.ok.inj h),
      fun h => congrArg Except.ok (Option.some.inj h)⟩
  by_cases hall : name = "all"
  · subst hall
    exact ⟨fun h => congrArg some (Except.ok.inj h),
      fun h => congrArg Except.ok (Option.some.inj h)⟩
  · rw [List.lookup_cons, beq_eq_false_iff_ne.mpr hany, List.lookup_cons,
      beq_eq_false_iff_ne.mpr hall]
    simp [ofName?, bind, Except.bind]

end RequireMode

namespace Strategy

theorem items_text_eq_ok (depth : Nat) : ∀ {values : List Json} {texts : List String},
    Decoder.items (Decoder.text depth) (Json.itemSources values) = .ok texts ↔
      textsOf? values = some texts
  | [], texts => by
      simp [Json.itemSources, Decoder.items, textsOf?]
  | .string text :: rest, texts => by
      rw [Json.itemSources, Decoder.items, textsOf?, Option.map_eq_some_iff,
        Except.bind_eq_ok_iff]
      constructor
      · rintro ⟨head, hhead, h⟩
        obtain ⟨tail, htail, hcons⟩ := Except.bind_eq_ok_iff.mp h
        cases hhead
        cases hcons
        exact ⟨tail, (items_text_eq_ok depth).mp htail, rfl⟩
      · rintro ⟨tail, htail, rfl⟩
        exact ⟨text, rfl, Except.bind_eq_ok_iff.mpr ⟨tail, (items_text_eq_ok depth).mpr htail, rfl⟩⟩
  | .null :: _, _ | .boolean _ :: _, _ | .number _ :: _, _ | .array _ :: _, _
  | .object _ :: _, _ => by
      constructor <;> intro h <;> cases h

theorem list_text_eq_ok (depth : Nat) {values : List Json} {texts : List String} :
    Decoder.list Decoder.text (depth + 1) (Json.array values).toSource = .ok texts ↔
      textsOf? values = some texts :=
  items_text_eq_ok depth

theorem textsOf_eq_ok (e : StrategyError) (depth : Nat) {found : Option Json}
    {texts? : Option (List String)} :
    textsOf e found = .ok texts? ↔
      optionalMember (Decoder.list Decoder.text) (depth + 1) found = .ok texts? := by
  match found with
  | none | some .null => simp [textsOf, optionalMember, Json.toSource, Decoder.optional]
  | some (.array values) =>
      rw [Decoder.optionalMember_some (by simp), textsOf, Except.map_eq_ok_iff]
      simp only [list_text_eq_ok]
      cases textsOf? values <;> simp
  | some (.boolean _) | some (.number _) | some (.string _) | some (.object _) =>
      constructor <;> intro h <;> cases h

theorem modeOf_eq_ok (depth : Nat) {found : Option Json} {mode? : Option RequireMode} :
    modeOf found = .ok mode? ↔
      optionalMember RequireMode.decode (depth + 1) found = .ok mode? ∧
        ∀ members, found ≠ some (.object members) := by
  match found with
  | none | some .null => simp [modeOf, optionalMember, Json.toSource, Decoder.optional]
  | some (.string name) =>
      rw [Decoder.optionalMember_some (by simp), modeOf, Except.map_eq_ok_iff]
      simp only [RequireMode.decode_string_eq_ok]
      cases RequireMode.ofName? name <;> simp
  | some (.object members) => simp [modeOf]
  | some (.boolean _) | some (.number _) | some (.array _) =>
      constructor
      · intro h
        cases h
      · rintro ⟨h, -⟩
        cases h

end Strategy

namespace StrategyOptions

/-- A requirement that is spelled as only records and choices may be: as an
array of its fields, or with the mode as an object. -/
def RecordSpelling (members : List (String × Json)) : Prop :=
  (∃ values, members.lookup "require" = some (.array values)) ∨
    ∃ inner mode, members.lookup "require" = some (.object inner) ∧
      inner.lookup "which" = some (.object mode)

end StrategyOptions

namespace Strategy

theorem requireOf_eq_ok (depth : Nat) {members : List (String × Json)}
    {require? : Option RequireOptions}
    (hkeys : ∀ inner, members.lookup "require" = some (.object inner) →
      (inner.map Prod.fst).Nodup) :
    requireOf (members.lookup "require") = .ok require? ↔
      optionalMember RequireOptions.decode (depth + 2) (members.lookup "require") = .ok require? ∧
        ¬StrategyOptions.RecordSpelling members := by
  unfold StrategyOptions.RecordSpelling
  match hfound : members.lookup "require" with
  | none | some .null => simp [requireOf, optionalMember, Json.toSource, Decoder.optional]
  | some (.object inner) =>
      rw [Decoder.optionalMember_some (by simp), requireOf, Except.map_eq_ok_iff]
      simp only [RequireOptions.decode_object_eq_ok (hkeys inner hfound)]
      constructor
      · intro h
        obtain ⟨fields, hfields, h⟩ := Except.bind_eq_ok_iff.mp h
        obtain ⟨which, hwhich, h⟩ := Except.bind_eq_ok_iff.mp h
        cases h
        obtain ⟨hwhich, hobject⟩ := (modeOf_eq_ok depth).mp hwhich
        refine ⟨⟨⟨fields, which⟩, ⟨(textsOf_eq_ok _ depth).mp hfields, hwhich⟩, rfl⟩, ?_⟩
        rintro (⟨_, harray⟩ | ⟨_, mode, hinner, hmode⟩)
        · cases harray
        · cases hinner
          exact hobject mode hmode
      · rintro ⟨⟨o, ⟨hfields, hwhich⟩, rfl⟩, hspelling⟩
        have hobject : ∀ mode, inner.lookup "which" ≠ some (.object mode) := fun mode hmode =>
          hspelling (Or.inr ⟨inner, mode, rfl, hmode⟩)
        exact Except.bind_eq_ok_iff.mpr ⟨_, (textsOf_eq_ok _ depth).mpr hfields,
          Except.bind_eq_ok_iff.mpr ⟨_, (modeOf_eq_ok depth).mpr ⟨hwhich, hobject⟩, rfl⟩⟩
  | some (.array values) => simp [requireOf]
  | some (.boolean _) | some (.number _) | some (.string _) =>
      constructor
      · intro h
        cases h
      · rintro ⟨h, -⟩
        cases h

/-! ## Whole objects -/

section Objects

variable {members : List (String × Json)}

/-- The options that are found in an object by looking each key up. -/
def optionsOf (members : List (String × Json)) : Except StrategyError StrategyOptions := do
  let allow ← textsOf .allowNotArray (members.lookup "allow")
  let deny ← textsOf .denyNotArray (members.lookup "deny")
  let require ← requireOf (members.lookup "require")
  return ⟨allow, deny, require⟩

theorem ofJson_object (members : List (String × Json)) :
    ofJson (.object members) = optionsOf members >>= new := by
  simp only [ofJson, optionsOf, bind_assoc, pure_bind]

/-- The same options are found by both readers, if the reader that looks up
takes the object at all. -/
theorem optionsOf_eq_ok (depth : Nat) (hkeys : (members.map Prod.fst).Nodup)
    (hinner : ∀ inner, members.lookup "require" = some (.object inner) →
      (inner.map Prod.fst).Nodup) {o : StrategyOptions} :
    optionsOf members = .ok o ↔
      StrategyOptions.decode (depth + 3) (Json.object members).toSource = .ok o ∧
        ¬StrategyOptions.RecordSpelling members := by
  rw [StrategyOptions.decode_object_eq_ok hkeys]
  constructor
  · intro h
    obtain ⟨allow, hallow, h⟩ := Except.bind_eq_ok_iff.mp h
    obtain ⟨deny, hdeny, h⟩ := Except.bind_eq_ok_iff.mp h
    obtain ⟨require, hrequire, h⟩ := Except.bind_eq_ok_iff.mp h
    cases h
    obtain ⟨hrequire, hspelling⟩ := (requireOf_eq_ok depth hinner).mp hrequire
    exact ⟨⟨(textsOf_eq_ok _ _).mp hallow, (textsOf_eq_ok _ _).mp hdeny, hrequire⟩, hspelling⟩
  · rintro ⟨⟨hallow, hdeny, hrequire⟩, hspelling⟩
    have hrequire' := (requireOf_eq_ok depth hinner).mpr ⟨hrequire, hspelling⟩
    exact Except.bind_eq_ok_iff.mpr ⟨_, (textsOf_eq_ok _ _).mpr hallow,
      Except.bind_eq_ok_iff.mpr ⟨_, (textsOf_eq_ok _ _).mpr hdeny,
        Except.bind_eq_ok_iff.mpr ⟨_, hrequire', rfl⟩⟩⟩

/-! ### Errors -/

theorem textsOf_error {e d : StrategyError} {found : Option Json}
    (h : textsOf e found = .error d) : d = e := by
  unfold textsOf at h
  split at h
  · cases h
  · cases h
  · split at h
    · cases h
    · exact (Except.error.inj h).symm
  · exact (Except.error.inj h).symm

theorem modeOf_error {d : StrategyError} {found : Option Json} (h : modeOf found = .error d) :
    d = .invalidRequireMode := by
  unfold modeOf at h
  split at h
  · cases h
  · cases h
  · split at h
    · cases h
    · exact (Except.error.inj h).symm
  · exact (Except.error.inj h).symm

theorem requireOf_error {d : StrategyError} {found : Option Json}
    (h : requireOf found = .error d) : d ≠ .allowAndDeny := by
  unfold requireOf at h
  split at h
  · cases h
  · cases h
  · rcases Except.bind_eq_error h with h | ⟨fields, -, h⟩
    · rw [textsOf_error h]
      decide
    rcases Except.bind_eq_error h with h | ⟨which, -, h⟩
    · rw [modeOf_error h]
      decide
    · cases h
  · rw [← Except.error.inj h]
    decide

/-- A key of the wrong shape is not blamed on lists that exclude each other. -/
theorem optionsOf_error {d : StrategyError} (h : optionsOf members = .error d) :
    d ≠ .allowAndDeny := by
  rcases Except.bind_eq_error h with h | ⟨allow, -, h⟩
  · rw [textsOf_error h]
    decide
  rcases Except.bind_eq_error h with h | ⟨deny, -, h⟩
  · rw [textsOf_error h]
    decide
  rcases Except.bind_eq_error h with h | ⟨require, -, h⟩
  · exact requireOf_error h
  · cases h

theorem new_error {o : StrategyOptions} {d : StrategyError} (h : new o = .error d) :
    d = .allowAndDeny := by
  rcases Except.bind_eq_error h with h | ⟨list, -, h⟩
  · unfold fieldList at h
    split at h
    · cases h
    · cases h
    · cases h
    · exact (Except.error.inj h).symm
  · cases h

end Objects

/-! ### Options that are written -/

theorem textsOf?_strings : ∀ texts : List String, textsOf? (texts.map .string) = some texts
  | [] => rfl
  | text :: rest => by rw [List.map_cons, textsOf?, textsOf?_strings rest, Option.map_some]

theorem textsOf_ofOption (e : StrategyError) (texts? : Option (List String)) :
    textsOf e (some (Json.ofOption Json.strings texts?)) = .ok texts? := by
  cases texts? with
  | none => rfl
  | some texts => simp [Json.ofOption, Json.strings, textsOf, textsOf?_strings]

theorem modeOf_ofOption (mode? : Option RequireMode) :
    modeOf (some (Json.ofOption RequireMode.toJson mode?)) = .ok mode? := by
  cases mode? with
  | none => rfl
  | some mode => cases mode <;> rfl

theorem requireOf_ofOption (require? : Option RequireOptions) :
    requireOf (some (Json.ofOption RequireOptions.toJson require?)) = .ok require? := by
  cases require? with
  | none => rfl
  | some o =>
      have hfields := textsOf_ofOption .requireFieldsNotArray o.fields
      have hwhich := modeOf_ofOption o.which
      exact Except.bind_eq_ok_iff.mpr ⟨_, hfields, Except.bind_eq_ok_iff.mpr ⟨_, hwhich, rfl⟩⟩

theorem ofJson_toJson (o : StrategyOptions) : ofJson o.toJson = new o := by
  rw [StrategyOptions.toJson, ofJson_object]
  have hoptions : optionsOf [("allow", Json.ofOption Json.strings o.allow),
      ("deny", Json.ofOption Json.strings o.deny),
      ("require", Json.ofOption RequireOptions.toJson o.require)] = .ok o :=
    Except.bind_eq_ok_iff.mpr ⟨_, textsOf_ofOption _ o.allow,
      Except.bind_eq_ok_iff.mpr ⟨_, textsOf_ofOption _ o.deny,
        Except.bind_eq_ok_iff.mpr ⟨_, requireOf_ofOption o.require, rfl⟩⟩⟩
  rw [hoptions]
  rfl

/-! ## The main statement -/

/-- The two readers agree. What the one that looks up accepts, the record
reader accepts as well, with the same strategy; and of options that are read
as a record the other one makes the same, be it a strategy or the error that
both lists are given, unless the requirement is spelled as only a record may
be. Options that are written are spelled as both readers have it. No key
stands twice in the object or in its requirement, as in every object that was
read. -/
theorem ofJson_eq_new_of_decode {members : List (String × Json)}
    (hkeys : (members.map Prod.fst).Nodup)
    (hinner : ∀ inner, members.lookup "require" = some (.object inner) →
      (inner.map Prod.fst).Nodup) (depth : Nat) :
    (∀ s, ofJson (.object members) = .ok s →
        ∃ o, StrategyOptions.decode (depth + 3) (Json.object members).toSource = .ok o ∧
          new o = .ok s) ∧
      (∀ o, StrategyOptions.decode (depth + 3) (Json.object members).toSource = .ok o →
        (ofJson (.object members) = new o ↔ ¬StrategyOptions.RecordSpelling members) ∧
          ((∃ s, new o = .ok s) ∨ new o = .error .allowAndDeny)) ∧
      ∀ o : StrategyOptions, ofJson o.toJson = new o := by
  refine ⟨fun s h => ?_, fun o ho => ⟨⟨fun h => ?_, fun hspelling => ?_⟩, ?_⟩, ofJson_toJson⟩
  · rw [ofJson_object] at h
    obtain ⟨o, ho, hs⟩ := Except.bind_eq_ok_iff.mp h
    exact ⟨o, ((optionsOf_eq_ok depth hkeys hinner).mp ho).1, hs⟩
  · rw [ofJson_object] at h
    cases hoptions : optionsOf members with
    | ok o' => exact ((optionsOf_eq_ok depth hkeys hinner).mp hoptions).2
    | error d =>
        -- the one error of `new` is not among those of the reader
        rw [hoptions] at h
        exact absurd (new_error h.symm) (optionsOf_error hoptions)
  · rw [ofJson_object, (optionsOf_eq_ok depth hkeys hinner).mpr ⟨ho, hspelling⟩]
    rfl
  · cases hnew : new o with
    | ok s => exact Or.inl ⟨s, rfl⟩
    | error d => exact Or.inr (congrArg Except.error (new_error hnew))

/-- Options with a list that is `null` and with unknown keys, one of them
inside the requirement. -/
def looseOptions : List (String × Json) :=
  [("allow", .null), ("deny", Json.strings ["/a"]), ("note", .object [("which", .object [])]),
    ("require", .object [("by", .null), ("fields", Json.strings ["/b"]), ("which", .string "all")])]

/-- A requirement as an array of its fields. -/
def positionalOptions : List (String × Json) :=
  [("require", .array [Json.strings ["/b"], .string "all"])]

theorem ofJson_eq_new_of_decode_looseAndPositional :
    (ofJson (.object looseOptions) = .ok ⟨.deny ["/a"], ["/b"], .all⟩ ∧
        ∃ o, StrategyOptions.decode depthLimit (Json.object looseOptions).toSource = .ok o ∧
          new o = .ok ⟨.deny ["/a"], ["/b"], .all⟩) ∧
      (StrategyOptions.decode depthLimit (Json.object positionalOptions).toSource
          = .ok ⟨none, none, some ⟨some ["/b"], some .all⟩⟩ ∧
        ofJson (.object positionalOptions) ≠ new ⟨none, none, some ⟨some ["/b"], some .all⟩⟩) ∧
      ofJson (.object [("allow", Json.strings ["/a"]), ("deny", Json.strings ["/b"]),
        ("require", .null)]) = .error .allowAndDeny := by
  have hloose := @ofJson_eq_new_of_decode looseOptions (by decide)
    (fun inner h => by cases h; decide) 124
  have hpositional := @ofJson_eq_new_of_decode positionalOptions (by decide)
    (fun inner h => by cases h) 124
  have hread : StrategyOptions.decode depthLimit (Json.object positionalOptions).toSource
      = .ok ⟨none, none, some ⟨some ["/b"], some .all⟩⟩ := rfl
  refine ⟨⟨rfl, hloose.1 _ rfl⟩, ⟨hread, fun h => ?_⟩, ?_⟩
  · exact (hpositional.2.1 _ hread).1.mp h (Or.inl ⟨_, rfl⟩)
  · exact hloose.2.2 ⟨some ["/a"], some ["/b"], none⟩

end Strategy

end FilterQuery
