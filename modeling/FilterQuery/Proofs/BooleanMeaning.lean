import FilterQuery.Proofs.Assembly

/-!
# A document means what its filter says

Read a filter as a boolean expression: statements are joined from left to
right, `and` binds tighter than `or`, and a nested filter is a value of its
own. Read a document as one too: `$and` and `$or` are connectives, and
everything else has whatever truth value the store gives it. The main
statement, `holds_build`, is that both readings agree: no grouping, no
connective left out for a single member and no order of the statements
changes the truth of the document that is built.

The reading of a filter (`Filter.reading`) knows nothing of groups. It takes
one statement after the other, as someone who reads the filter aloud does,
and `readStatements_groups` is where it meets the cutting at each `or`.
-/

namespace FilterQuery

/-! ## Reading a filter -/

/-- The truth of what is read so far, with more to read: `and` goes on with
the part at hand, and `or` sets it aside and starts over. -/
def readFrom (sofar : Bool) : List (Conjunction × Bool) → Bool
  | [] => sofar
  | (.and, b) :: rest => readFrom (sofar && b) rest
  | (.or, b) :: rest => sofar || readFrom b rest

/-- The truth of joined statements. The first one joins nothing, and without
statements there is nothing to refute. -/
def readStatements : List (Conjunction × Bool) → Bool
  | [] => true
  | (_, b) :: rest => readFrom b rest

/-- The truth of a filter under a truth value for each clause. -/
def Filter.reading (v : Clause → Bool) (f : Filter) : Bool := f.fold v readStatements

/-! ## Reading a document -/

mutual

/-- The truth of a value under an assignment: a document whose only entry is
a connective is read as that connective, all else as the assignment says. -/
def Value.holds (ρ : Value → Bool) : Value → Bool
  | .object [(key, .array members)] =>
      if key = "$and" then allHold ρ members
      else if key = "$or" then anyHolds ρ members
      else ρ (.object [(key, .array members)])
  | v => ρ v

def allHold (ρ : Value → Bool) : List Value → Bool
  | [] => true
  | member :: rest => member.holds ρ && allHold ρ rest

def anyHolds (ρ : Value → Bool) : List Value → Bool
  | [] => false
  | member :: rest => member.holds ρ || anyHolds ρ rest

end

theorem allHold_eq (ρ : Value → Bool) (members : List Value) :
    allHold ρ members = members.all (Value.holds ρ) := by
  induction members with
  | nil => rfl
  | cons member rest ih => rw [allHold, ih, List.all_cons]

theorem anyHolds_eq (ρ : Value → Bool) (members : List Value) :
    anyHolds ρ members = members.any (Value.holds ρ) := by
  induction members with
  | nil => rfl
  | cons member rest ih => rw [anyHolds, ih, List.any_cons]

theorem Query.holds_all (ρ : Value → Bool) (qs : List Query) :
    (Query.all qs).toValue.holds ρ = qs.all fun q => q.toValue.holds ρ := by
  rw [toValue_all, Value.single, Entries.single, Value.holds, if_pos rfl, allHold_eq,
    List.all_map]
  rfl

theorem Query.holds_any (ρ : Value → Bool) (qs : List Query) :
    (Query.any qs).toValue.holds ρ = qs.any fun q => q.toValue.holds ρ := by
  rw [toValue_any, Value.single, Entries.single, Value.holds, if_neg (by decide), if_pos rfl,
    anyHolds_eq, List.any_map]
  rfl

/-! ## Atoms

Conditions and expressions are atoms, and a document shows them as such: no
key of an accepted target is spelled like a connective. -/

mutual

/-- The truth of a query whose conditions and expressions are atoms. -/
def Query.truth (ρ : Value → Bool) : Query → Bool
  | .field key cond => ρ (Query.field key cond).toValue
  | .expression e => ρ (Query.expression e).toValue
  | .all members => Query.allTrue ρ members
  | .any members => Query.anyTrue ρ members

def Query.allTrue (ρ : Value → Bool) : List Query → Bool
  | [] => true
  | member :: rest => member.truth ρ && allTrue ρ rest

def Query.anyTrue (ρ : Value → Bool) : List Query → Bool
  | [] => false
  | member :: rest => member.truth ρ || anyTrue ρ rest

end

/-- A document of one entry that is no connective is left to the
assignment. -/
theorem Value.holds_single {ρ : Value → Bool} {key : String} {v : Value} (hand : key ≠ "$and")
    (hor : key ≠ "$or") : (Value.single key v).holds ρ = ρ (.single key v) := by
  rw [Value.single, Entries.single]
  cases v with
  | array members => rw [Value.holds, if_neg hand, if_neg hor]
  | null | boolean _ | integer _ | float _ | string _ | object _ | regex _ => rfl

theorem Query.holds_field {ρ : Value → Bool} {key : String} (hkey : '$' ∉ key.toList)
    (cond : Condition) :
    (Query.field key cond).toValue.holds ρ = (Query.field key cond).truth ρ := by
  have hne : ∀ op : String, '$' ∈ op.toList → key ≠ op := fun op hop he => hkey (he ▸ hop)
  rw [Query.truth, toValue_field,
    Value.holds_single (hne "$and" (by decide)) (hne "$or" (by decide))]

theorem Query.holds_expression (ρ : Value → Bool) (e : Expression) :
    (Query.expression e).toValue.holds ρ = (Query.expression e).truth ρ := by
  rw [Query.truth, toValue_expression, Value.holds_single (by decide) (by decide)]

theorem FieldAsks.holds_eq_truth [RegexEngine] {key : String} {op : Operator} {object : Constant}
    {q : Query} (h : FieldAsks key op object q) (hkey : '$' ∉ key.toList) (ρ : Value → Bool) :
    q.toValue.holds ρ = q.truth ρ := by
  cases h with
  | compare | like | unlike | within | without => exact Query.holds_field hkey _
  | between hl hu =>
      simp [Query.holds_all, Query.holds_field hkey, Query.truth, Query.allTrue]
  | outside hl hu =>
      simp [Query.holds_any, Query.holds_field hkey, Query.truth, Query.anyTrue]

/-- The fragment of an accepted clause is read as what the clause asks. -/
theorem Clause.Asks.holds_eq_truth [RegexEngine] {s : Strategy} {c : Clause}
    {q : Query} (h : c.Asks s q) (ρ : Value → Bool) : q.toValue.holds ρ = q.truth ρ := by
  cases h with
  | field hshape ht hq => exact hq.holds_eq_truth (Target.dollar_notMem_key ht.unreserved) ρ
  | fields hshape ht hu => exact Query.holds_expression ρ _
  | constants hshape hq =>
      obtain ⟨e, rfl, -⟩ := hq.arguments
      exact Query.holds_expression ρ e

/-! ## Groups and the reading aloud -/

theorem Query.holds_allOf (ρ : Value → Bool) (qs : List Query) :
    (Query.allOf qs).toValue.holds ρ = qs.all fun q => q.toValue.holds ρ := by
  unfold Query.allOf
  split
  · simp
  · exact Query.holds_all ρ qs

theorem Query.holds_anyOf (ρ : Value → Bool) (qs : List Query) :
    (Query.anyOf qs).toValue.holds ρ = qs.any fun q => q.toValue.holds ρ := by
  unfold Query.anyOf
  split
  · simp
  · exact Query.holds_any ρ qs

/-- Reading on from a truth value is reading the members that are joined to
it by `and`, and then the groups. -/
theorem readFrom_splitAtOr {α : Type} (p : α → Bool) :
    ∀ (rest : List (Conjunction × α)) (sofar : Bool),
      readFrom sofar (rest.map fun m => (m.1, p m.2))
        = ((sofar && (splitAtOr rest).1.all p) || (splitAtOr rest).2.any fun g => g.all p)
  | [], sofar => by simp [readFrom, splitAtOr]
  | (.and, a) :: rest, sofar => by
      have ih := readFrom_splitAtOr p rest (sofar && p a)
      simp only [List.map_cons, readFrom, splitAtOr, List.all_cons]
      rw [ih, Bool.and_assoc]
  | (.or, a) :: rest, sofar => by
      -- the part so far is closed, and reading starts over from this member
      have ih := readFrom_splitAtOr p rest (p a)
      simp only [List.map_cons, readFrom, splitAtOr, List.all_nil, Bool.and_true, List.any_cons,
        List.all_cons]
      rw [ih]

theorem readStatements_groups {α : Type} (p : α → Bool) (members : List (Conjunction × α)) :
    readStatements (mapMembers p members) = (groups members).any fun g => g.all p := by
  cases members with
  | nil => rfl
  | cons m rest =>
      obtain ⟨_, a⟩ := m
      have hrest := readFrom_splitAtOr p rest (p a)
      simpa [readStatements, groups, mapMembers] using hrest

theorem holds_joinStatements (ρ : Value → Bool) (members : List (Conjunction × Query)) :
    (joinStatements members).toValue.holds ρ
      = readStatements (mapMembers (fun q => q.toValue.holds ρ) members) := by
  rw [readStatements_groups, joinStatements, Query.holds_anyOf, List.any_map]
  congr 1
  exact funext fun g => Query.holds_allOf ρ g

/-- An assembled query is read as the filter, whatever its clauses ask. -/
theorem Filter.holds_assemble (ρ : Value → Bool) (ask : Clause → Query) (f : Filter) :
    (f.assemble ask).toValue.holds ρ = f.reading fun c => (ask c).toValue.holds ρ :=
  @Filter.fold_fusion _ _ ask _ _ (fun q => q.toValue.holds ρ) (holds_joinStatements ρ) f

/-! ## The main statement -/

/-- The truth of a clause: that of its fragment. -/
def Clause.truth [RegexEngine] (s : Strategy) (ρ : Value → Bool) (c : Clause) : Bool :=
  match c.fragment s with
  | .ok fragment => (Value.object fragment).holds ρ
  | .error _ => false

theorem Clause.Asks.truth_eq [RegexEngine] {s : Strategy} {c : Clause} {q : Query} (h : c.Asks s q)
    (ρ : Value → Bool) : c.truth s ρ = q.toValue.holds ρ := by
  have hfragment : c.fragment s = .ok q.toDocument := by
    rw [Clause.fragment, Resolver.translate_follows, h.toQuery_eq]
    rfl
  rw [Clause.truth, hfragment, Query.toValue]

/-- The document that is built for a filter holds exactly if the filter read
as a boolean expression does, each clause with the truth of its fragment; and
a fragment is read as what its clause asks, so that no field in it is taken
for a connective. -/
theorem holds_build [RegexEngine] {s : Strategy} {session : Session} {f : Filter}
    {document : Document} (h : (session.build s f).1 = .ok document) (ρ : Value → Bool) :
    (Value.object document).holds ρ = f.reading (Clause.truth s ρ) ∧
      ∀ c ∈ f.clauses, ∃ q, (c.toQuery s).outcome = .ok q ∧ c.truth s ρ = q.truth ρ := by
  rw [Session.build_eq_settle, settle_eq_ok] at h
  obtain ⟨hrefused, rfl⟩ := h
  have hasks : ∀ c ∈ f.clauses, c.Asks s (c.query s) := fun c hc =>
    Clause.refusal?_eq_none.mp (List.findSome?_eq_none_iff.mp hrefused c hc)
  constructor
  · rw [Filter.reading, Filter.fold_congr fun c hc => (hasks c hc).truth_eq ρ]
    exact Filter.holds_assemble ρ (Clause.query s) f
  · intro c hc
    refine ⟨c.query s, Clause.toQuery_outcome_eq_ok.mpr (hasks c hc), ?_⟩
    rw [(hasks c hc).truth_eq ρ, (hasks c hc).holds_eq_truth ρ]

/-- A filter whose first statement says `or`, with a clause that is itself
spelled as a connective and a group in its first piece. -/
def memberOrGuest : Filter :=
  (Filter.empty.or ⟨.target ⟨.field "age", []⟩, .between, .range ⟨.integer 18, .integer 65⟩⟩)
    |>.andGroup ((Filter.ofClause
        ⟨.target ⟨.field "tier", []⟩, .relation .eq, .literal (.string "gold")⟩).or
      ⟨.target ⟨.field "tier", []⟩, .relation .eq, .literal (.string "silver")⟩)
    |>.or ⟨.target ⟨.field "guest", []⟩, .relation .eq, .literal (.boolean true)⟩

def memberOrGuestDocument : Document :=
  [("$or", .array [
    .object [("$and", .array [
      .object [("$and", .array [
        .object [("age", .object [("$gte", .integer 18)])],
        .object [("age", .object [("$lte", .integer 65)])]])],
      .object [("$or", .array [
        .object [("tier", .string "gold")],
        .object [("tier", .string "silver")]])]])],
    .object [("guest", .boolean true)]])]

theorem holds_build_memberOrGuest :
    (Session.build .unrestricted ["/name"] memberOrGuest).1 = .ok memberOrGuestDocument ∧
      ∀ ρ, (Value.object memberOrGuestDocument).holds ρ
          = memberOrGuest.reading (Clause.truth .unrestricted ρ) ∧
        ∀ c ∈ memberOrGuest.clauses, ∃ q, (c.toQuery .unrestricted).outcome = .ok q ∧
          c.truth .unrestricted ρ = q.truth ρ := by
  have hbuild : (Session.build .unrestricted ["/name"] memberOrGuest).1
      = .ok memberOrGuestDocument := rfl
  exact ⟨hbuild, fun ρ => holds_build hbuild ρ⟩

end FilterQuery
