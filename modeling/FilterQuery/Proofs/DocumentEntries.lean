import FilterQuery.Proofs.Outline

/-!
# What holds of every entry of a document

Many conditions on a document look at one entry at a time, at whatever depth
it stands: the members of a connective, the operand of an operator. Of the
entries of a filter's document some are spelled for a clause; the others are
the connectives that join the statements of the filter or of a filter nested
in it (`Filter.subfilters`).

`Filter.eachEntry_document` takes a condition that connectives of two or more
members meet, and leaves two things to show of it: that the fragments of the
clauses meet it, and that the `$and` of no members does, in case there is a
filter without statements. The outline of a document has the connectives in
plain sight, and the induction is once more that of `Filter.fold`, with a way
of joining that only asks (`joinAsking`).
-/

namespace FilterQuery

/-! ## Nested filters -/

mutual

def Member.subfilters : Member → List Filter
  | .clause _ => []
  | .group f => f.subfilters

/-- A filter and the filters nested in it at any depth, in reading order. -/
def Filter.subfilters : Filter → List Filter
  | ⟨statements⟩ => ⟨statements⟩ :: subfiltersOf statements

def subfiltersOf : List Statement → List Filter
  | [] => []
  | ⟨_, member⟩ :: rest => member.subfilters ++ subfiltersOf rest

end

section Asking

variable {leaf : Clause → Prop} {ifEmpty : Prop}

/-- Ask the same of each member, and something else if there is none. -/
def joinAsking (ifEmpty : Prop) (members : List (Conjunction × Prop)) : Prop :=
  (members = [] → ifEmpty) ∧ ∀ m ∈ members, m.2

theorem foldAll_eq_nil {α : Type} {leaf : Clause → α} {join : List (Conjunction × α) → α}
    {ss : List Statement} : foldAll leaf join ss = [] ↔ ss = [] := by
  cases ss with
  | nil => simp [foldAll]
  | cons statement rest =>
      cases statement
      simp [foldAll]

mutual

theorem Member.fold_joinAsking : ∀ m : Member, m.fold leaf (joinAsking ifEmpty) ↔
    (∀ g ∈ m.subfilters, g.statements = [] → ifEmpty) ∧ ∀ c ∈ m.clauses, leaf c
  | .clause c => by simp [Member.fold, Member.subfilters, Member.clauses]
  | .group f => by
      rw [Member.fold, Member.subfilters, Member.clauses]
      exact Filter.fold_joinAsking f

/-- What is asked at every depth is asked of the clauses, and of the filters
without statements. -/
theorem Filter.fold_joinAsking : ∀ f : Filter, f.fold leaf (joinAsking ifEmpty) ↔
    (∀ g ∈ f.subfilters, g.statements = [] → ifEmpty) ∧ ∀ c ∈ f.clauses, leaf c
  | ⟨statements⟩ => by
      rw [Filter.fold, joinAsking, foldAll_eq_nil, foldAll_joinAsking statements,
        Filter.subfilters, Filter.clauses, List.forall_mem_cons, and_assoc]

theorem foldAll_joinAsking : ∀ ss : List Statement,
    (∀ m ∈ foldAll leaf (joinAsking ifEmpty) ss, m.2) ↔
      (∀ g ∈ subfiltersOf ss, g.statements = [] → ifEmpty) ∧ ∀ c ∈ clausesOf ss, leaf c
  | [] => by simp [foldAll, subfiltersOf, clausesOf]
  | ⟨_, m⟩ :: rest => by
      rw [foldAll, subfiltersOf, clausesOf, Statement.clauses, List.forall_mem_cons,
        List.forall_mem_append, List.forall_mem_append, Member.fold_joinAsking m,
        foldAll_joinAsking rest]
      exact and_and_and_comm

end

end Asking

/-! ## Pieces -/

section Pieces

variable {α : Type} {members : List (Conjunction × α)}

theorem cutAtOr_ne_nil : cutAtOr members ≠ [] := by
  cases members <;> simp [cutAtOr]

/-- Only where there are no members is a piece empty. -/
theorem ne_nil_of_mem_cutAtOr (hmembers : members ≠ []) {piece : List α}
    (hpiece : piece ∈ cutAtOr members) : piece ≠ [] := by
  cases members with
  | nil => contradiction
  | cons m rest =>
      obtain ⟨tagged, htagged, rfl⟩ := List.mem_map.mp hpiece
      rw [Ne, List.map_eq_nil_iff]
      exact List.ne_nil_of_mem_splitBy htagged

theorem forall_mem_cutAtOr {p : α → Prop} :
    (∀ piece ∈ cutAtOr members, ∀ a ∈ piece, p a) ↔ ∀ m ∈ members, p m.2 := by
  rw [cutAtOr_eq_groups, ← List.forall_mem_flatten, groups_flatten, List.forall_mem_map]

end Pieces

/-! ## Entries of outlines -/

/-- A condition on entries that connectives of two or more members meet. -/
def MetByMany (P : String × Value → Prop) : Prop :=
  ∀ op ∈ Value.connectiveKeys, ∀ members : List Value, 2 ≤ members.length →
    P (op, .array members)

section EachEntry

variable {P : String × Value → Prop}

/-- One document alone gets no connective, so of the connectives with few
members only those with none are left. -/
theorem eachEntry_connect (hmany : MetByMany P) {op : String} (hop : op ∈ Value.connectiveKeys)
    {docs : List Document} :
    (Value.object (connect op docs)).EachEntry P ↔
      (docs = [] → P (op, .array [])) ∧ ∀ d ∈ docs, (Value.object d).EachEntry P := by
  rcases docs with _ | ⟨first, _ | ⟨second, rest⟩⟩
  · have hnone : Value.object (connect op []) = .single op (.array []) := rfl
    rw [hnone, Value.eachEntry_single, Value.eachEntry_array]
    simp
  · simp [connect]
  · have hconnect : Value.object (connect op (first :: second :: rest))
        = .single op (.array ((first :: second :: rest).map .object)) := rfl
    rw [hconnect, Value.eachEntry_single, Value.eachEntry_array, List.forall_mem_map]
    exact and_congr_left fun _ =>
      iff_of_true (hmany op hop _ (by simp)) fun h => absurd h (List.cons_ne_nil _ _)

/-- There are no pieces but those of the statements, so an `$or` without
members does not come up. -/
theorem eachEntry_outlineStatements (hmany : MetByMany P)
    {members : List (Conjunction × Document)} :
    (Value.object (outlineStatements members)).EachEntry P ↔
      (members = [] → P ("$and", .array [])) ∧
        ∀ m ∈ members, (Value.object m.2).EachEntry P := by
  have hand : "$and" ∈ Value.connectiveKeys := by decide
  have hor : "$or" ∈ Value.connectiveKeys := by decide
  by_cases hmembers : members = []
  · have hnone : outlineStatements [] = connect "$and" [] := rfl
    rw [hmembers, hnone, eachEntry_connect hmany hand]
    simp
  · have hpiece : ∀ piece ∈ cutAtOr members,
        (Value.object (connect "$and" piece)).EachEntry P ↔
          ∀ d ∈ piece, (Value.object d).EachEntry P := by
      intro piece hpiece
      rw [eachEntry_connect hmany hand]
      exact and_iff_right fun h => absurd h (ne_nil_of_mem_cutAtOr hmembers hpiece)
    rw [outlineStatements, eachEntry_connect hmany hor, List.map_eq_nil_iff, List.forall_mem_map,
      forall₂_congr hpiece, forall_mem_cutAtOr]
    exact and_congr_left fun _ =>
      iff_of_true (fun h => absurd h cutAtOr_ne_nil) fun h => absurd h hmembers

namespace Filter

theorem eachEntry_outline (hmany : MetByMany P) (fragment : Clause → Document) (f : Filter) :
    (Value.object (f.outline fragment)).EachEntry P ↔
      (∀ g ∈ f.subfilters, g.statements = [] → P ("$and", .array [])) ∧
        ∀ c ∈ f.clauses, (Value.object (fragment c)).EachEntry P := by
  have hjoin : ∀ members, (Value.object (outlineStatements members)).EachEntry P
      = joinAsking (P ("$and", .array []))
          (mapMembers (fun d => (Value.object d).EachEntry P) members) := by
    intro members
    rw [eachEntry_outlineStatements hmany, joinAsking, mapMembers, List.map_eq_nil_iff,
      List.forall_mem_map]
  have hfused : (Value.object (f.fold fragment outlineStatements)).EachEntry P
      = f.fold (fun c => (Value.object (fragment c)).EachEntry P)
          (joinAsking (P ("$and", .array []))) :=
    fold_fusion (g := fun d : Document => (Value.object d).EachEntry P) hjoin f
  rw [outline, hfused, fold_joinAsking]

/-- Of the connectives that join statements only those without members are in
question, and these stand for filters without statements. -/
theorem eachEntry_document [RegexEngine] (hmany : MetByMany P) {f : Filter} {s : Strategy}
    {r : ConversionResult} (h : f.convertWith s = .ok r) :
    (Value.object r.document).EachEntry P ↔
      (∀ g ∈ f.subfilters, g.statements = [] → P ("$and", .array [])) ∧
        ∀ c ∈ f.clauses, (c.query s).toValue.EachEntry P := by
  obtain ⟨-, -, rfl⟩ := convertWith_eq_ok.mp h
  rw [toDocument_assemble]
  exact eachEntry_outline hmany (fun c => (c.query s).toDocument) f

end Filter

end EachEntry

end FilterQuery
