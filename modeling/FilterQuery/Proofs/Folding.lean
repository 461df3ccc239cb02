import FilterQuery.Filter

/-!
# Folds over filters

Assembling the query of a filter, reading a filter as a boolean expression
and outlining its document are one recursion: something for each clause, and
a way of joining what statements give, with how each joins the ones before
it. `Filter.fold` is that recursion, and the induction over filters is done
here: `fold_fusion` carries a function through a fold, `fold_congr` says that
only the clauses of a filter matter to it, `fold_invariant` that what joining
keeps holds of the whole, and `fold_flatMap` that collecting from the clauses
is a fold.

The types of filters, members and statements are mutual, so each statement
about filters comes with one about members and one about lists of statements.
-/

namespace FilterQuery

section Fold

variable {α β : Type}

mutual

def Member.fold (leaf : Clause → α) (join : List (Conjunction × α) → α) : Member → α
  | .clause clause => leaf clause
  | .group filter => filter.fold leaf join

/-- Fold a filter: `leaf` is for its clauses, and `join` for its statements
and those of its groups. -/
def Filter.fold (leaf : Clause → α) (join : List (Conjunction × α) → α) : Filter → α
  | ⟨statements⟩ => join (foldAll leaf join statements)

def foldAll (leaf : Clause → α) (join : List (Conjunction × α) → α) :
    List Statement → List (Conjunction × α)
  | [] => []
  | ⟨conjunction, member⟩ :: rest => (conjunction, member.fold leaf join) :: foldAll leaf join rest

end

/-- Change what statements give, but not how they join. -/
def mapMembers (g : α → β) (members : List (Conjunction × α)) : List (Conjunction × β) :=
  members.map fun m => (m.1, g m.2)

/-! ## Fusion -/

section Fusion

variable {leaf : Clause → α} {join : List (Conjunction × α) → α}
variable {join' : List (Conjunction × β) → β} {g : α → β}

mutual

theorem Member.fold_fusion (hjoin : ∀ members, g (join members) = join' (mapMembers g members)) :
    ∀ m : Member, g (m.fold leaf join) = m.fold (fun c => g (leaf c)) join'
  | .clause c => rfl
  | .group f => by
      rw [Member.fold, Member.fold]
      exact Filter.fold_fusion hjoin f

/-- A function that turns one way of joining into another turns one fold into
the other. -/
theorem Filter.fold_fusion (hjoin : ∀ members, g (join members) = join' (mapMembers g members)) :
    ∀ f : Filter, g (f.fold leaf join) = f.fold (fun c => g (leaf c)) join'
  | ⟨statements⟩ => by
      rw [Filter.fold, Filter.fold, hjoin, foldAll_fusion hjoin statements]

theorem foldAll_fusion (hjoin : ∀ members, g (join members) = join' (mapMembers g members)) :
    ∀ ss : List Statement,
      mapMembers g (foldAll leaf join ss) = foldAll (fun c => g (leaf c)) join' ss
  | [] => rfl
  | ⟨_, m⟩ :: rest => by
      have hm := Member.fold_fusion hjoin m
      have hrest := foldAll_fusion hjoin rest
      rw [foldAll, foldAll, ← hm, ← hrest]
      rfl

end

end Fusion

/-! ## Congruence -/

section Congruence

variable {leaf leaf' : Clause → α} {join : List (Conjunction × α) → α}

mutual

theorem Member.fold_congr : ∀ {m : Member}, (∀ c ∈ m.clauses, leaf c = leaf' c) →
    m.fold leaf join = m.fold leaf' join
  | .clause c, h => by
      rw [Member.clauses] at h
      exact h c (List.mem_singleton.mpr rfl)
  | .group f, h => by
      rw [Member.clauses] at h
      rw [Member.fold, Member.fold]
      exact Filter.fold_congr h

/-- Folds that agree on the clauses of a filter agree on the filter. -/
theorem Filter.fold_congr : ∀ {f : Filter}, (∀ c ∈ f.clauses, leaf c = leaf' c) →
    f.fold leaf join = f.fold leaf' join
  | ⟨statements⟩, h => by
      rw [Filter.clauses] at h
      rw [Filter.fold, Filter.fold, foldAll_congr h]

theorem foldAll_congr : ∀ {ss : List Statement}, (∀ c ∈ clausesOf ss, leaf c = leaf' c) →
    foldAll leaf join ss = foldAll leaf' join ss
  | [], _ => rfl
  | ⟨_, m⟩ :: rest, h => by
      rw [clausesOf, Statement.clauses] at h
      obtain ⟨hm, hrest⟩ := List.forall_mem_append.mp h
      rw [foldAll, foldAll, Member.fold_congr hm, foldAll_congr hrest]

end

end Congruence

/-! ## Invariants -/

section Invariant

variable {leaf : Clause → α} {join : List (Conjunction × α) → α} {P : α → Prop}

mutual

theorem Member.fold_invariant
    (hjoin : ∀ members : List (Conjunction × α), (∀ m ∈ members, P m.2) → P (join members)) :
    ∀ {m : Member}, (∀ c ∈ m.clauses, P (leaf c)) → P (m.fold leaf join)
  | .clause c, h => by
      rw [Member.clauses] at h
      exact h c (List.mem_singleton.mpr rfl)
  | .group f, h => by
      rw [Member.clauses] at h
      rw [Member.fold]
      exact Filter.fold_invariant hjoin h

/-- What holds for clauses and is kept by joining holds for a filter. -/
theorem Filter.fold_invariant
    (hjoin : ∀ members : List (Conjunction × α), (∀ m ∈ members, P m.2) → P (join members)) :
    ∀ {f : Filter}, (∀ c ∈ f.clauses, P (leaf c)) → P (f.fold leaf join)
  | ⟨statements⟩, h => by
      rw [Filter.clauses] at h
      rw [Filter.fold]
      exact hjoin _ (foldAll_invariant hjoin h)

theorem foldAll_invariant
    (hjoin : ∀ members : List (Conjunction × α), (∀ m ∈ members, P m.2) → P (join members)) :
    ∀ {ss : List Statement}, (∀ c ∈ clausesOf ss, P (leaf c)) →
      ∀ m ∈ foldAll leaf join ss, P m.2
  | [], _, m, hm => by
      rw [foldAll] at hm
      cases hm
  | ⟨_, member⟩ :: rest, h, m, hm => by
      rw [clausesOf, Statement.clauses] at h
      obtain ⟨hmember, hrest⟩ := List.forall_mem_append.mp h
      rw [foldAll] at hm
      rcases List.mem_cons.mp hm with rfl | hm
      · exact Member.fold_invariant hjoin hmember
      · exact foldAll_invariant hjoin hrest m hm

end

end Invariant

/-! ## Collecting from clauses -/

mutual

theorem Member.fold_flatMap (g : Clause → List β) : ∀ m : Member,
    m.fold g (fun members => members.flatMap Prod.snd) = m.clauses.flatMap g
  | .clause c => by rw [Member.fold, Member.clauses, List.flatMap_singleton]
  | .group f => by
      rw [Member.fold, Member.clauses]
      exact Filter.fold_flatMap g f

theorem Filter.fold_flatMap (g : Clause → List β) : ∀ f : Filter,
    f.fold g (fun members => members.flatMap Prod.snd) = f.clauses.flatMap g
  | ⟨statements⟩ => by
      rw [Filter.fold, Filter.clauses]
      exact foldAll_flatMap g statements

theorem foldAll_flatMap (g : Clause → List β) : ∀ ss : List Statement,
    (foldAll g (fun members => members.flatMap Prod.snd) ss).flatMap Prod.snd
      = (clausesOf ss).flatMap g
  | [] => rfl
  | ⟨_, m⟩ :: rest => by
      rw [foldAll, clausesOf, Statement.clauses, List.flatMap_cons, List.flatMap_append,
        Member.fold_flatMap g m, foldAll_flatMap g rest]

end

end Fold

end FilterQuery
