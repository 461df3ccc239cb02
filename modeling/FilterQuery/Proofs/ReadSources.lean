import FilterQuery.Json.Reader
import FilterQuery.Proofs.Translation
import FilterQuery.Proofs.ValueText
import Mathlib

/-!
# What reading can give

A text can be anything, yet what is read of it is tame. Its numbers are
integers of 64 bits or finite floats: a literal beyond the largest double
stands for nothing (`Literal.isFinite_of_value?`), and what holds of all numbers
that literals stand for holds of those in a source
(`Source.allNumbers_ofText`). The value of a source has the
entries of its objects in the order of keys, whatever their order in the text,
and stands no deeper than the reader was allowed to go (`Json.Tame`).

A value of a filter that is made of such a JSON value is canonical, and is
written as deep as it was read (`Value.canonical_of_ofJson`).
-/

namespace FilterQuery

namespace Json

/-- A literal stands for no infinite or undefined number. -/
theorem Literal.isFinite_of_value? [FloatReader] {l : Literal} {n : Number}
    (h : l.value? = some n) : n.isFinite = true := by
  rw [value?] at h
  split at h
  · cases h
    rfl
  · obtain ⟨hfinite, hn⟩ := Option.ite_none_right_eq_some.mp h
    cases hn
    exact hfinite

/-! ## Numbers of sources -/

mutual

/-- The numbers in a source are good ones. -/
def Source.AllNumbers (good : Number → Prop) : Source → Prop
  | .number n => ∀ m ∈ n, good m
  | .array items => items.AllNumbers good
  | .object members => members.AllNumbers good
  | .null | .boolean _ | .string _ | .fault => True

def Source.Items.AllNumbers (good : Number → Prop) : Source.Items → Prop
  | .closed | .broken => True
  | .cons item rest => item.AllNumbers good ∧ rest.AllNumbers good

def Source.Members.AllNumbers (good : Number → Prop) : Source.Members → Prop
  | .closed | .broken => True
  | .cons _ value rest => value.AllNumbers good ∧ rest.AllNumbers good

end

section Reading

variable [FloatReader] {good : Number → Prop}

theorem allNumbers_readWord (hgood : ∀ l n, Literal.value? l = some n → good n)
    (cs : List Char) : (readWord cs).1.AllNumbers good := by
  unfold readWord
  split
  · trivial
  · trivial
  · trivial
  · split
    next l rest _ => exact fun n hn => hgood l n hn
    next => trivial

mutual

theorem allNumbers_readValue (hgood : ∀ l n, Literal.value? l = some n → good n) :
    ∀ (fuel : Nat) (cs : List Char), (readValue fuel cs).1.AllNumbers good
  | 0, _ => trivial
  | fuel + 1, cs => by
      rw [readValue]
      split
      · split <;> trivial
      · split
        · trivial
        · exact allNumbers_readItems hgood fuel _
      · split
        · trivial
        · exact allNumbers_readMembers hgood fuel _
        · trivial
      · exact allNumbers_readWord hgood _

theorem allNumbers_readItems (hgood : ∀ l n, Literal.value? l = some n → good n) :
    ∀ (fuel : Nat) (cs : List Char), (readItems fuel cs).1.AllNumbers good
  | 0, _ => trivial
  | fuel + 1, cs => by
      have hitem := allNumbers_readValue hgood fuel cs
      cases hread : readValue fuel cs with
      | mk item rest =>
        rw [hread] at hitem
        simp only [readItems, hread]
        split
        · exact ⟨hitem, allNumbers_readItems hgood fuel _⟩
        · exact ⟨hitem, trivial⟩
        · exact ⟨hitem, trivial⟩

theorem allNumbers_readMembers (hgood : ∀ l n, Literal.value? l = some n → good n) :
    ∀ (fuel : Nat) (cs : List Char), (readMembers fuel cs).1.AllNumbers good
  | 0, _ => trivial
  | fuel + 1, cs => by
      rw [readMembers]
      split
      · trivial
      · simp only
        split
        next rest _ =>
          have hvalue := allNumbers_readValue hgood fuel rest
          cases hread : readValue fuel rest with
          | mk value rest =>
            rw [hread] at hvalue
            simp only
            split
            · split
              · exact ⟨hvalue, allNumbers_readMembers hgood fuel _⟩
              · exact ⟨hvalue, trivial⟩
            · exact ⟨hvalue, trivial⟩
            · exact ⟨hvalue, trivial⟩
        next => exact ⟨trivial, trivial⟩

end

/-- What holds of all numbers that a literal can stand for holds of the
numbers in the source of a text. -/
theorem Source.allNumbers_ofText (hgood : ∀ l n, Literal.value? l = some n → good n)
    (text : String) : (Source.ofText text).1.AllNumbers good :=
  allNumbers_readValue hgood (2 * text.toList.length + 1) text.toList

end Reading

/-! ## Finite sources -/

/-- The numbers in a source are finite. -/
def Source.Finite (source : Source) : Prop := source.AllNumbers fun n => n.isFinite = true

def Source.Items.Finite (items : Source.Items) : Prop :=
  items.AllNumbers fun n => n.isFinite = true

def Source.Members.Finite (members : Source.Members) : Prop :=
  members.AllNumbers fun n => n.isFinite = true

theorem Source.finite_ofText [FloatReader] (text : String) : (Source.ofText text).1.Finite :=
  Source.allNumbers_ofText (fun _ _ => Literal.isFinite_of_value?) text

end Json

/-! ## Values of sources -/

namespace Entries

variable {α : Type}

theorem mem_insert {key : String} {value : α} {e : String × α} {es : Entries α}
    (h : e ∈ insert key value es) : e = (key, value) ∨ e ∈ es := by
  induction es with
  | nil => exact Or.inl (List.mem_singleton.mp h)
  | cons d rest ih =>
    rw [insert] at h
    split at h
    · exact List.mem_cons.mp h
    · split at h
      · exact (List.mem_cons.mp h).imp_right (List.mem_cons_of_mem _)
      · rcases List.mem_cons.mp h with rfl | h
        · exact Or.inr List.mem_cons_self
        · exact (ih h).imp_right (List.mem_cons_of_mem _)

/-- Putting entries in order makes up no entry. -/
theorem mem_of_mem_ofList {e : String × α} {es : List (String × α)} (h : e ∈ ofList es) :
    e ∈ es := by
  suffices hfold : ∀ front : Entries α,
      e ∈ es.foldl (fun acc d => insert d.1 d.2 acc) front → e ∈ front ∨ e ∈ es from
    (hfold [] h).resolve_left List.not_mem_nil
  clear h
  induction es with
  | nil => exact fun front h => Or.inl h
  | cons d rest ih =>
    intro front h
    rcases ih _ h with h | h
    · exact (mem_insert h).symm.imp_right fun he => List.mem_cons.mpr (Or.inl he)
    · exact Or.inr (List.mem_cons_of_mem _ h)

end Entries

namespace Json

/-- A property of trees with room for so many containers that holds of leaves
with good numbers and goes over from parts to arrays and to objects in order. -/
structure Hereditary (good : Number → Prop) (P : Nat → Json → Prop) : Prop where
  null : ∀ depth, P depth .null
  boolean : ∀ depth b, P depth (.boolean b)
  number : ∀ depth n, good n → P depth (.number n)
  string : ∀ depth s, P depth (.string s)
  array : ∀ depth items, (∀ item ∈ items, P depth item) → P (depth + 1) (.array items)
  object : ∀ depth members, Entries.Ordered members → (∀ e ∈ members, P depth e.2) →
    P (depth + 1) (.object members)

section Trees

variable {good : Number → Prop} {P : Nat → Json → Prop}

mutual

/-- The tree of a source with good numbers has all properties of such trees. -/
theorem Hereditary.of_toJson? (hP : Hereditary good P) : ∀ {source : Source} {depth : Nat}
    {j : Json}, source.AllNumbers good → source.toJson? depth = some j → P depth j
  | .null, depth, _, _, h => by
      cases h
      exact hP.null depth
  | .boolean b, depth, _, _, h => by
      cases h
      exact hP.boolean depth b
  | .number n, depth, _, hgood, h => by
      obtain ⟨m, rfl, rfl⟩ := Option.map_eq_some_iff.mp h
      exact hP.number depth m (hgood m rfl)
  | .string s, depth, _, _, h => by
      obtain ⟨t, rfl, rfl⟩ := Option.map_eq_some_iff.mp h
      exact hP.string depth t
  | .array items, 0, _, _, h => by cases h
  | .array items, depth + 1, _, hgood, h => by
      obtain ⟨js, hjs, rfl⟩ := Option.map_eq_some_iff.mp h
      exact hP.array depth js (hP.forall_of_toJsons? hgood hjs)
  | .object members, 0, _, _, h => by cases h
  | .object members, depth + 1, _, hgood, h => by
      obtain ⟨es, hes, rfl⟩ := Option.map_eq_some_iff.mp h
      exact hP.object depth _ (Entries.ordered_ofList es) fun e he =>
        hP.forall_of_toEntries? hgood hes e (Entries.mem_of_mem_ofList he)
  | .fault, _, _, _, h => by cases h

theorem Hereditary.forall_of_toJsons? (hP : Hereditary good P) : ∀ {items : Source.Items}
    {depth : Nat} {js : List Json}, items.AllNumbers good → items.toJsons? depth = some js →
      ∀ j ∈ js, P depth j
  | .closed, _, _, _, h => by
      cases h
      exact fun j hj => (List.not_mem_nil hj).elim
  | .broken, _, _, _, h => by cases h
  | .cons item rest, _, _, hgood, h => by
      obtain ⟨j, hj, h⟩ := Option.bind_eq_some_iff.mp h
      obtain ⟨js, hjs, h⟩ := Option.bind_eq_some_iff.mp h
      cases h
      exact List.forall_mem_cons.mpr
        ⟨hP.of_toJson? hgood.1 hj, hP.forall_of_toJsons? hgood.2 hjs⟩

theorem Hereditary.forall_of_toEntries? (hP : Hereditary good P) : ∀ {members : Source.Members}
    {depth : Nat} {es : List (String × Json)}, members.AllNumbers good →
      members.toEntries? depth = some es → ∀ e ∈ es, P depth e.2
  | .closed, _, _, _, h => by
      cases h
      exact fun e he => (List.not_mem_nil he).elim
  | .broken, _, _, _, h => by cases h
  | .cons key value rest, _, _, hgood, h => by
      obtain ⟨key, -, h⟩ := Option.bind_eq_some_iff.mp h
      obtain ⟨j, hj, h⟩ := Option.bind_eq_some_iff.mp h
      obtain ⟨es, hes, h⟩ := Option.bind_eq_some_iff.mp h
      cases h
      exact List.forall_mem_cons.mpr
        ⟨hP.of_toJson? hgood.1 hj, hP.forall_of_toEntries? hgood.2 hes⟩

end

end Trees

/-- A JSON value as it is read of a text: its numbers are finite, its objects
have their entries in order, and at no place are more than `depth` containers
open. -/
inductive Tame : Nat → Json → Prop
  | null {depth : Nat} : Tame depth .null
  | boolean {depth : Nat} (b : Bool) : Tame depth (.boolean b)
  | number {depth : Nat} {n : Number} (hn : n.isFinite = true) : Tame depth (.number n)
  | string {depth : Nat} (s : String) : Tame depth (.string s)
  | array {depth : Nat} {items : List Json} (h : ∀ item ∈ items, Tame depth item) :
      Tame (depth + 1) (.array items)
  | object {depth : Nat} {members : List (String × Json)} (hordered : Entries.Ordered members)
      (h : ∀ e ∈ members, Tame depth e.2) : Tame (depth + 1) (.object members)

theorem hereditary_tame : Hereditary (fun n => n.isFinite = true) Tame where
  null _ := .null
  boolean _ := .boolean
  number _ _ := .number
  string _ := .string
  array _ _ := .array
  object _ _ := .object

theorem tame_of_toJson? {source : Source} {depth : Nat} {j : Json} (hfinite : source.Finite)
    (h : source.toJson? depth = some j) : Tame depth j :=
  hereditary_tame.of_toJson? hfinite h

end Json

/-! ## Values of filters -/

namespace Value

open Json (Tame)

mutual

/-- A value that is made of what was read is canonical, and is written no
deeper than that was. -/
theorem canonical_of_ofJson : ∀ {j : Json} {depth : Nat} {v : Value}, Tame depth j →
    ofJson j = .ok v → v.Canonical ∧ v.toJson.depth ≤ depth
  | .null, _, _, _, h => by
      cases h
      exact ⟨.null, Nat.zero_le _⟩
  | .boolean b, _, _, _, h => by
      cases h
      exact ⟨.boolean b, Nat.zero_le _⟩
  | .number (.integer n), _, _, _, h => by
      rw [ofJson, ofInt] at h
      split at h <;> cases h
      exact ⟨.integer _, Nat.zero_le _⟩
  | .number (.float x), _, _, htame, h => by
      cases htame with
      | number hx =>
        cases h
        exact ⟨.float hx, Nat.zero_le _⟩
  | .string s, _, _, _, h => by
      cases h
      exact ⟨.string s, Nat.zero_le _⟩
  | .array items, _, _, htame, h => by
      cases htame with
      | array hitems =>
        obtain ⟨vs, hvs, rfl⟩ := Except.map_eq_ok_iff.mp h
        obtain ⟨hcanonical, hdepth⟩ := canonical_of_ofItems hitems hvs
        exact ⟨.array hcanonical, Nat.succ_le_succ hdepth⟩
  | .object members, _, _, htame, h => by
      cases htame with
      | object hordered hmembers =>
        obtain ⟨es, hes, rfl⟩ := Except.map_eq_ok_iff.mp h
        obtain ⟨hkeys, hcanonical, hdepth⟩ := canonical_of_ofMembers hmembers hes
        have hsorted : Entries.Ordered es := by
          rw [Entries.Ordered, hkeys]
          exact hordered
        exact ⟨.object hsorted hcanonical, Nat.succ_le_succ hdepth⟩

theorem canonical_of_ofItems : ∀ {items : List Json} {depth : Nat} {vs : List Value},
    (∀ item ∈ items, Tame depth item) → ofItems items = .ok vs →
      (∀ v ∈ vs, v.Canonical) ∧ Json.depthOfItems (jsonItems vs) ≤ depth
  | [], _, _, _, h => by
      cases h
      exact ⟨fun v hv => (List.not_mem_nil hv).elim, Nat.zero_le _⟩
  | item :: rest, _, _, htame, h => by
      obtain ⟨hitem, hrest⟩ := List.forall_mem_cons.mp htame
      obtain ⟨v, hv, h⟩ := Except.bind_eq_ok_iff.mp h
      obtain ⟨vs, hvs, h⟩ := Except.bind_eq_ok_iff.mp h
      cases h
      obtain ⟨hcanonical, hdepth⟩ := canonical_of_ofJson hitem hv
      obtain ⟨hcanonicals, hdepths⟩ := canonical_of_ofItems hrest hvs
      exact ⟨List.forall_mem_cons.mpr ⟨hcanonical, hcanonicals⟩, Nat.max_le.mpr ⟨hdepth, hdepths⟩⟩

theorem canonical_of_ofMembers : ∀ {members : List (String × Json)} {depth : Nat}
    {es : List (String × Value)}, (∀ e ∈ members, Tame depth e.2) → ofMembers members = .ok es →
      es.map Prod.fst = members.map Prod.fst ∧
        (∀ e ∈ es, e.2.Canonical) ∧ Json.depthOfMembers (jsonMembers es) ≤ depth
  | [], _, _, _, h => by
      cases h
      exact ⟨rfl, fun e he => (List.not_mem_nil he).elim, Nat.zero_le _⟩
  | (key, member) :: rest, _, _, htame, h => by
      obtain ⟨hmember, hrest⟩ := List.forall_mem_cons.mp htame
      obtain ⟨v, hv, h⟩ := Except.bind_eq_ok_iff.mp h
      obtain ⟨es, hes, h⟩ := Except.bind_eq_ok_iff.mp h
      cases h
      obtain ⟨hcanonical, hdepth⟩ := canonical_of_ofJson hmember hv
      obtain ⟨hkeys, hcanonicals, hdepths⟩ := canonical_of_ofMembers hrest hes
      refine ⟨?_, List.forall_mem_cons.mpr ⟨hcanonical, hcanonicals⟩,
        Nat.max_le.mpr ⟨hdepth, hdepths⟩⟩
      rw [List.map_cons, List.map_cons, hkeys]

end

/-- What the decoder of values gives is canonical. -/
theorem canonical_of_decode {depth : Nat} {source : Json.Source} {v : Value}
    (hfinite : source.Finite) (h : decode depth source = .ok v) :
    v.Canonical ∧ v.toJson.depth ≤ depth := by
  obtain ⟨j, hj, h⟩ := Except.bind_eq_ok_iff.mp h
  rw [Decoder.value] at hj
  split at hj <;> cases hj
  next hj =>
    split at h <;> cases h
    next hv => exact canonical_of_ofJson (Json.tame_of_toJson? hfinite hj) hv

end Value

end FilterQuery
