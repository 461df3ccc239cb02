import FilterQuery.Filter.Json
import FilterQuery.Proofs.Translation
import FilterQuery.Proofs.ValueText
import FilterQuery.Proofs.WrittenText

/-!
# Filters in JSON texts

A filter that is written and read back is the same filter, under conditions
that say what JSON cannot carry: a regular expression among the constants, an
infinite or undefined float, entries out of order (which no map has), and an
operator without a meaning that goes by the token of one with.
`Filter.Canonical` excludes these. What is left to ask is that the text nests
no deeper than the decoder goes and that the floats in it are read back.

The proof goes up the syntax, one lemma a decoder: segments, targets and
operators, then ranges, operands and clauses, then members, statements and
filters, where the recursion is that of the decoder.
-/

namespace FilterQuery

open Json (FloatReader Source)

/-! ## What is read back as it was -/

/-- An operator that is told from the others by its token: one without a
meaning does not go by the token of one with. -/
def Operator.Canonical (op : Operator) : Prop :=
  ∀ token, op = .other token → token ∉ known.map Operator.token

instance (op : Operator) : Decidable op.Canonical :=
  decidable_of_iff (op.isOther = true → op.token ∉ Operator.known.map Operator.token) (by
    cases op <;> simp [Operator.Canonical, Operator.isOther, Operator.token])

def Operand.values : Operand → List Value
  | .target _ => []
  | .constant c => c.values

namespace Clause

/-- The constants of a clause, each bound of a range apart. -/
def values (c : Clause) : List Value := c.subject.values ++ c.object.values

structure Canonical (c : Clause) : Prop where
  operator : c.operator.Canonical
  values : ∀ v ∈ c.values, v.Canonical

end Clause

namespace Filter

def Canonical (f : Filter) : Prop := ∀ c ∈ f.clauses, c.Canonical

/-- The floats in the constants of a filter, at any depth. -/
def floats (f : Filter) : List Float := (f.clauses.flatMap Clause.values).flatMap Value.floats

end Filter

/-! ## Targets and operators -/

namespace Segment

theorem decode_toSource (s : Segment) (depth : Nat) : decode depth s.toJson.toSource = .ok s := by
  cases s with
  | field name => rfl
  | index position =>
    have hlow : Int64.minValue.toInt ≤ position.toInt := position.minValue_le_toInt
    have hhigh : position.toInt ≤ Int64.maxValue.toInt := position.toInt_le
    have hsegment : ofJson? (.integer position.toInt) = some (.index position) := by
      rw [Json.integer, ofJson?, if_pos ⟨hlow, hhigh⟩, Int64.ofInt_toInt]
    have hvalue : Decoder.value depth (toJson (.index position)).toSource
        = .ok (.integer position.toInt) := rfl
    simp only [decode, hvalue, bind, Except.bind, hsegment]
    rfl

theorem depth_toJson (s : Segment) : s.toJson.depth = 0 := by
  cases s <;> rfl

end Segment

namespace Target

theorem decode_toSource (t : Target) (depth : Nat) :
    decode (depth + 1) t.toJson.toSource = .ok t := by
  have hsegments : Decoder.list Segment.decode (depth + 1) t.toJson.toSource = .ok t.segments :=
    Decoder.list_toSource fun s _ => s.decode_toSource depth
  simp only [decode, hsegments, bind, Except.bind, segments, ofSegments?]
  rfl

end Target

namespace Operator

/-- Each token belongs to one operator that has a meaning. -/
theorem ofToken_token {op : Operator} (h : op.Canonical) : ofToken op.token = op := by
  have hknown : ∀ op ∈ known, ofToken op.token = op := by decide
  cases op with
  | relation r => cases r <;> exact hknown _ (by decide)
  | like | unlike | between | outside | within | without => exact hknown _ (by decide)
  | other t =>
    have hnone : known.find? (·.token = t) = none := by
      rw [List.find?_eq_none]
      intro op hop htoken
      exact h t rfl (List.mem_map.mpr ⟨op, hop, by simpa using htoken⟩)
    rw [ofToken, token, hnone, Option.getD_none]

theorem decode_toSource {op : Operator} (h : op.Canonical) (depth : Nat) :
    decode depth op.toJson.toSource = .ok op := by
  have htoken := ofToken_token h
  simp only [decode, toJson, Json.toSource, Decoder.text, Except.map, htoken]

end Operator

/-! ## Clauses -/

namespace Value.Canonical

theorem decode_toSource {v : Value} (h : v.Canonical) {depth : Nat}
    (hdepth : v.toJson.depth ≤ depth) : decode depth v.toJson.toSource = .ok v := by
  rw [Value.decode_toSource h.ordered hdepth, withoutRegexes_of_noRegex h.noRegex]

end Value.Canonical

namespace Range

theorem depth_toJson (r : Range) :
    r.toJson.depth = max r.lower.toJson.depth r.upper.toJson.depth + 1 := by
  simp [toJson, Json.depth, Json.depthOfMembers]

theorem decode_toSource {r : Range} (hlower : r.lower.Canonical) (hupper : r.upper.Canonical)
    {depth : Nat} (hdepth : r.toJson.depth ≤ depth) : decode depth r.toJson.toSource = .ok r := by
  rw [depth_toJson] at hdepth
  obtain ⟨depth, rfl⟩ : ∃ n, depth = n + 1 := ⟨depth - 1, by omega⟩
  have hl := hlower.decode_toSource (show r.lower.toJson.depth ≤ depth by omega)
  have hu := hupper.decode_toSource (show r.upper.toJson.depth ≤ depth by omega)
  have hdraft : Decoder.record "Range" {} fields (depth + 1) r.toJson.toSource
      = .ok ⟨some r.lower, some r.upper⟩ := by
    refine Decoder.record_toSource (Decoder.fieldMembers_cons ⟨some r.lower, none⟩ rfl rfl ?_
      (Decoder.fieldMembers_cons ⟨some r.lower, some r.upper⟩ rfl rfl ?_ Decoder.fieldMembers_nil))
    · simp [hl]
    · simp [hu]
  rw [decode, hdraft]
  rfl

end Range

namespace Operand

theorem depth_toJson_target (t : Target) : (Operand.target t).toJson.depth = 2 := by
  have hsegments : ∀ ss : List Segment, Json.depthOfItems (ss.map Segment.toJson) = 0 := by
    intro ss
    induction ss with
    | nil => rfl
    | cons s rest ih => rw [List.map_cons, Json.depthOfItems, ih, Segment.depth_toJson]; rfl
  simp only [toJson, Target.toJson, Json.depth, Json.depthOfMembers, hsegments]
  rfl

theorem depth_toJson_literal (v : Value) : (literal v).toJson.depth = v.toJson.depth + 1 := by
  simp [literal, toJson, Constant.toJson, Json.depth, Json.depthOfMembers]

theorem depth_toJson_range (r : Range) : (range r).toJson.depth = r.toJson.depth + 1 := by
  simp [range, toJson, Constant.toJson, Json.depth, Json.depthOfMembers]

theorem decode_toSource {o : Operand} (h : ∀ v ∈ o.values, v.Canonical) {depth : Nat}
    (hdepth : o.toJson.depth ≤ depth) : decode depth o.toJson.toSource = .ok o := by
  cases o with
  | target t =>
    rw [depth_toJson_target] at hdepth
    obtain ⟨depth, rfl⟩ : ∃ n, depth = n + 2 := ⟨depth - 2, by omega⟩
    exact Decoder.openChoice_object rfl (by rw [t.decode_toSource depth]; rfl)
  | constant c =>
    cases c with
    | literal v =>
      obtain ⟨hv, -⟩ := List.forall_mem_cons.mp h
      have hopens : (Operand.constant (.literal v)).toJson.depth = _ := depth_toJson_literal v
      rw [hopens] at hdepth
      obtain ⟨depth, rfl⟩ : ∃ n, depth = n + 1 := ⟨depth - 1, by omega⟩
      exact Decoder.openChoice_object rfl (by rw [hv.decode_toSource (by omega)]; rfl)
    | range r =>
      obtain ⟨hlower, hrest⟩ := List.forall_mem_cons.mp h
      obtain ⟨hupper, -⟩ := List.forall_mem_cons.mp hrest
      have hopens : (Operand.constant (.range r)).toJson.depth = _ := depth_toJson_range r
      rw [hopens] at hdepth
      obtain ⟨depth, rfl⟩ : ∃ n, depth = n + 1 := ⟨depth - 1, by omega⟩
      exact Decoder.openChoice_object rfl
        (by rw [Range.decode_toSource hlower hupper (by omega)]; rfl)

end Operand

namespace Clause

theorem depth_toJson (c : Clause) :
    c.toJson.depth = max c.subject.toJson.depth c.object.toJson.depth + 1 := by
  simp [toJson, Operator.toJson, Json.depth, Json.depthOfMembers]

theorem decode_toSource {c : Clause} (h : c.Canonical) {depth : Nat}
    (hdepth : c.toJson.depth ≤ depth) : decode depth c.toJson.toSource = .ok c := by
  obtain ⟨hsubject, hobject⟩ := List.forall_mem_append.mp h.values
  rw [depth_toJson] at hdepth
  obtain ⟨depth, rfl⟩ : ∃ n, depth = n + 1 := ⟨depth - 1, by omega⟩
  have hs := Operand.decode_toSource hsubject (show c.subject.toJson.depth ≤ depth by omega)
  have ho := Operator.decode_toSource h.operator depth
  have hb := Operand.decode_toSource hobject (show c.object.toJson.depth ≤ depth by omega)
  have hdraft : Decoder.record "Clause" {} fields (depth + 1) c.toJson.toSource
      = .ok ⟨some c.subject, some c.operator, some c.object⟩ := by
    refine Decoder.record_toSource (Decoder.fieldMembers_cons ⟨some c.subject, none, none⟩
      rfl rfl ?_ (Decoder.fieldMembers_cons ⟨some c.subject, some c.operator, none⟩ rfl rfl ?_
        (Decoder.fieldMembers_cons ⟨some c.subject, some c.operator, some c.object⟩ rfl rfl ?_
          Decoder.fieldMembers_nil)))
    · simp [hs]
    · simp [ho]
    · simp [hb]
  rw [decode, hdraft]
  rfl

end Clause

/-! ## Filters -/

theorem Member.depth_toJson_clause (c : Clause) :
    (Member.clause c).toJson.depth = c.toJson.depth + 1 := by
  simp [Member.toJson, Json.depth, Json.depthOfMembers]

theorem Member.depth_toJson_group (f : Filter) :
    (Member.group f).toJson.depth = f.toJson.depth + 1 := by
  simp [Member.toJson, Json.depth, Json.depthOfMembers]

theorem Statement.depth_toJson (conjunction : Conjunction) (m : Member) :
    (Statement.mk conjunction m).toJson.depth = m.toJson.depth + 1 := by
  simp [Statement.toJson, Conjunction.toJson, Json.depth, Json.depthOfMembers]

theorem Filter.depth_toJson (ss : List Statement) :
    (Filter.mk ss).toJson.depth = Json.depthOfItems (statementsJson ss) + 2 := by
  simp [Filter.toJson, Json.depth, Json.depthOfMembers]

theorem Conjunction.decode_toSource (c : Conjunction) (depth : Nat) :
    decode depth c.toJson.toSource = .ok c := by
  cases c <;> cases depth <;> rfl

mutual

theorem Member.decode_toSource : ∀ {m : Member} {depth : Nat}, (∀ c ∈ m.clauses, c.Canonical) →
    m.toJson.depth ≤ depth → Member.decode depth m.toJson.toSource = .ok m
  | .clause c, depth, h, hdepth => by
      rw [Member.depth_toJson_clause] at hdepth
      obtain ⟨depth, rfl⟩ : ∃ n, depth = n + 1 := ⟨depth - 1, by omega⟩
      have hc := Clause.decode_toSource (h c List.mem_cons_self)
        (show c.toJson.depth ≤ depth by omega)
      rw [Member.decode, Member.toJson]
      exact Decoder.openChoice_object rfl (by rw [hc]; rfl)
  | .group f, depth, h, hdepth => by
      rw [Member.depth_toJson_group] at hdepth
      obtain ⟨depth, rfl⟩ : ∃ n, depth = n + 1 := ⟨depth - 1, by omega⟩
      have hf := Filter.decode_toSource h (show f.toJson.depth ≤ depth by omega)
      rw [Member.decode, Member.toJson]
      exact Decoder.openChoice_object rfl (by rw [hf]; rfl)

theorem Statement.decode_toSource : ∀ {s : Statement} {depth : Nat},
    (∀ c ∈ s.clauses, c.Canonical) → s.toJson.depth ≤ depth →
      Statement.decode depth s.toJson.toSource = .ok s
  | ⟨conjunction, m⟩, depth, h, hdepth => by
      rw [Statement.depth_toJson] at hdepth
      obtain ⟨depth, rfl⟩ : ∃ n, depth = n + 1 := ⟨depth - 1, by omega⟩
      have hc := conjunction.decode_toSource depth
      have hm := Member.decode_toSource h (show m.toJson.depth ≤ depth by omega)
      have hdraft : Decoder.fieldMembers (Decoder.statementFields depth (Member.decode depth))
          (Json.memberSources [("conjunctive", conjunction.toJson), ("value", m.toJson)]) {}
            = .ok ⟨some conjunction, some m⟩ := by
        refine Decoder.fieldMembers_cons ⟨some conjunction, none⟩ rfl rfl ?_
          (Decoder.fieldMembers_cons ⟨some conjunction, some m⟩ rfl rfl ?_ Decoder.fieldMembers_nil)
        · simp [hc]
        · simp [hm]
      rw [Statement.decode, Statement.toJson, Json.toSource, Decoder.openRecord, hdraft]
      rfl

theorem Filter.decode_toSource : ∀ {f : Filter} {depth : Nat}, f.Canonical →
    f.toJson.depth ≤ depth → Filter.decode depth f.toJson.toSource = .ok f
  | ⟨ss⟩, depth, h, hdepth => by
      rw [Filter.depth_toJson] at hdepth
      obtain ⟨depth, rfl⟩ : ∃ n, depth = n + 2 := ⟨depth - 2, by omega⟩
      have hss := items_statementsJson h
        (show Json.depthOfItems (statementsJson ss) ≤ depth by omega)
      have hdraft : Decoder.fieldMembers (Decoder.filterFields (decodeStatements (depth + 1)))
          (Json.memberSources [("statements", .array (statementsJson ss))]) {} = .ok ⟨some ss⟩ := by
        refine Decoder.fieldMembers_cons ⟨some ss⟩ rfl rfl ?_ Decoder.fieldMembers_nil
        simp [Json.toSource, decodeStatements, hss]
      rw [Filter.decode, Filter.toJson, Json.toSource, Decoder.openRecord, hdraft]
      rfl

theorem items_statementsJson : ∀ {ss : List Statement} {depth : Nat},
    (∀ c ∈ clausesOf ss, c.Canonical) → Json.depthOfItems (statementsJson ss) ≤ depth →
      Decoder.items (Statement.decode depth) (Json.itemSources (statementsJson ss)) = .ok ss
  | [], _, _, _ => rfl
  | s :: rest, depth, h, hdepth => by
      rw [clausesOf, List.forall_mem_append] at h
      rw [statementsJson, Json.depthOfItems] at hdepth
      have hs := Statement.decode_toSource h.1 (show s.toJson.depth ≤ depth by omega)
      have hrest := items_statementsJson h.2
        (show Json.depthOfItems (statementsJson rest) ≤ depth by omega)
      rw [statementsJson, Json.itemSources, Decoder.items, hs, hrest]
      rfl

end

/-! ## The numbers of a filter -/

section Numbers

variable {P : Json.Number → Prop}

theorem Target.forall_numbers_toJson (hinteger : ∀ i : Int64, P (.integer i.toInt)) (t : Target) :
    ∀ n ∈ t.toJson.numbers, P n := by
  rw [toJson, Json.numbers]
  induction t.segments with
  | nil => exact fun n hn => (List.not_mem_nil hn).elim
  | cons s rest ih =>
    rw [List.map_cons, Json.numbersOfItems, List.forall_mem_append]
    refine ⟨?_, ih⟩
    cases s with
    | field name => exact fun n hn => (List.not_mem_nil hn).elim
    | index position => exact fun n hn => List.mem_singleton.mp hn ▸ hinteger position

theorem Operand.forall_numbers_toJson (hinteger : ∀ i : Int64, P (.integer i.toInt)) {o : Operand}
    (hfloat : ∀ x ∈ o.values.flatMap Value.floats, P (.float x)) : ∀ n ∈ o.toJson.numbers, P n := by
  cases o with
  | target t =>
    simpa [toJson, Json.numbers, Json.numbersOfMembers] using t.forall_numbers_toJson hinteger
  | constant c =>
    cases c with
    | literal v =>
      have hv : ∀ n ∈ v.toJson.numbers, P n :=
        Value.forall_numbers_toJson hinteger (by simpa [values, Constant.values] using hfloat)
      simpa [toJson, Constant.toJson, Json.numbers, Json.numbersOfMembers] using hv
    | range r =>
      simp only [values, Constant.values, List.flatMap_cons, List.flatMap_nil, List.append_nil,
        List.forall_mem_append] at hfloat
      have hlower := Value.forall_numbers_toJson hinteger hfloat.1
      have hupper := Value.forall_numbers_toJson hinteger hfloat.2
      simp only [toJson, Constant.toJson, Range.toJson, Json.numbers, Json.numbersOfMembers,
        List.append_nil, List.forall_mem_append]
      exact ⟨hlower, hupper⟩

theorem Clause.forall_numbers_toJson (hinteger : ∀ i : Int64, P (.integer i.toInt)) {c : Clause}
    (hfloat : ∀ x ∈ c.values.flatMap Value.floats, P (.float x)) : ∀ n ∈ c.toJson.numbers, P n := by
  rw [values, List.flatMap_append, List.forall_mem_append] at hfloat
  have hsubject := Operand.forall_numbers_toJson hinteger hfloat.1
  have hobject := Operand.forall_numbers_toJson hinteger hfloat.2
  simp only [toJson, Operator.toJson, Json.numbers, Json.numbersOfMembers, List.nil_append,
    List.append_nil, List.forall_mem_append]
  exact ⟨hsubject, hobject⟩

mutual

theorem Member.numbers_toJson : ∀ m : Member,
    m.toJson.numbers = m.clauses.flatMap fun c => c.toJson.numbers
  | .clause c => by
      simp [Member.toJson, Member.clauses, Json.numbers, Json.numbersOfMembers]
  | .group f => by
      rw [Member.toJson, Member.clauses, Json.numbers, Json.numbersOfMembers,
        Filter.numbers_toJson f, Json.numbersOfMembers, List.append_nil]

theorem Statement.numbers_toJson : ∀ s : Statement,
    s.toJson.numbers = s.clauses.flatMap fun c => c.toJson.numbers
  | ⟨conjunction, m⟩ => by
      rw [Statement.toJson, Statement.clauses, Json.numbers, Json.numbersOfMembers,
        Json.numbersOfMembers, Member.numbers_toJson m, Json.numbersOfMembers, List.append_nil]
      rfl

theorem Filter.numbers_toJson : ∀ f : Filter,
    f.toJson.numbers = f.clauses.flatMap fun c => c.toJson.numbers
  | ⟨ss⟩ => by
      rw [Filter.toJson, Filter.clauses, Json.numbers, Json.numbersOfMembers, Json.numbers,
        numbersOfItems_statementsJson ss, Json.numbersOfMembers, List.append_nil]

theorem numbersOfItems_statementsJson : ∀ ss : List Statement,
    Json.numbersOfItems (statementsJson ss) = (clausesOf ss).flatMap fun c => c.toJson.numbers
  | [] => rfl
  | s :: rest => by
      rw [statementsJson, Json.numbersOfItems, clausesOf, List.flatMap_append,
        Statement.numbers_toJson s, numbersOfItems_statementsJson rest]

end

/-- What holds of 64-bit integers and of the floats of a filter holds of all
numbers that are written for it. -/
theorem Filter.forall_numbers_toJson (hinteger : ∀ i : Int64, P (.integer i.toInt)) {f : Filter}
    (hfloat : ∀ x ∈ f.floats, P (.float x)) : ∀ n ∈ f.toJson.numbers, P n := by
  rw [numbers_toJson]
  intro n hn
  obtain ⟨c, hc, hn⟩ := List.mem_flatMap.mp hn
  refine Clause.forall_numbers_toJson hinteger (fun x hx => hfloat x ?_) n hn
  obtain ⟨v, hv, hx⟩ := List.mem_flatMap.mp hx
  exact List.mem_flatMap.mpr ⟨v, List.mem_flatMap.mpr ⟨c, hc, hv⟩, hx⟩

end Numbers

namespace Filter

theorem Canonical.isFinite {f : Filter} (h : f.Canonical) : ∀ x ∈ f.floats, x.isFinite = true := by
  intro x hx
  obtain ⟨v, hv, hx⟩ := List.mem_flatMap.mp hx
  obtain ⟨c, hc, hv⟩ := List.mem_flatMap.mp hv
  exact ((h c hc).values v hv).finite x hx

theorem Canonical.writeWith_eq_ok {f : Filter} (h : f.Canonical) (print : Json → String) :
    f.toJson.writeWith print = .ok (print f.toJson) :=
  Json.writeWith_eq_ok (forall_numbers_toJson (fun _ => rfl) h.isFinite) print

theorem Canonical.faithful [FloatReader] {f : Filter} (h : f.Canonical)
    (hread : ∀ x ∈ f.floats, Json.Number.ReadsBack (.float x)) :
    ∀ n ∈ f.toJson.numbers, n.Faithful :=
  forall_numbers_toJson (fun i => ⟨rfl, Json.Number.readsBack_int64 i⟩)
    fun x hx => ⟨h.isFinite x hx, hread x hx⟩

/-- A filter that JSON can carry is written and read back, if its text nests
no deeper than the decoder goes and the number reader gives back its floats. -/
theorem recovers [FloatReader] {f : Filter} (h : f.Canonical) (hdepth : f.toJson.depth ≤ depthLimit)
    (hread : ∀ x ∈ f.floats, Json.Number.ReadsBack (.float x)) :
    Decoder.Recovers Filter.decode f.toJson f :=
  Decoder.recovers_of_decode (h.faithful hread) (decode_toSource h hdepth)

/-- An object with a text that needs an escape, and an array. -/
def mixedObject : Value :=
  .object [("list", .array [.null, .boolean true]), ("é", .string "\t")]

/-- A filter with much that a text could mix up: a field and an index that
look alike, a negative zero, an integer and a float of one size, quotes, a
group, and a token that is no operator. -/
def lookalikes : Filter :=
  ⟨[⟨.and, .clause ⟨.target ⟨.field "0", [.index 0]⟩, .relation .gte, .literal (.float (-0.0))⟩⟩,
    ⟨.or, .group ⟨[
      ⟨.and, .clause ⟨.target ⟨.field "a\"\\\n", []⟩, .between,
        .range ⟨.integer 2, .float 2.0⟩⟩⟩,
      ⟨.and, .clause ⟨.literal mixedObject, .other "near", .literal (.float 1.5)⟩⟩]⟩⟩]⟩

theorem canonical_lookalikes : lookalikes.Canonical := by
  have hlist : (Value.array [.null, .boolean true]).Canonical :=
    .array (by simp [Value.Canonical.null, Value.Canonical.boolean])
  have hobject : mixedObject.Canonical :=
    .object (by decide) (by simp [hlist, Value.Canonical.string])
  have hzero : (Value.float (-0.0)).Canonical := .float (by decide +kernel)
  have htwo : (Value.float 2.0).Canonical := .float (by decide +kernel)
  have hhalf : (Value.float 1.5).Canonical := .float (by decide +kernel)
  refine List.forall_mem_cons.mpr ⟨⟨by decide, ?_⟩, List.forall_mem_cons.mpr ⟨⟨by decide, ?_⟩,
    List.forall_mem_cons.mpr ⟨⟨by decide, ?_⟩, by simp [clausesOf]⟩⟩⟩
  · exact List.forall_mem_cons.mpr ⟨hzero, by simp⟩
  · exact List.forall_mem_cons.mpr ⟨.integer 2, List.forall_mem_cons.mpr ⟨htwo, by simp⟩⟩
  · exact List.forall_mem_cons.mpr ⟨hobject, List.forall_mem_cons.mpr ⟨hhalf, by simp⟩⟩

theorem recovers_lookalikes :
    lookalikes.Canonical ∧ lookalikes.toJson.depth ≤ depthLimit ∧
      (∀ x ∈ lookalikes.floats, Json.Number.ReadsBack (.float x)) ∧
        Decoder.Recovers Filter.decode lookalikes.toJson lookalikes := by
  have hdepth : lookalikes.toJson.depth ≤ depthLimit := by decide
  have hread : ∀ x ∈ lookalikes.floats, Json.Number.ReadsBack (.float x) := by decide +kernel
  exact ⟨canonical_lookalikes, hdepth, hread, recovers canonical_lookalikes hdepth hread⟩

end Filter

end FilterQuery
