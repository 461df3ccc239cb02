import FilterQuery.CommandLine
import FilterQuery.Proofs.Assembly
import FilterQuery.Proofs.ValueText
import FilterQuery.Proofs.WrittenText

/-!
# Results in JSON texts

The result of a conversion can always be written. Values that JSON has no text
for, infinite and undefined floats, do not get past the check for plain
constants, and no other values get into a document; so the errors that writing
could end with never come up (`CommandLine.answer_ne_unwritable`).

What is written is read back as the same result, except that a pattern, which
only a conversion makes, is read as the object it is written as. The document
of a query has one entry a mapping, so the order of entries is no matter.
-/

namespace FilterQuery

open Json (FloatReader Source)

/-! ## Documents are writable -/

theorem forall_mem_pair {α : Type} {P : α → Prop} {a b : α} (ha : P a) (hb : P b) :
    ∀ x ∈ [a, b], P x :=
  List.forall_mem_cons.mpr ⟨ha, List.forall_mem_singleton.mpr hb⟩

namespace Value

mutual

theorem writable_of_isPlain : ∀ {v : Value}, v.isPlain = true → v.Writable
  | .null, _ | .boolean _, _ | .integer _, _ | .string _, _ => .leaf rfl nofun rfl
  | .float x, h => .float h
  | .array items, h => .array (forall_writable_of_arePlain h)
  | .object _, h | .regex _, h => by simp [isPlain] at h

theorem forall_writable_of_arePlain : ∀ {items : List Value}, arePlain items = true →
    ∀ item ∈ items, item.Writable
  | [], _ => fun item hitem => (List.not_mem_nil hitem).elim
  | item :: rest, h => by
      rw [arePlain, Bool.and_eq_true] at h
      exact List.forall_mem_cons.mpr
        ⟨writable_of_isPlain h.1, forall_writable_of_arePlain h.2⟩

end

namespace Writable

theorem regex (r : Regex) : (Value.regex r).Writable := .leaf rfl nofun rfl

theorem string (s : String) : (Value.string s).Writable := .leaf rfl nofun rfl

theorem single {key : String} {v : Value} (h : v.Writable) : (Value.single key v).Writable := by
  refine .object (List.pairwise_singleton _ _) fun e he => ?_
  rw [List.mem_singleton.mp he]
  exact h

theorem pair {v w : Value} (hv : v.Writable) (hw : w.Writable) : (Value.array [v, w]).Writable :=
  .array (forall_mem_pair hv hw)

end Writable

end Value

theorem Condition.writable {cond : Condition} (h : cond.Plain) : cond.toValue.Writable := by
  cases cond with
  | compare r v =>
    have hv := Value.writable_of_isPlain h
    cases r with
    | eq => exact hv
    | ne | gt | gte | lt | lte => exact hv.single
  | within v | without v => exact (Value.writable_of_isPlain h).single
  | like r => exact (Value.Writable.regex r).single
  | unlike r => exact (Value.Writable.regex r).single.single

theorem Argument.writable {a : Argument} (h : a.Plain) : a.toValue.Writable := by
  cases a with
  | reference key => exact .string _
  | constant v => exact Value.writable_of_isPlain h

theorem Expression.writable_binary {op : String} {a b : Argument} (ha : a.Plain) (hb : b.Plain) :
    (binary op a b).Writable :=
  (a.writable ha).pair (b.writable hb) |>.single

theorem Expression.writable {x : Expression} (h : ∀ a ∈ x.arguments, a.Plain) :
    x.toValue.Writable := by
  cases x with
  | compare r a b =>
    simp only [arguments, List.forall_mem_cons] at h
    exact writable_binary h.1 h.2.1
  | between a l u | outside a l u =>
    simp only [arguments, List.forall_mem_cons] at h
    obtain ⟨ha, hl, -, hu, -⟩ := h
    exact ((writable_binary ha hl).pair (writable_binary ha hu)).single
  | within a l =>
    simp only [arguments, List.forall_mem_cons] at h
    exact writable_binary h.1 h.2.1
  | without a l =>
    simp only [arguments, List.forall_mem_cons] at h
    exact (writable_binary h.1 h.2.1).single

namespace Query

theorem writable_all {qs : List Query} (h : ∀ q ∈ qs, q.toValue.Writable) :
    (Query.all qs).toValue.Writable := by
  rw [toValue_all]
  exact (Value.Writable.array (List.forall_mem_map.mpr h)).single

theorem writable_any {qs : List Query} (h : ∀ q ∈ qs, q.toValue.Writable) :
    (Query.any qs).toValue.Writable := by
  rw [toValue_any]
  exact (Value.Writable.array (List.forall_mem_map.mpr h)).single

theorem writable_field (key : String) {cond : Condition} (h : cond.Plain) :
    (Query.field key cond).toValue.Writable := by
  rw [toValue_field]
  exact (Condition.writable h).single

theorem writable_expression {x : Expression} (h : ∀ a ∈ x.arguments, a.Plain) :
    (Query.expression x).toValue.Writable := by
  rw [toValue_expression]
  exact (Expression.writable h).single

end Query

theorem FieldAsks.writable [RegexEngine] {key : String} {op : Operator} {object : Constant}
    {q : Query} (h : FieldAsks key op object q) : q.toValue.Writable := by
  cases h with
  | compare r hv | within hv | without hv => exact Query.writable_field key hv
  | like hc | unlike hc => exact Query.writable_field key trivial
  | between hl hu =>
    exact Query.writable_all
      (forall_mem_pair (Query.writable_field key hl) (Query.writable_field key hu))
  | outside hl hu =>
    exact Query.writable_any
      (forall_mem_pair (Query.writable_field key hl) (Query.writable_field key hu))

theorem Clause.Asks.writable [RegexEngine] {s : Strategy} {c : Clause}
    {q : Query} (h : c.Asks s q) :
    q.toValue.Writable := by
  cases h with
  | field _ _ hq => exact hq.writable
  | fields _ _ _ => exact Query.writable_expression (by simp [Expression.arguments, Argument.Plain])
  | constants _ hq =>
    obtain ⟨x, rfl, hplain, -⟩ := hq.arguments
    exact Query.writable_expression hplain

/-- Each value in the document of a conversion went through the check for plain
constants, or is a pattern or a reference. -/
theorem Filter.writable_of_convertWith [RegexEngine] {f : Filter} {s : Strategy}
    {r : ConversionResult} (h : f.convertWith s = .ok r) : (Value.object r.document).Writable := by
  obtain ⟨hasks, -, rfl⟩ := convertWith_eq_ok.mp h
  exact Filter.assemble_invariant (P := fun q => q.toValue.Writable) (fun _ => Query.writable_all)
    (fun _ => Query.writable_any) fun c hc => (hasks c hc).writable

/-! ## Reading a result -/

theorem Decoder.members_memberSources {depth : Nat} : ∀ {es : List (String × Value)},
    (∀ e ∈ es, e.2.Ordered) → Json.depthOfMembers (Value.jsonMembers es) ≤ depth →
      Decoder.members (Value.decode depth) (Json.memberSources (Value.jsonMembers es))
        = .ok (Value.entriesWithoutRegexes es)
  | [], _, _ => rfl
  | (key, v) :: rest, hordered, hdepth => by
      obtain ⟨(hv : v.Ordered), hrest⟩ := List.forall_mem_cons.mp hordered
      rw [Value.jsonMembers, Json.depthOfMembers] at hdepth
      have hhead := Value.decode_toSource hv (show v.toJson.depth ≤ depth by omega)
      have htail := members_memberSources hrest
        (show Json.depthOfMembers (Value.jsonMembers rest) ≤ depth by omega)
      rw [Value.jsonMembers, Json.memberSources, Decoder.members, hhead, htail]
      rfl

theorem Decoder.entries_toSource {depth : Nat} {es : Entries Value} (hes : Entries.Ordered es)
    (hordered : ∀ e ∈ es, e.2.Ordered)
    (hdepth : Json.depthOfMembers (Value.jsonMembers es) ≤ depth) :
    Decoder.entries Value.decode (depth + 1) (Json.object (Value.jsonMembers es)).toSource
      = .ok (Value.entriesWithoutRegexes es) := by
  have hsorted : Entries.Ordered (Value.entriesWithoutRegexes es) := by
    rw [Entries.Ordered, Value.keys_entriesWithoutRegexes]
    exact hes
  rw [Json.toSource, Decoder.entries, members_memberSources hordered hdepth, Except.map,
    Entries.ofList_of_ordered hsorted]

namespace ConversionResult

theorem depth_toJson (r : ConversionResult) :
    r.toJson.depth = Json.depthOfMembers (Value.jsonMembers r.document) + 2 := by
  have htexts : ∀ texts : List String, Json.depthOfItems (texts.map .string) = 0 := by
    intro texts
    induction texts with
    | nil => rfl
    | cons text rest ih => rw [List.map_cons, Json.depthOfItems, ih]; rfl
  simp only [toJson, Json.strings, Json.depth, Json.depthOfMembers, htexts]
  omega

theorem decode_toSource {r : ConversionResult} (h : (Value.object r.document).Writable)
    {depth : Nat} (hdepth : r.toJson.depth ≤ depth) :
    decode depth r.toJson.toSource
      = .ok ⟨r.fields, Value.entriesWithoutRegexes r.document⟩ := by
  rw [depth_toJson] at hdepth
  obtain ⟨depth, rfl⟩ : ∃ n, depth = n + 2 := ⟨depth - 2, by omega⟩
  have hfields : Decoder.list Decoder.text (depth + 1) (Json.strings r.fields).toSource
      = .ok r.fields := Decoder.list_toSource fun _ _ => rfl
  have hsorted : Entries.Ordered r.document := h.ordered _ List.mem_cons_self
  have hordered : ∀ e ∈ r.document, e.2.Ordered := fun e he es hes =>
    h.ordered es (Value.mem_parts_object.mpr (Or.inr ⟨e, he, hes⟩))
  have hdocument := Decoder.entries_toSource hsorted hordered
    (show Json.depthOfMembers (Value.jsonMembers r.document) ≤ depth by omega)
  have hdraft : Decoder.record "ConversionResult" {} fieldsOf (depth + 2) r.toJson.toSource
      = .ok ⟨some r.fields, some (Value.entriesWithoutRegexes r.document)⟩ := by
    refine Decoder.record_toSource (Decoder.fieldMembers_cons ⟨some r.fields, none⟩ rfl rfl ?_
      (Decoder.fieldMembers_cons ⟨some r.fields, some _⟩ rfl rfl ?_ Decoder.fieldMembers_nil))
    · simp [hfields]
    · simp [hdocument]
  rw [decode, hdraft]
  rfl

/-- What holds of 64-bit integers and of the floats of the document holds of
all numbers that are written for a result. -/
theorem forall_numbers_toJson {P : Json.Number → Prop}
    (hinteger : ∀ i : Int64, P (.integer i.toInt)) {r : ConversionResult}
    (hfloat : ∀ x ∈ (Value.object r.document).floats, P (.float x)) :
    ∀ n ∈ r.toJson.numbers, P n := by
  have htexts : ∀ texts : List String, Json.numbersOfItems (texts.map .string) = [] := by
    intro texts
    induction texts with
    | nil => rfl
    | cons text rest ih => rw [List.map_cons, Json.numbersOfItems, ih]; rfl
  have hdocument := Value.forall_numbers_toJson hinteger hfloat
  rw [Value.toJson] at hdocument
  simpa [toJson, Json.strings, Json.numbers, Json.numbersOfMembers, htexts] using hdocument

theorem writeWith_eq_ok {r : ConversionResult} (h : (Value.object r.document).Writable)
    (print : Json → String) : r.toJson.writeWith print = .ok (print r.toJson) :=
  Json.writeWith_eq_ok (forall_numbers_toJson (fun _ => rfl) h.finite) print

end ConversionResult

/-! ## The command line -/

theorem Except.mapError_eq_error {ε δ α : Type} {x : Except ε α} {f : ε → δ} {d : δ}
    (h : x.mapError f = .error d) : ∃ e, x = .error e ∧ f e = d := by
  cases x with
  | error e => exact ⟨e, rfl, Except.error.inj h⟩
  | ok a => cases h

theorem Except.mapError_eq_ok {ε δ α : Type} {x : Except ε α} {f : ε → δ} {a : α}
    (h : x.mapError f = .ok a) : x = .ok a := by
  cases x with
  | error e => cases h
  | ok b => exact congrArg _ (Except.ok.inj h)

namespace CommandLine

theorem loadStrategy_ne_unwritable [FloatReader]
    (files : Files) (argument : Option String) (e : WriteError) :
    loadStrategy files argument ≠ .error (.unwritable e) := by
  intro h
  cases argument with
  | none => cases h
  | some argument =>
    rcases Except.bind_eq_error h with h | ⟨text, -, h⟩
    · unfold readPlace at h
      split at h
      · cases h
      · obtain ⟨reason, -, h⟩ := Except.mapError_eq_error h
        cases h
    · rcases Except.bind_eq_error h with h | ⟨options, -, h⟩
      · obtain ⟨problem, -, h⟩ := Except.mapError_eq_error h
        cases h
      · obtain ⟨problem, -, h⟩ := Except.mapError_eq_error h
        cases h

/-- No step up to the result fails with what could not be written. -/
theorem convert_ne_unwritable [RegexEngine] [FloatReader]
    (files : Files) (filter strategy : Option String) (e : WriteError) :
    convert files filter strategy ≠ .error (.unwritable e) := by
  intro h
  cases filter with
  | none => cases h
  | some text =>
    rcases Except.bind_eq_error h with h | ⟨f, -, h⟩
    · obtain ⟨problem, -, h⟩ := Except.mapError_eq_error h
      cases h
    · rcases Except.bind_eq_error h with h | ⟨s, -, h⟩
      · exact loadStrategy_ne_unwritable files strategy e h
      · obtain ⟨refusal, -, h⟩ := Except.mapError_eq_error h
        cases h

theorem convertWith_of_convert [RegexEngine] [FloatReader] {files : Files}
    {filter strategy : Option String}
    {r : ConversionResult} (h : convert files filter strategy = .ok r) :
    ∃ f s, Filter.convertWith f s = .ok r := by
  cases filter with
  | none => cases h
  | some text =>
    obtain ⟨f, -, h⟩ := Except.bind_eq_ok_iff.mp h
    obtain ⟨s, -, h⟩ := Except.bind_eq_ok_iff.mp h
    exact ⟨f, s, Except.mapError_eq_ok h⟩

/-- No request ends with a result that cannot be written. -/
theorem answer_ne_unwritable [RegexEngine] [FloatReader]
    (files : Files) (input : String) (request : Request) (e : WriteError) :
    answer files input request ≠ .error (.unwritable e) := by
  intro h
  cases request with
  | convert filter strategy pretty =>
    rcases Except.bind_eq_error h with h | ⟨r, hr, h⟩
    · exact convert_ne_unwritable files _ strategy e h
    · obtain ⟨f, s, hconvert⟩ := convertWith_of_convert hr
      have hwritable := Filter.writable_of_convertWith hconvert
      rcases Except.bind_eq_error h with h | ⟨text, -, h⟩
      · obtain ⟨problem, h, -⟩ := Except.mapError_eq_error h
        cases pretty with
        | true =>
          have hwrite := ConversionResult.writeWith_eq_ok hwritable Json.renderPretty
          rw [if_pos rfl, Json.writePretty, hwrite] at h
          cases h
        | false =>
          have hwrite := ConversionResult.writeWith_eq_ok hwritable Json.render
          rw [if_neg Bool.false_ne_true, Json.write, hwrite] at h
          cases h
      · cases h
  | docs | version => cases h
  | doc category =>
    rw [answer, categoryText] at h
    split at h <;> cases h

end CommandLine

namespace Filter

/-- The result of every conversion can be written, so the program never ends
with a result that cannot. What is written is decoded as the result with an
object in place of each regular expression, if it nests no deeper than the
decoder goes and the number reader gives back its floats. -/
theorem result_recovers [RegexEngine] [FloatReader] {f : Filter} {s : Strategy}
    {r : ConversionResult} (h : f.convertWith s = .ok r) :
    (∃ line, r.toJson.write = .ok line) ∧ (∃ lines, r.toJson.writePretty = .ok lines) ∧
      (∀ files input request e, CommandLine.answer files input request ≠ .error (.unwritable e)) ∧
        (r.toJson.depth ≤ depthLimit →
          (∀ x ∈ (Value.object r.document).floats, Json.Number.ReadsBack (.float x)) →
            Decoder.Recovers ConversionResult.decode r.toJson
              ⟨r.fields, Value.entriesWithoutRegexes r.document⟩) := by
  have hwritable := writable_of_convertWith h
  refine ⟨?_, ?_, CommandLine.answer_ne_unwritable, fun hdepth hread => ?_⟩
  · exact ⟨_, ConversionResult.writeWith_eq_ok hwritable Json.render⟩
  · exact ⟨_, ConversionResult.writeWith_eq_ok hwritable Json.renderPretty⟩
  · have hfaithful : ∀ n ∈ r.toJson.numbers, n.Faithful :=
      ConversionResult.forall_numbers_toJson (fun i => ⟨rfl, Json.Number.readsBack_int64 i⟩)
        fun x hx => ⟨hwritable.finite x hx, hread x hx⟩
    exact Decoder.recovers_of_decode hfaithful
      (ConversionResult.decode_toSource hwritable hdepth)

/-- Things whose name starts with `a.` and whose size is at least one and a
half. -/
def namedAndSized : Filter :=
  ⟨[⟨.and, .clause ⟨.target ⟨.field "name", []⟩, .like, .literal (.string "a.*")⟩⟩,
    ⟨.and, .clause ⟨.target ⟨.field "size", []⟩, .relation .gte, .literal (.float 1.5)⟩⟩]⟩

def namedAndSizedResult : ConversionResult where
  fields := ["/name", "/size"]
  document := [("$and", .array [
    .object [("name", .object [("$regex", .regex ⟨"^a\\..*$", "i"⟩)])],
    .object [("size", .object [("$gte", .float 1.5)])]])]

/-- What is read where `namedAndSizedResult` was written. -/
def namedAndSizedReread : ConversionResult where
  fields := ["/name", "/size"]
  document := [("$and", .array [
    .object [("name", .object [("$regex", .object [("$regularExpression",
      .object [("options", .string "i"), ("pattern", .string "^a\\..*$")])])])],
    .object [("size", .object [("$gte", .float 1.5)])]])]

theorem result_recovers_namedAndSized :
    namedAndSized.convertWith .unrestricted = .ok namedAndSizedResult ∧
      namedAndSizedResult.toJson.depth ≤ depthLimit ∧
        (∀ x ∈ (Value.object namedAndSizedResult.document).floats,
          Json.Number.ReadsBack (.float x)) ∧
          Decoder.Recovers ConversionResult.decode namedAndSizedResult.toJson
            namedAndSizedReread := by
  have hconvert : namedAndSized.convertWith .unrestricted = .ok namedAndSizedResult := rfl
  have hdepth : namedAndSizedResult.toJson.depth ≤ depthLimit := by decide
  have hread : ∀ x ∈ (Value.object namedAndSizedResult.document).floats,
      Json.Number.ReadsBack (.float x) := by decide +kernel
  obtain ⟨-, -, -, hrecovers⟩ := result_recovers hconvert
  exact ⟨hconvert, hdepth, hread, hrecovers hdepth hread⟩

end Filter

end FilterQuery
