import FilterQuery.Proofs.FilterText
import FilterQuery.Proofs.ReadSources

/-!
# What decoding a filter can give

Many texts stand for one filter: structures may be written as arrays, keys may
be unknown or stand twice in a literal, tags and the joining of a statement
may be left out, and blanks and escapes are free. Whatever the spelling, what
is decoded is canonical, and the text that the filter is written as nests no
deeper than the text it was read from was allowed to
(`Filter.canonical_of_decode`). So a filter that was decoded can be written,
and is decoded again from that text (`Filter.decoded_recovers`).

The decoders are taken apart from their results: a list decoder gives a list
of what its items give, a record decoder keeps what each of its fields keeps,
and a choice gives what one of its alternatives gives. In each statement the
source is finite, as all sources of texts are.
-/

namespace FilterQuery

open Json (FloatReader Source)

namespace Decoder

variable {α : Type}

/-! ## Lists -/

theorem items_forall {P : α → Prop} {item : Source → Except DecodeError α}
    (hitem : ∀ source a, source.Finite → item source = .ok a → P a) :
    ∀ {sources : Source.Items} {as : List α}, sources.Finite → items item sources = .ok as →
      ∀ a ∈ as, P a
  | .closed, _, _, h => by
      cases h
      exact fun a ha => (List.not_mem_nil ha).elim
  | .broken, _, _, h => by cases h
  | .cons source rest, _, hfinite, h => by
      obtain ⟨a, ha, h⟩ := Except.bind_eq_ok_iff.mp h
      obtain ⟨as, has, h⟩ := Except.bind_eq_ok_iff.mp h
      cases h
      exact List.forall_mem_cons.mpr
        ⟨hitem source a hfinite.1 ha, items_forall hitem hfinite.2 has⟩

theorem list_eq_ok {item : Decoder α} {depth : Nat} {source : Source} {as : List α}
    (h : list item depth source = .ok as) :
    ∃ n sources, depth = n + 1 ∧ source = .array sources ∧ items (item n) sources = .ok as := by
  cases source with
  | array sources =>
    cases depth with
    | zero => cases h
    | succ n => exact ⟨n, sources, rfl, rfl, h⟩
  | null | boolean b | number n | string s | object members | fault => cases depth <;> cases h

/-! ## Records -/

section Records

variable {σ : Type} {I : σ → Prop} {fields : List (Field σ)}

/-- Reading a field keeps a condition on the fields read so far. -/
def Field.Keeps (I : σ → Prop) (field : Field σ) : Prop :=
  ∀ source state next, source.Finite → field.set source state = .ok next → I state → I next

/-- A field whose value is decoded and put in place. -/
theorem Field.Keeps.of_set {β : Type} {P : β → Prop} {field : Field σ}
    {decode : Source → Except DecodeError β} {put : σ → β → σ}
    (hset : ∀ source state, field.set source state = decode source >>= fun b => pure (put state b))
    (hdecode : ∀ source b, source.Finite → decode source = .ok b → P b)
    (hput : ∀ state b, P b → I state → I (put state b)) : field.Keeps I := by
  intro source state next hfinite h hstate
  rw [hset] at h
  obtain ⟨b, hb, h⟩ := Except.bind_eq_ok_iff.mp h
  cases h
  exact hput state b (hdecode source b hfinite hb) hstate

theorem fieldItems_invariant {record : String} {size : Nat} : ∀ {fields : List (Field σ)}
    {read : Nat} {sources : Source.Items} {state final : σ}, (∀ field ∈ fields, field.Keeps I) →
      sources.Finite → fieldItems record size read fields sources state = .ok final →
        I state → I final
  | [], _, .closed, _, _, _, _, h, hstate => by
      cases h
      exact hstate
  | [], _, .broken, _, _, _, _, h, _ | [], _, .cons _ _, _, _, _, _, h, _
  | _ :: _, _, .broken, _, _, _, _, h, _ => by cases h
  | field :: rest, _, .closed, _, _, hkeep, hfinite, h, hstate => by
      rw [fieldItems] at h
      split at h
      · exact fieldItems_invariant (List.forall_mem_cons.mp hkeep).2 hfinite h hstate
      · cases h
  | field :: rest, _, .cons source sources, state, _, hkeep, hfinite, h, hstate => by
      obtain ⟨hfield, hrest⟩ := List.forall_mem_cons.mp hkeep
      rw [fieldItems] at h
      split at h
      next next hset =>
        exact fieldItems_invariant hrest hfinite.2 h
          (hfield source state next hfinite.1 hset hstate)
      next => cases h

theorem fieldMembers_invariant (hkeep : ∀ field ∈ fields, field.Keeps I) :
    ∀ {sources : Source.Members} {state final : σ}, sources.Finite →
      fieldMembers fields sources state = .ok final → I state → I final
  | .closed, _, _, _, h, hstate => by
      cases h
      exact hstate
  | .broken, _, _, _, h, _ | .cons none _ _, _, _, _, h, _ => by cases h
  | .cons (some key) source rest, state, _, hfinite, h, hstate => by
      rw [fieldMembers] at h
      split at h
      next =>
        split at h
        · exact fieldMembers_invariant hkeep hfinite.2 h hstate
        · cases h
      next field hfield =>
        have hmem : field ∈ fields := List.mem_of_find?_eq_some hfield
        split at h
        · cases h
        · split at h
          next next hset =>
            exact fieldMembers_invariant hkeep hfinite.2 h
              (hkeep field hmem source state next hfinite.1 hset hstate)
          next => cases h

/-- What each field keeps holds of a record that is read, however it is
written. -/
theorem openRecord_invariant {name : String} {start final : σ} {source : Source}
    (hkeep : ∀ field ∈ fields, field.Keeps I) (hfinite : source.Finite)
    (h : openRecord name start fields source = .ok final) (hstart : I start) : I final := by
  cases source with
  | array sources => exact fieldItems_invariant hkeep hfinite h hstart
  | object members => exact fieldMembers_invariant hkeep hfinite h hstart
  | null | boolean b | number n | string s | fault => cases h

theorem closedRecord_ne_ok {name : String} {source : Source} {a : α} :
    closedRecord name source ≠ .ok a := by
  intro h
  cases source <;> cases h

theorem record_eq_ok {name : String} {start final : σ} {fields : Nat → List (Field σ)} {depth : Nat}
    {source : Source} (h : record name start fields depth source = .ok final) :
    ∃ n, depth = n + 1 ∧ openRecord name start (fields n) source = .ok final := by
  cases depth with
  | zero => exact absurd h closedRecord_ne_ok
  | succ n => exact ⟨n, rfl, h⟩

theorem required_eq_ok {name : String} {a? : Option α} {a : α} :
    required name a? = .ok a ↔ a? = some a := by
  cases a? <;> simp [required]

end Records

/-! ## Choices -/

section Choices

variable {alternatives : List (String × Alternative α)} {source : Source} {a : α}

theorem mem_of_named {name : String} {alternative : Alternative α}
    (h : named alternatives name = .ok alternative) : (name, alternative) ∈ alternatives := by
  rw [named] at h
  split at h <;> cases h
  next hlookup =>
    obtain ⟨l₁, l₂, rfl, -⟩ := List.lookup_eq_some_iff.mp hlookup
    simp

/-- A name alone stands for an alternative without content. -/
theorem closedChoice_eq_ok (h : closedChoice alternatives source = .ok a) :
    ∃ name, (name, .bare a) ∈ alternatives := by
  cases source with
  | string s =>
    cases s with
    | none => cases h
    | some name =>
      obtain ⟨alternative, hname, h⟩ := Except.bind_eq_ok_iff.mp h
      cases alternative with
      | bare b =>
        cases h
        exact ⟨name, mem_of_named hname⟩
      | holding decode => cases h
  | null | boolean b | number n | array items | object members | fault => cases h

/-- A choice that may be opened gives what stands for a name, or what the
content of an alternative gives. -/
theorem openChoice_eq_ok (hfinite : source.Finite) (h : openChoice alternatives source = .ok a) :
    (∃ name, (name, .bare a) ∈ alternatives) ∨
      ∃ name decode content, (name, .holding decode) ∈ alternatives ∧ content.Finite ∧
        decode content = .ok a := by
  cases source with
  | string s =>
    have hclosed : closedChoice alternatives (.string s) = .ok a := by
      cases s with
      | none => cases h
      | some name => exact h
    exact Or.inl (closedChoice_eq_ok hclosed)
  | object members =>
    cases members with
    | closed | broken => cases h
    | cons key content rest =>
      cases key with
      | none => cases h
      | some name =>
        obtain ⟨alternative, hname, h⟩ := Except.bind_eq_ok_iff.mp h
        obtain ⟨b, hb, h⟩ := Except.bind_eq_ok_iff.mp h
        have hab : b = a := by
          cases rest <;> cases h
          rfl
        subst hab
        cases alternative with
        | bare c =>
          refine Or.inl ⟨name, ?_⟩
          have hcb : c = b := by
            cases content <;> cases hb
            rfl
          exact hcb ▸ mem_of_named hname
        | holding decode => exact Or.inr ⟨name, decode, content, mem_of_named hname, hfinite.1, hb⟩
  | null | boolean b | number n | array items | fault => cases h

end Choices

end Decoder

/-! ## Targets and operators -/

theorem Target.pos_of_decode {depth : Nat} {source : Source} {t : Target}
    (h : decode depth source = .ok t) : 1 ≤ depth := by
  obtain ⟨segments, hsegments, -⟩ := Except.bind_eq_ok_iff.mp h
  obtain ⟨n, -, rfl, -⟩ := Decoder.list_eq_ok hsegments
  omega

namespace Operator

theorem canonical_ofToken (token : String) : (ofToken token).Canonical := by
  rw [ofToken]
  cases hknown : known.find? (·.token = token) with
  | none =>
    rintro _ hother hmem
    cases hother
    obtain ⟨op, hop, rfl⟩ := List.mem_map.mp hmem
    exact List.find?_eq_none.mp hknown op hop (by simp)
  | some op =>
    have hcanonical : ∀ op ∈ known, op.Canonical := by decide
    exact hcanonical op (List.mem_of_find?_eq_some hknown)

theorem canonical_of_decode {depth : Nat} {source : Source} {op : Operator}
    (h : decode depth source = .ok op) : op.Canonical := by
  obtain ⟨token, -, rfl⟩ := Except.map_eq_ok_iff.mp h
  exact canonical_ofToken token

end Operator

/-! ## Clauses -/

namespace Range

theorem canonical_of_decode {depth : Nat} {source : Source} {r : Range} (hfinite : source.Finite)
    (h : decode depth source = .ok r) :
    r.lower.Canonical ∧ r.upper.Canonical ∧ r.toJson.depth ≤ depth := by
  obtain ⟨draft, hdraft, h⟩ := Except.bind_eq_ok_iff.mp h
  obtain ⟨lower, hlower, h⟩ := Except.bind_eq_ok_iff.mp h
  obtain ⟨upper, hupper, h⟩ := Except.bind_eq_ok_iff.mp h
  cases h
  obtain ⟨n, rfl, hdraft⟩ := Decoder.record_eq_ok hdraft
  have hvalue : ∀ source v, source.Finite → Value.decode n source = .ok v →
      v.Canonical ∧ v.toJson.depth ≤ n := fun _ _ => Value.canonical_of_decode
  have hkeep : ∀ field ∈ fields n, field.Keeps fun draft : Draft =>
      (∀ v ∈ draft.lower, v.Canonical ∧ v.toJson.depth ≤ n) ∧
        ∀ v ∈ draft.upper, v.Canonical ∧ v.toJson.depth ≤ n := by
    simp only [fields, List.forall_mem_cons]
    refine ⟨.of_set (fun _ _ => rfl) hvalue ?_, .of_set (fun _ _ => rfl) hvalue ?_, nofun⟩
    · intro draft v hv hdraft
      simpa using ⟨hv, hdraft.2⟩
    · intro draft v hv hdraft
      simpa using ⟨hdraft.1, hv⟩
  have hfields := Decoder.openRecord_invariant hkeep hfinite hdraft (by simp)
  have hl := hfields.1 lower (Decoder.required_eq_ok.mp hlower)
  have hu := hfields.2 upper (Decoder.required_eq_ok.mp hupper)
  refine ⟨hl.1, hu.1, ?_⟩
  rw [depth_toJson]
  exact Nat.succ_le_succ (Nat.max_le.mpr ⟨hl.2, hu.2⟩)

end Range

namespace Operand

theorem canonical_of_decode {depth : Nat} {source : Source} {o : Operand} (hfinite : source.Finite)
    (h : decode depth source = .ok o) :
    (∀ v ∈ o.values, v.Canonical) ∧ o.toJson.depth ≤ depth := by
  cases depth with
  | zero =>
    obtain ⟨name, hname⟩ := Decoder.closedChoice_eq_ok h
    simp at hname
  | succ n =>
    rcases Decoder.openChoice_eq_ok hfinite h with ⟨name, hname⟩ |
      ⟨name, decode, content, hname, hcontent, h⟩
    · simp at hname
    · simp only [List.mem_cons, Prod.mk.injEq, Decoder.Alternative.holding.injEq,
        List.not_mem_nil, or_false] at hname
      obtain ⟨-, rfl⟩ | ⟨-, rfl⟩ | ⟨-, rfl⟩ := hname
      · obtain ⟨t, ht, rfl⟩ := Except.map_eq_ok_iff.mp h
        rw [depth_toJson_target]
        exact ⟨by simp [values], Nat.succ_le_succ (Target.pos_of_decode ht)⟩
      · obtain ⟨v, hv, rfl⟩ := Except.map_eq_ok_iff.mp h
        obtain ⟨hcanonical, hdepth⟩ := Value.canonical_of_decode hcontent hv
        rw [depth_toJson_literal]
        exact ⟨by simpa [literal, values, Constant.values] using hcanonical,
          Nat.succ_le_succ hdepth⟩
      · obtain ⟨r, hr, rfl⟩ := Except.map_eq_ok_iff.mp h
        obtain ⟨hlower, hupper, hdepth⟩ := Range.canonical_of_decode hcontent hr
        rw [depth_toJson_range]
        exact ⟨by simpa [range, values, Constant.values] using ⟨hlower, hupper⟩,
          Nat.succ_le_succ hdepth⟩

end Operand

namespace Clause

theorem canonical_of_decode {depth : Nat} {source : Source} {c : Clause} (hfinite : source.Finite)
    (h : decode depth source = .ok c) : c.Canonical ∧ c.toJson.depth ≤ depth := by
  obtain ⟨draft, hdraft, h⟩ := Except.bind_eq_ok_iff.mp h
  obtain ⟨subject, hsubject, h⟩ := Except.bind_eq_ok_iff.mp h
  obtain ⟨operator, hoperator, h⟩ := Except.bind_eq_ok_iff.mp h
  obtain ⟨object, hobject, h⟩ := Except.bind_eq_ok_iff.mp h
  cases h
  obtain ⟨n, rfl, hdraft⟩ := Decoder.record_eq_ok hdraft
  have hoperand : ∀ source o, source.Finite → Operand.decode n source = .ok o →
      (∀ v ∈ o.values, v.Canonical) ∧ o.toJson.depth ≤ n := fun _ _ => Operand.canonical_of_decode
  have htoken : ∀ source op, source.Finite → Operator.decode n source = .ok op → op.Canonical :=
    fun _ _ _ => Operator.canonical_of_decode
  have hkeep : ∀ field ∈ fields n, field.Keeps fun draft : Draft =>
      (∀ o ∈ draft.subject, (∀ v ∈ o.values, v.Canonical) ∧ o.toJson.depth ≤ n) ∧
        (∀ op ∈ draft.operator, op.Canonical) ∧
          ∀ o ∈ draft.object, (∀ v ∈ o.values, v.Canonical) ∧ o.toJson.depth ≤ n := by
    simp only [fields, List.forall_mem_cons]
    refine ⟨.of_set (fun _ _ => rfl) hoperand ?_, .of_set (fun _ _ => rfl) htoken ?_,
      .of_set (fun _ _ => rfl) hoperand ?_, nofun⟩
    · intro draft o ho hdraft
      exact ⟨by simpa using ho, hdraft.2⟩
    · intro draft op hop hdraft
      exact ⟨hdraft.1, by simpa using hop, hdraft.2.2⟩
    · intro draft o ho hdraft
      exact ⟨hdraft.1, hdraft.2.1, by simpa using ho⟩
  have hfields := Decoder.openRecord_invariant hkeep hfinite hdraft (by simp)
  have hs := hfields.1 subject (Decoder.required_eq_ok.mp hsubject)
  have hop := hfields.2.1 operator (Decoder.required_eq_ok.mp hoperator)
  have ho := hfields.2.2 object (Decoder.required_eq_ok.mp hobject)
  refine ⟨⟨hop, List.forall_mem_append.mpr ⟨hs.1, ho.1⟩⟩, ?_⟩
  rw [depth_toJson]
  exact Nat.succ_le_succ (Nat.max_le.mpr ⟨hs.2, ho.2⟩)

end Clause

/-! ## Filters -/

theorem forall_mem_clausesOf {P : Clause → Prop} {ss : List Statement}
    (h : ∀ s ∈ ss, ∀ c ∈ s.clauses, P c) : ∀ c ∈ clausesOf ss, P c := by
  induction ss with
  | nil => exact fun c hc => (List.not_mem_nil hc).elim
  | cons s rest ih =>
    obtain ⟨hs, hrest⟩ := List.forall_mem_cons.mp h
    rw [clausesOf]
    exact List.forall_mem_append.mpr ⟨hs, ih hrest⟩

theorem depthOfItems_statementsJson_le {ss : List Statement} {depth : Nat}
    (h : ∀ s ∈ ss, s.toJson.depth ≤ depth) : Json.depthOfItems (statementsJson ss) ≤ depth := by
  induction ss with
  | nil => exact Nat.zero_le _
  | cons s rest ih =>
    obtain ⟨hs, hrest⟩ := List.forall_mem_cons.mp h
    exact Nat.max_le.mpr ⟨hs, ih hrest⟩

mutual

theorem Member.canonical_of_decode : ∀ {depth : Nat} {source : Source} {m : Member},
    source.Finite → Member.decode depth source = .ok m →
      (∀ c ∈ m.clauses, c.Canonical) ∧ m.toJson.depth ≤ depth
  | 0, _, _, _, h => by
      rw [Member.decode] at h
      obtain ⟨name, hname⟩ := Decoder.closedChoice_eq_ok h
      simp [Decoder.memberAlternatives] at hname
  | depth + 1, _, _, hfinite, h => by
      rw [Member.decode] at h
      rcases Decoder.openChoice_eq_ok hfinite h with ⟨name, hname⟩ |
        ⟨name, decode, content, hname, hcontent, h⟩
      · simp [Decoder.memberAlternatives] at hname
      · simp only [Decoder.memberAlternatives, List.mem_cons, Prod.mk.injEq,
          Decoder.Alternative.holding.injEq, List.not_mem_nil, or_false] at hname
        obtain ⟨-, rfl⟩ | ⟨-, rfl⟩ := hname
        · obtain ⟨c, hc, rfl⟩ := Except.map_eq_ok_iff.mp h
          obtain ⟨hcanonical, hdepth⟩ := Clause.canonical_of_decode hcontent hc
          rw [Member.depth_toJson_clause]
          exact ⟨by simpa [Member.clauses] using hcanonical, Nat.succ_le_succ hdepth⟩
        · obtain ⟨f, hf, rfl⟩ := Except.map_eq_ok_iff.mp h
          obtain ⟨hcanonical, hdepth⟩ := Filter.canonical_of_decode hcontent hf
          rw [Member.depth_toJson_group]
          exact ⟨hcanonical, Nat.succ_le_succ hdepth⟩

theorem Statement.canonical_of_decode : ∀ {depth : Nat} {source : Source} {s : Statement},
    source.Finite → Statement.decode depth source = .ok s →
      (∀ c ∈ s.clauses, c.Canonical) ∧ s.toJson.depth ≤ depth
  | 0, _, _, _, h => by
      rw [Statement.decode] at h
      exact absurd h Decoder.closedRecord_ne_ok
  | depth + 1, _, _, hfinite, h => by
      rw [Statement.decode] at h
      obtain ⟨draft, hdraft, h⟩ := Except.bind_eq_ok_iff.mp h
      obtain ⟨m, hm, h⟩ := Except.bind_eq_ok_iff.mp h
      cases h
      have hconjunction : ∀ source c, source.Finite → Conjunction.decode depth source = .ok c →
          True := fun _ _ _ _ => trivial
      have hmember : ∀ source m, source.Finite → Member.decode depth source = .ok m →
          (∀ c ∈ m.clauses, c.Canonical) ∧ m.toJson.depth ≤ depth :=
        fun _ _ => Member.canonical_of_decode
      have hkeep : ∀ field ∈ Decoder.statementFields depth (Member.decode depth),
          field.Keeps fun draft : Statement.Draft =>
            ∀ m ∈ draft.member, (∀ c ∈ m.clauses, c.Canonical) ∧ m.toJson.depth ≤ depth := by
        simp only [Decoder.statementFields, List.forall_mem_cons]
        refine ⟨.of_set (fun _ _ => rfl) hconjunction
          (fun _ _ _ hdraft => hdraft), .of_set (fun _ _ => rfl) hmember ?_, nofun⟩
        intro draft m hm _
        simpa using hm
      have hfields := Decoder.openRecord_invariant hkeep hfinite hdraft (by simp)
      obtain ⟨hcanonical, hdepth⟩ := hfields m (Decoder.required_eq_ok.mp hm)
      rw [Statement.depth_toJson]
      exact ⟨hcanonical, Nat.succ_le_succ hdepth⟩

/-- Whatever a text spells, the filter that is decoded from it is canonical,
and written it opens no more containers than the decoder was allowed to. -/
theorem Filter.canonical_of_decode : ∀ {depth : Nat} {source : Source} {f : Filter},
    source.Finite → Filter.decode depth source = .ok f →
      f.Canonical ∧ f.toJson.depth ≤ depth
  | 0, _, _, _, h => by
      rw [Filter.decode] at h
      exact absurd h Decoder.closedRecord_ne_ok
  | depth + 1, _, _, hfinite, h => by
      rw [Filter.decode] at h
      obtain ⟨draft, hdraft, h⟩ := Except.bind_eq_ok_iff.mp h
      obtain ⟨ss, hss, h⟩ := Except.bind_eq_ok_iff.mp h
      cases h
      have hstatements : ∀ source ss, source.Finite → decodeStatements depth source = .ok ss →
          (∀ c ∈ clausesOf ss, c.Canonical) ∧
            Json.depthOfItems (statementsJson ss) + 1 ≤ depth :=
        fun _ _ => canonical_of_decodeStatements
      have hkeep : ∀ field ∈ Decoder.filterFields (decodeStatements depth),
          field.Keeps fun draft : Filter.Draft =>
            ∀ ss ∈ draft.statements, (∀ c ∈ clausesOf ss, c.Canonical) ∧
              Json.depthOfItems (statementsJson ss) + 1 ≤ depth := by
        simp only [Decoder.filterFields, List.forall_mem_cons]
        refine ⟨.of_set (fun _ _ => rfl) hstatements ?_, nofun⟩
        intro draft ss hss _
        simpa using hss
      have hfields := Decoder.openRecord_invariant hkeep hfinite hdraft (by simp)
      obtain ⟨hcanonical, hdepth⟩ := hfields ss (Decoder.required_eq_ok.mp hss)
      rw [Filter.depth_toJson]
      exact ⟨hcanonical, Nat.succ_le_succ hdepth⟩

theorem canonical_of_decodeStatements : ∀ {depth : Nat} {source : Source} {ss : List Statement},
    source.Finite → decodeStatements depth source = .ok ss →
      (∀ c ∈ clausesOf ss, c.Canonical) ∧ Json.depthOfItems (statementsJson ss) + 1 ≤ depth
  | 0, source, _, _, h => by cases source <;> cases h
  | depth + 1, source, ss, hfinite, h => by
      cases source with
      | array sources =>
        rw [decodeStatements] at h
        have hstatement : ∀ source s, source.Finite → Statement.decode depth source = .ok s →
            (∀ c ∈ s.clauses, c.Canonical) ∧ s.toJson.depth ≤ depth :=
          fun _ _ => Statement.canonical_of_decode
        have hstatements := Decoder.items_forall hstatement hfinite h
        exact ⟨forall_mem_clausesOf fun s hs => (hstatements s hs).1,
          Nat.succ_le_succ (depthOfItems_statementsJson_le fun s hs => (hstatements s hs).2)⟩
      | null | boolean b | number n | string s | object members | fault => cases h

end

/-! ## Texts of filters -/

theorem Decoder.fromText_eq_ok [FloatReader] {α : Type} {decode : Decoder α} {text : String} {a : α}
    (h : fromText decode text = .ok a) : decode depthLimit (Source.ofText text).1 = .ok a := by
  simp only [fromText] at h
  split at h
  next b hb =>
    split at h <;> cases h
    exact hb
  next => cases h

namespace Filter

/-- A filter that is decoded from any text has non-empty targets and is
canonical, and it can be written, no deeper than the decoder goes. Decoding
what is written gives the filter again, if the number reader gives back its
floats. -/
theorem decoded_recovers [FloatReader] {text : String} {f : Filter}
    (h : Decoder.fromText Filter.decode text = .ok f) :
    (∀ c ∈ f.clauses, ∀ t ∈ c.targets, t.segments ≠ []) ∧ f.Canonical ∧
      f.toJson.depth ≤ depthLimit ∧ (∃ line, f.toJson.write = .ok line) ∧
        (∃ lines, f.toJson.writePretty = .ok lines) ∧
          ((∀ x ∈ f.floats, Json.Number.ReadsBack (.float x)) →
            Decoder.Recovers Filter.decode f.toJson f) := by
  obtain ⟨hcanonical, hdepth⟩ :=
    canonical_of_decode (Source.finite_ofText text) (Decoder.fromText_eq_ok h)
  refine ⟨fun _ _ t _ => List.cons_ne_nil t.first t.rest, hcanonical, hdepth, ?_, ?_, ?_⟩
  · exact ⟨_, hcanonical.writeWith_eq_ok Json.render⟩
  · exact ⟨_, hcanonical.writeWith_eq_ok Json.renderPretty⟩
  · intro hread
    exact Decoder.recovers_of_decode (hcanonical.faithful hread) (decode_toSource hcanonical hdepth)

/-- A text of a filter in an odd spelling: a filter and a statement as arrays,
an alternative that holds nothing, a clause with its keys out of order and one
that is unknown, a key that stands twice, an escape, and a statement that does
not say how it is joined. -/
def oddText : String :=
  "[[ [\x7b\"or\": null\x7d, \x7b\"clause\": \x7b" ++
    "\"object\": \x7b\"literal\": \x7b\"b\": 1.50, \"a\": [], \"b\": -0\x7d\x7d, \"?\": 0, " ++
    "\"operator\": \"eq\", \"subject\": \x7b\"target\": [\"\\u0061\", 0]\x7d\x7d\x7d], " ++
    "\x7b\"value\": \x7b\"filter\": [[]]\x7d\x7d ]]"

/-- The text that the filter of `oddText` is written as. -/
def plainText : String :=
  "\x7b\"statements\":[\x7b\"conjunctive\":\"or\",\"value\":\x7b\"clause\":\x7b" ++
    "\"subject\":\x7b\"target\":[\"a\",0]\x7d,\"operator\":\"eq\"," ++
    "\"object\":\x7b\"literal\":\x7b\"a\":[],\"b\":-0.0\x7d\x7d\x7d\x7d\x7d," ++
    "\x7b\"conjunctive\":\"and\",\"value\":\x7b\"filter\":\x7b\"statements\":[]\x7d\x7d\x7d]\x7d"

theorem decoded_recovers_oddText :
    ∃ f, Decoder.fromText Filter.decode oddText = .ok f ∧ f.toJson.write = .ok plainText ∧
      f.Canonical ∧ f.toJson.depth ≤ depthLimit ∧ Decoder.Recovers Filter.decode f.toJson f := by
  have hresult : ((Decoder.fromText Filter.decode oddText).toOption.map fun f =>
      (f.toJson.render, f.floats)) = some (plainText, [-0.0]) := by decide +kernel
  cases h : Decoder.fromText Filter.decode oddText with
  | error e =>
    rw [h] at hresult
    cases hresult
  | ok f =>
    rw [h] at hresult
    obtain ⟨hrender, hfloats⟩ : f.toJson.render = plainText ∧ f.floats = [-0.0] := by
      simpa [Except.toOption] using hresult
    have hread : ∀ x ∈ f.floats, Json.Number.ReadsBack (.float x) := by
      rw [hfloats]
      decide +kernel
    obtain ⟨-, hcanonical, hdepth, -, -, hrecovers⟩ := decoded_recovers h
    have hwrite : f.toJson.write = .ok plainText := by
      rw [← hrender]
      exact hcanonical.writeWith_eq_ok Json.render
    exact ⟨f, rfl, hwrite, hcanonical, hdepth, hrecovers hread⟩

end Filter

end FilterQuery
