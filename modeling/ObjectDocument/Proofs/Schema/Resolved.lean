import ObjectDocument.Proofs.Schema.Meaning
import ObjectDocument.Proofs.TypeExpr.Names

/-!
# What is looked up is what is meant

Looking a declaration up adds a type where it meets a name that means nothing yet, or a component
without an array type.  `Grown` is what that leaves of a schema: the types before stay as they are,
and all that is new has no members and is referred to by what was found.  What is found is what the
declaration means in the schema that it leaves (`grown_of_resolveBody`), and since meanings stay,
what it means from then on.

Whether a declaration can be looked up does not depend on the schema: what means something in one
schema can be looked up in every other (`MeansBody.exists_run`).
-/

namespace ObjectDocument

namespace Schema

/-- A schema has grown by types without members, which are undeclared or arrays, and of which the
keys are known. -/
structure Grown (before after : Schema) (known : List TypeKey) : Prop where
  indexed : after.Indexed
  kept : before.nodes <+: after.nodes
  added : ∀ {key : TypeKey} {node : TypeNode}, before.size ≤ key.index →
    after.node? key = some node → key ∈ known ∧ node.toTypeBody = {} ∧
      (node.kind = .undeclared ∨ ∃ component, node.kind = .array component)

def Covers (schema : Schema) (scope : List TypeParam) : Prop :=
  ∀ param ∈ scope, ∀ bound ∈ param.bound, ∀ key ∈ bound.keys, key.index < schema.size

variable {schema before between after : Schema} {known others : List TypeKey}
  {scope : List TypeParam}

namespace Grown

theorem refl (indexed : schema.Indexed) (known : List TypeKey) : Grown schema schema known where
  indexed := indexed
  kept := List.prefix_refl _
  added := fun hsize hnode => absurd (lt_of_node? hnode) (Nat.not_lt.2 hsize)

theorem heads_isPrefix (grown : Grown before after known) : before.heads <+: after.heads :=
  grown.kept.map _

theorem size_le (grown : Grown before after known) : before.size ≤ after.size :=
  grown.kept.length_le

theorem node?_eq (grown : Grown before after known) {key : TypeKey}
    (h : key.index < before.size) : after.node? key = before.node? key := by
  obtain ⟨added, hadded⟩ := grown.kept
  rw [node?, node?, ← hadded]
  exact List.getElem?_append_left h

theorem trans (first : Grown before between known) (second : Grown between after others) :
    Grown before after (known ++ others) where
  indexed := second.indexed
  kept := first.kept.trans second.kept
  added := by
    intro key node hsize hnode
    rcases Nat.lt_or_ge key.index between.size with hlt | hge
    · rw [second.node?_eq hlt] at hnode
      obtain ⟨hknown, hbare⟩ := first.added hsize hnode
      exact ⟨List.mem_append_left _ hknown, hbare⟩
    · obtain ⟨hknown, hbare⟩ := second.added hge hnode
      exact ⟨List.mem_append_right _ hknown, hbare⟩

theorem weaken (grown : Grown before after known) (h : known ⊆ others) :
    Grown before after others where
  indexed := grown.indexed
  kept := grown.kept
  added := fun hsize hnode => (grown.added hsize hnode).imp (fun hknown => h hknown) id

theorem insert {name : String} {kind : TypeKind} (indexed : (before.insert name kind).Indexed)
    (hkind : kind = .undeclared ∨ ∃ component, kind = .array component) :
    Grown before (before.insert name kind) [⟨before.size⟩] where
  indexed := indexed
  kept := List.prefix_append _ _
  added := by
    intro key node hsize hnode
    rcases getElem?_insert hnode with hnode | ⟨hkey, rfl⟩
    · exact absurd (lt_of_node? hnode) (Nat.not_lt.2 hsize)
    · refine ⟨?_, rfl, hkind⟩
      rw [List.mem_singleton, ← hkey]

end Grown

theorem Covers.mono (covers : before.Covers scope) (h : before.size ≤ after.size) :
    after.Covers scope :=
  fun param hparam bound hbound key hkey =>
    Nat.lt_of_lt_of_le (covers param hparam bound hbound key hkey) h

/-- What a declared type erases to is the root, or a key of it or of a bound. -/
theorem eraseIn_cases (scope : List TypeParam) (declared : GenericType) :
    eraseIn scope declared = .object ∨ eraseIn scope declared ∈ declared.keys ∨
      ∃ param ∈ scope, ∃ bound ∈ param.bound, eraseIn scope declared ∈ bound.keys := by
  cases declared with
  | applied base args => exact .inr (.inl (by simp [eraseIn, GenericType.keys]))
  | array component erased => exact .inr (.inl (by simp [eraseIn, GenericType.keys]))
  | var name =>
      cases hbound : (scope.find? (·.name = name)).bind (·.bound) with
      | none => exact .inl (by simp only [eraseIn, hbound])
      | some bound =>
          obtain ⟨param, hparam, hfound⟩ := Option.bind_eq_some_iff.1 hbound
          have hmem := List.mem_of_find?_eq_some hparam
          cases bound with
          | var other => exact .inl (by simp only [eraseIn, hbound])
          | applied base args =>
              exact .inr (.inr
                ⟨param, hmem, _, hfound, by simp [eraseIn, hbound, GenericType.keys]⟩)
          | array component erased =>
              exact .inr (.inr
                ⟨param, hmem, _, hfound, by simp [eraseIn, hbound, GenericType.keys]⟩)

theorem eraseIn_lt (indexed : schema.Indexed) (covers : schema.Covers scope)
    {declared : GenericType} (h : ∀ key ∈ declared.keys, key.index < schema.size) :
    (eraseIn scope declared).index < schema.size := by
  rcases eraseIn_cases scope declared with herased | hkey | ⟨param, hparam, bound, hbound, hkey⟩
  · rw [herased]
    exact indexed.root
  · exact h _ hkey
  · exact covers param hparam bound hbound _ hkey

/-! ### Single types -/

theorem grown_of_internName {name : String} {key : TypeKey} (indexed : before.Indexed)
    (hname : Text.isIdentifier name) (h : (internName name).run before = .ok (key, after)) :
    Grown before after [key] ∧ after.Bears key name := by
  rcases run_internName_eq_ok_iff.1 h with ⟨hlookup, rfl⟩ | ⟨hlookup, rfl, rfl⟩
  · exact ⟨.refl indexed _, bears_of_lookup? indexed hname hlookup⟩
  · exact ⟨.insert (indexed.insert_named hlookup rfl) (.inl rfl),
      bears_insert.2 (.inr ⟨rfl, rfl, rfl⟩)⟩

theorem grown_of_internArray {component key : TypeKey} (indexed : before.Indexed)
    (hcomponent : component.index < before.size)
    (h : (internArray component).run before = .ok (key, after)) :
    Grown before after [key] ∧ after.componentOf? key = some component := by
  rcases run_internArray_eq_ok_iff.1 h with ⟨harray, rfl⟩ | ⟨harray, rfl, rfl⟩
  · exact ⟨.refl indexed _, indexed.arrayOf?_eq_some_iff.1 harray⟩
  · exact ⟨.insert (indexed.insert_array harray hcomponent) (.inr ⟨component, rfl⟩),
      componentOf?_insert.2 (.inr ⟨rfl, rfl⟩)⟩

end Schema

/-! ### Steps that find something -/

theorem SchemaM.run_bind_eq_ok_iff {α β : Type} {step : SchemaM α} {next : α → SchemaM β}
    {before after : Schema} {b : β} : (step >>= next).run before = .ok (b, after) ↔
      ∃ a between, step.run before = .ok (a, between) ∧ (next a).run between = .ok (b, after) := by
  rw [StateT.run_bind, Except.bind_eq_ok_iff, Prod.exists]

/-- A step that succeeds leaves the schema grown by keys of what it found, and what it found is
what there is to find in the schema that it leaves. -/
def SchemaM.Finds {α : Type} (scope : List TypeParam) (step : SchemaM α)
    (keys : α → List TypeKey) (found : Schema → α → Prop) : Prop :=
  ∀ ⦃before after : Schema⦄ ⦃a : α⦄, before.Indexed → before.Covers scope →
    step.run before = .ok (a, after) → before.Grown after (keys a) ∧ found after a

namespace SchemaM.Finds

open Schema

variable {α β : Type} {scope : List TypeParam}

theorem mapM {step : β → SchemaM α} {keys : α → List TypeKey} {found : Schema → β → α → Prop}
    (hstep : ∀ b, SchemaM.Finds scope (step b) keys (found · b))
    (hfound : ∀ {before after : Schema} b a, before.heads <+: after.heads →
      found before b a → found after b a) (bs : List β) :
    SchemaM.Finds scope (bs.mapM step) (List.flatMap keys) fun schema as =>
      List.Forall₂ (found schema) bs as := by
  induction bs with
  | nil =>
      intro before after as indexed _ h
      cases h
      exact ⟨.refl indexed _, .nil⟩
  | cons b bs ih =>
      intro before after as indexed covers h
      rw [List.mapM_cons] at h
      obtain ⟨a, between, hfirst, h⟩ := SchemaM.run_bind_eq_ok_iff.1 h
      obtain ⟨rest, last, hrest, h⟩ := SchemaM.run_bind_eq_ok_iff.1 h
      cases h
      obtain ⟨first, ha⟩ := hstep b indexed covers hfirst
      obtain ⟨second, hothers⟩ := ih first.indexed (covers.mono first.size_le) hrest
      exact ⟨first.trans second, .cons (hfound b a second.heads_isPrefix ha) hothers⟩

theorem option_mapM {step : β → SchemaM α} {keys : α → List TypeKey}
    {found : Schema → β → α → Prop} (hstep : ∀ b, SchemaM.Finds scope (step b) keys (found · b))
    (given : Option β) :
    SchemaM.Finds scope (given.mapM step) (fun a => a.toList.flatMap keys) fun schema a =>
      Option.Rel (found schema) given a := by
  intro before after a indexed covers h
  cases given with
  | none =>
      cases h
      exact ⟨.refl indexed _, .none⟩
  | some b =>
      change (step b >>= fun a => pure (some a)).run before = _ at h
      obtain ⟨found, between, hfound, h⟩ := SchemaM.run_bind_eq_ok_iff.1 h
      cases h
      obtain ⟨grown, hmeans⟩ := hstep b indexed covers hfound
      exact ⟨grown.weaken (by simp), .some hmeans⟩

end SchemaM.Finds

namespace Schema

variable {schema before between after : Schema} {scope : List TypeParam}

/-! ### Type expressions -/

mutual
/-- A type expression of identifiers is looked up to what it means. -/
theorem finds_resolve : (expr : TypeExpr) →
    (∀ name ∈ expr.mentioned, Text.isIdentifier name) →
    SchemaM.Finds scope (resolve scope expr) GenericType.keys fun schema found =>
      schema.Means scope expr found
  | .named name args, hnames => by
      intro before after found indexed covers h
      rw [TypeExpr.mentioned, List.forall_mem_cons] at hnames
      rw [resolve] at h
      by_cases hscope : scope.any (·.name = name)
      · rw [if_pos hscope] at h
        by_cases hargs : args.isEmpty
        · rw [if_pos hargs] at h
          cases h
          simp only [Means]
          exact ⟨.refl indexed _, trivial, List.isEmpty_iff.1 hargs, hscope⟩
        · rw [if_neg hargs] at h
          cases h
      · rw [if_neg hscope] at h
        obtain ⟨base, between, hbase, h⟩ := SchemaM.run_bind_eq_ok_iff.1 h
        obtain ⟨others, last, hothers, h⟩ := SchemaM.run_bind_eq_ok_iff.1 h
        cases h
        obtain ⟨first, hbears⟩ := grown_of_internName indexed hnames.1 hbase
        obtain ⟨second, hmeans⟩ := finds_resolveList args hnames.2 first.indexed
          (covers.mono first.size_le) hothers
        simp only [Means]
        exact ⟨first.trans second, by simpa using hscope, hbears.of_isPrefix second.heads_isPrefix,
          hmeans⟩
  | .array component, hnames => by
      intro before after found indexed covers h
      rw [resolve] at h
      obtain ⟨found, between, hcomponent, h⟩ := SchemaM.run_bind_eq_ok_iff.1 h
      obtain ⟨erased, last, harray, h⟩ := SchemaM.run_bind_eq_ok_iff.1 h
      cases h
      obtain ⟨first, hmeans⟩ := finds_resolve component (by rwa [TypeExpr.mentioned] at hnames)
        indexed covers hcomponent
      -- The array type is that of a type that is there: all keys of the component are.
      obtain ⟨second, herased⟩ := grown_of_internArray first.indexed
        (eraseIn_lt first.indexed (covers.mono first.size_le) (hmeans.lt component found)) harray
      simp only [Means]
      exact ⟨first.trans second, hmeans.of_isPrefix second.heads_isPrefix component found, herased⟩

theorem finds_resolveList : (exprs : List TypeExpr) →
    (∀ name ∈ TypeExpr.mentionedIn exprs, Text.isIdentifier name) →
    SchemaM.Finds scope (resolveList scope exprs) GenericType.keysIn fun schema found =>
      schema.MeansEach scope exprs found
  | [], _ => by
      intro before after found indexed _ h
      rw [resolveList] at h
      cases h
      simp only [MeansEach]
      exact ⟨.refl indexed _, trivial⟩
  | expr :: rest, hnames => by
      intro before after found indexed covers h
      rw [TypeExpr.mentionedIn, List.forall_mem_append] at hnames
      rw [resolveList] at h
      obtain ⟨first, between, hfirst, h⟩ := SchemaM.run_bind_eq_ok_iff.1 h
      obtain ⟨others, last, hothers, h⟩ := SchemaM.run_bind_eq_ok_iff.1 h
      cases h
      obtain ⟨grown, hmeans⟩ := finds_resolve expr hnames.1 indexed covers hfirst
      obtain ⟨further, hothers⟩ := finds_resolveList rest hnames.2 grown.indexed
        (covers.mono grown.size_le) hothers
      simp only [MeansEach]
      exact ⟨grown.trans further, hmeans.of_isPrefix further.heads_isPrefix expr first, hothers⟩
end

theorem finds_resolveText (source : String) :
    SchemaM.Finds scope (resolveText scope source) GenericType.keys fun schema found =>
      schema.MeansText scope source found := by
  intro before after found indexed covers h
  obtain ⟨expr, between, hparse, h⟩ := SchemaM.run_bind_eq_ok_iff.1 h
  obtain ⟨read, hread, hbetween⟩ := Except.bind_eq_ok_iff.1 hparse
  cases hbetween
  obtain ⟨grown, hmeans⟩ := finds_resolve expr (TypeExpr.isIdentifier_of_parse hread) indexed
    covers h
  exact ⟨grown, expr, hread, hmeans⟩

theorem finds_resolveField (declaration : FieldDeclaration) :
    SchemaM.Finds scope (resolveField scope declaration) (fun field => field.declared.keys)
      fun schema field => schema.MeansField scope declaration field := by
  intro before after field indexed covers h
  obtain ⟨declared, between, hdeclared, h⟩ := SchemaM.run_bind_eq_ok_iff.1 h
  cases h
  obtain ⟨grown, hmeans⟩ := finds_resolveText declaration.type indexed covers hdeclared
  exact ⟨grown, declared, hmeans, rfl⟩

theorem finds_resolveMethod (declaration : MethodDeclaration) :
    SchemaM.Finds scope (resolveMethod scope declaration)
      (fun method => method.declared.toList.flatMap GenericType.keys)
      fun schema method => schema.MeansMethod scope declaration method := by
  intro before after method indexed covers h
  obtain ⟨declared, between, hdeclared, h⟩ := SchemaM.run_bind_eq_ok_iff.1 h
  cases h
  obtain ⟨grown, hmeans⟩ := SchemaM.Finds.option_mapM finds_resolveText declaration.type indexed
    covers hdeclared
  exact ⟨grown, declared, hmeans, rfl⟩

/-! ### Declarations -/

theorem MeansParams.covers {done params : List TypeParam}
    {declared : List (String × Option String)} (h : schema.MeansParams done declared params) :
    schema.Covers params :=
  fun param hparam bound hbound => (h.written param hparam bound hbound).2.grounded.1

theorem bound_eq_none_of_pending {name : String} {rest : List (String × Option String)}
    {param : TypeParam}
    (h : param ∈ (⟨name, none⟩ :: rest.map fun param => ⟨param.1, none⟩ : List TypeParam)) :
    param.bound = none := by
  rcases List.mem_cons.1 h with rfl | h
  · rfl
  · obtain ⟨other, -, rfl⟩ := List.mem_map.1 h
    rfl

/-- The parameters after those in `done` are looked up to what they mean. -/
theorem finds_resolveBounds {type : String} {done params : List TypeParam}
    {declared : List (String × Option String)} (indexed : before.Indexed)
    (covers : before.Covers done)
    (h : (resolveBounds type done declared).run before = .ok (params, after)) :
    ∃ others, params = done ++ others ∧ after.MeansParams done declared others ∧
      before.Grown after ((others.filterMap (·.bound)).flatMap GenericType.keys) := by
  induction declared generalizing done before with
  | nil =>
      cases h
      exact ⟨[], by simp, rfl, .refl indexed _⟩
  | cons param rest ih =>
      obtain ⟨name, source⟩ := param
      rw [resolveBounds] at h
      obtain ⟨bound, between, hbound, h⟩ := SchemaM.run_bind_eq_ok_iff.1 h
      by_cases hvariable : bound.any (·.isVariable)
      · rw [if_pos hvariable] at h
        cases h
      · rw [if_neg hvariable] at h
        have hscope : before.Covers
            (done ++ ⟨name, none⟩ :: rest.map fun param => ⟨param.1, none⟩) :=
          List.forall_mem_append.2 ⟨covers, fun param hparam bound hbound => by
            rw [bound_eq_none_of_pending hparam] at hbound
            cases hbound⟩
        obtain ⟨first, hmeans⟩ :=
          SchemaM.Finds.option_mapM (fun source => finds_resolveText source) source indexed hscope
            hbound
        -- The next bound is looked up where this parameter has its own.
        have hdone : between.Covers (done ++ [⟨name, bound⟩]) := by
          refine List.forall_mem_append.2 ⟨covers.mono first.size_le,
            List.forall_mem_singleton.2 fun found hfound => ?_⟩
          rw [show bound = some found from hfound] at hmeans
          cases hmeans with
          | some hmeans => exact hmeans.grounded.1
        obtain ⟨others, rfl, hothers, second⟩ := ih first.indexed hdone h
        refine ⟨⟨name, bound⟩ :: others, by simp, ⟨bound, others, rfl,
          rel_meansText_of_isPrefix second.heads_isPrefix hmeans, by simpa using hvariable,
          hothers⟩, ?_⟩
        refine (first.trans second).weaken ?_
        cases bound <;> simp

/-- A declaration is looked up to what it means, and all that is added is referred to by it. -/
theorem grown_of_resolveBody {declaration : TypeDeclaration} {body : TypeBody}
    (indexed : before.Indexed) (h : (resolveBody declaration).run before = .ok (body, after)) :
    before.Grown after body.keys ∧ after.MeansBody declaration body := by
  obtain ⟨params, between₁, hparams, h⟩ := SchemaM.run_bind_eq_ok_iff.1 h
  obtain ⟨superclass, between₂, hsuperclass, h⟩ := SchemaM.run_bind_eq_ok_iff.1 h
  obtain ⟨interfaces, between₃, hinterfaces, h⟩ := SchemaM.run_bind_eq_ok_iff.1 h
  obtain ⟨fields, between₄, hfields, h⟩ := SchemaM.run_bind_eq_ok_iff.1 h
  obtain ⟨methods, between₅, hmethods, h⟩ := SchemaM.run_bind_eq_ok_iff.1 h
  cases h
  obtain ⟨_, rfl, hparams, grown₁⟩ := finds_resolveBounds indexed (List.forall_mem_nil _) hparams
  have covers₁ := hparams.covers
  obtain ⟨grown₂, hsuperclass⟩ := SchemaM.Finds.option_mapM finds_resolveText _ grown₁.indexed
    covers₁ hsuperclass
  have covers₂ := covers₁.mono grown₂.size_le
  obtain ⟨grown₃, hinterfaces⟩ := SchemaM.Finds.mapM finds_resolveText
    (fun _ _ hinitial => MeansText.of_isPrefix hinitial) _ grown₂.indexed
    covers₂ hinterfaces
  have covers₃ := covers₂.mono grown₃.size_le
  obtain ⟨grown₄, hfields⟩ := SchemaM.Finds.mapM finds_resolveField
    (fun _ _ hinitial => MeansField.of_isPrefix hinitial) _ grown₃.indexed
    covers₃ hfields
  have covers₄ := covers₃.mono grown₄.size_le
  obtain ⟨grown₅, hmethods⟩ := SchemaM.Finds.mapM finds_resolveMethod
    (fun _ _ hinitial => MeansMethod.of_isPrefix hinitial) _ grown₄.indexed
    covers₄ hmethods
  -- What each part means, it means in the schema that the last part leaves.
  have hlast := grown₅.heads_isPrefix
  have hfourth := grown₄.heads_isPrefix.trans hlast
  have hthird := grown₃.heads_isPrefix.trans hfourth
  have hsecond := grown₂.heads_isPrefix.trans hthird
  refine ⟨((((grown₁.trans grown₂).trans grown₃).trans grown₄).trans grown₅).weaken ?_, ?_⟩
  · intro key hkey
    simp only [TypeBody.keys, TypeBody.declaredTypes, List.mem_flatMap, List.mem_append,
      List.mem_map, List.mem_filterMap] at hkey ⊢
    grind
  · exact ⟨hparams.of_isPrefix hsecond, rel_meansText_of_isPrefix hthird hsuperclass,
      hinterfaces.imp fun _ _ => MeansText.of_isPrefix hfourth, rfl,
      hfields.imp fun _ _ => MeansField.of_isPrefix hlast, hmethods, rfl⟩

/-! ### Looking up in other schemas -/

theorem any_name_congr {others : List TypeParam}
    (h : others.map (·.name) = scope.map (·.name)) (name : String) :
    others.any (·.name = name) = scope.any (·.name = name) := by
  have hany (params : List TypeParam) :
      params.any (·.name = name) = (params.map (·.name)).any (· = name) := by
    rw [List.any_map]
    rfl
  rw [hany, hany, h]

theorem exists_run_internName (name : String) (before : Schema) :
    ∃ key after, (internName name).run before = .ok (key, after) := by
  simp only [run_internName_eq_ok_iff]
  cases before.lookup? name with
  | some found => exact ⟨found, before, .inl ⟨rfl, rfl⟩⟩
  | none => exact ⟨_, _, .inr ⟨rfl, rfl, rfl⟩⟩

theorem exists_run_internArray (component : TypeKey) (before : Schema) :
    ∃ key after, (internArray component).run before = .ok (key, after) := by
  simp only [run_internArray_eq_ok_iff]
  cases before.arrayOf? component with
  | some found => exact ⟨found, before, .inl ⟨rfl, rfl⟩⟩
  | none => exact ⟨_, _, .inr ⟨rfl, rfl, rfl⟩⟩

section

variable {others : List TypeParam} (hscope : others.map (·.name) = scope.map (·.name))

mutual
/-- What means something can be looked up in every schema, to a variable if it means one. -/
theorem Means.exists_run (hscope : others.map (·.name) = scope.map (·.name)) :
    (expr : TypeExpr) → (found : GenericType) → schema.Means scope expr found →
    ∀ before, ∃ declared after, (resolve others expr).run before = .ok (declared, after) ∧
      declared.isVariable = found.isVariable
  | .named name args, .var used, h => by
      intro before
      rw [Means] at h
      obtain ⟨rfl, rfl, hname⟩ := h
      refine ⟨.var used, before, ?_, rfl⟩
      rw [resolve, any_name_congr hscope, if_pos hname]
      rfl
  | .named name args, .applied base found, h => by
      intro before
      rw [Means] at h
      obtain ⟨base, between, hbase⟩ := exists_run_internName name before
      obtain ⟨declared, after, hargs⟩ := MeansEach.exists_run hscope args found h.2.2 between
      refine ⟨.applied base declared, after, ?_, rfl⟩
      rw [resolve, any_name_congr hscope, if_neg (by simp [h.1])]
      exact SchemaM.run_bind_eq_ok_iff.2
        ⟨_, _, hbase, SchemaM.run_bind_eq_ok_iff.2 ⟨_, _, hargs, rfl⟩⟩
  | .array component, .array found erased, h => by
      intro before
      rw [Means] at h
      obtain ⟨declared, between, hcomponent, -⟩ :=
        Means.exists_run hscope component found h.1 before
      obtain ⟨erased, after, harray⟩ := exists_run_internArray (eraseIn others declared) between
      refine ⟨.array declared erased, after, ?_, rfl⟩
      rw [resolve]
      exact SchemaM.run_bind_eq_ok_iff.2
        ⟨_, _, hcomponent, SchemaM.run_bind_eq_ok_iff.2 ⟨_, _, harray, rfl⟩⟩
  | .named .., .array .., h | .array _, .applied .., h | .array _, .var _, h => by simp [Means] at h

theorem MeansEach.exists_run (hscope : others.map (·.name) = scope.map (·.name)) :
    (exprs : List TypeExpr) → (found : List GenericType) → schema.MeansEach scope exprs found →
    ∀ before, ∃ declared after, (resolveList others exprs).run before = .ok (declared, after)
  | [], [], _ => fun before => ⟨[], before, by rw [resolveList]; rfl⟩
  | expr :: exprs, found :: rest, h => by
      intro before
      rw [MeansEach] at h
      obtain ⟨declared, between, hfirst, -⟩ := Means.exists_run hscope expr found h.1 before
      obtain ⟨remaining, after, hrest⟩ := MeansEach.exists_run hscope exprs rest h.2 between
      refine ⟨declared :: remaining, after, ?_⟩
      rw [resolveList]
      exact SchemaM.run_bind_eq_ok_iff.2
        ⟨_, _, hfirst, SchemaM.run_bind_eq_ok_iff.2 ⟨_, _, hrest, rfl⟩⟩
  | [], _ :: _, h | _ :: _, [], h => by simp [MeansEach] at h
end

include hscope

theorem MeansText.exists_run {source : String} {found : GenericType}
    (h : schema.MeansText scope source found) (before : Schema) :
    ∃ declared after, (resolveText others source).run before = .ok (declared, after) ∧
      declared.isVariable = found.isVariable := by
  obtain ⟨expr, hparse, hmeans⟩ := h
  obtain ⟨declared, after, hrun, hvariable⟩ := hmeans.exists_run hscope expr found before
  refine ⟨declared, after, SchemaM.run_bind_eq_ok_iff.2 ⟨expr, before, ?_, hrun⟩, hvariable⟩
  rw [hparse]
  rfl

theorem exists_run_option_mapM {source : Option String} {found : Option GenericType}
    (h : Option.Rel (schema.MeansText scope) source found) (before : Schema) :
    ∃ declared after, (source.mapM (resolveText others)).run before = .ok (declared, after) ∧
      declared.any (·.isVariable) = found.any (·.isVariable) := by
  cases h with
  | none => exact ⟨none, before, rfl, rfl⟩
  | @some source found h =>
      obtain ⟨declared, after, hrun, hvariable⟩ := h.exists_run hscope before
      refine ⟨some declared, after, ?_, hvariable⟩
      change (resolveText others source >>= fun a => pure (some a)).run before = _
      exact SchemaM.run_bind_eq_ok_iff.2 ⟨_, _, hrun, rfl⟩

theorem exists_run_resolveField {declaration : FieldDeclaration} {field : DeclaredField}
    (h : schema.MeansField scope declaration field) (before : Schema) :
    ∃ found after, (resolveField others declaration).run before = .ok (found, after) := by
  obtain ⟨declared, hmeans, -⟩ := h
  obtain ⟨found, after, hrun, -⟩ := hmeans.exists_run hscope before
  exact ⟨_, _, SchemaM.run_bind_eq_ok_iff.2 ⟨found, after, hrun, rfl⟩⟩

theorem exists_run_resolveMethod {declaration : MethodDeclaration} {method : DeclaredMethod}
    (h : schema.MeansMethod scope declaration method) (before : Schema) :
    ∃ found after, (resolveMethod others declaration).run before = .ok (found, after) := by
  obtain ⟨declared, hmeans, -⟩ := h
  obtain ⟨found, after, hrun, -⟩ := exists_run_option_mapM hscope hmeans before
  exact ⟨_, _, SchemaM.run_bind_eq_ok_iff.2 ⟨found, after, hrun, rfl⟩⟩

end

theorem exists_run_mapM {α β γ : Type} {step : α → SchemaM β} {R : α → γ → Prop}
    (hstep : ∀ a c, R a c → ∀ before, ∃ b after, (step a).run before = .ok (b, after))
    {as : List α} {cs : List γ} (h : List.Forall₂ R as cs) (before : Schema) :
    ∃ bs after, (as.mapM step).run before = .ok (bs, after) := by
  induction h generalizing before with
  | nil => exact ⟨[], before, rfl⟩
  | @cons a c as cs hac _ ih =>
      obtain ⟨b, between, hfirst⟩ := hstep a c hac before
      obtain ⟨bs, after, hrest⟩ := ih between
      refine ⟨b :: bs, after, ?_⟩
      rw [List.mapM_cons]
      exact SchemaM.run_bind_eq_ok_iff.2
        ⟨_, _, hfirst, SchemaM.run_bind_eq_ok_iff.2 ⟨_, _, hrest, rfl⟩⟩

theorem MeansParams.exists_run {done params : List TypeParam}
    {declared : List (String × Option String)} (h : schema.MeansParams done declared params)
    (type : String) (scope : List TypeParam) (hscope : scope.map (·.name) = done.map (·.name))
    (before : Schema) :
    ∃ found after, (resolveBounds type scope declared).run before = .ok (found, after) := by
  induction declared generalizing done scope params before with
  | nil => exact ⟨scope, before, rfl⟩
  | cons param rest ih =>
      obtain ⟨name, source⟩ := param
      obtain ⟨bound, others, rfl, hbound, hvariable, hothers⟩ := h
      let pending : List TypeParam := ⟨name, none⟩ :: rest.map fun param => ⟨param.1, none⟩
      have hpending : (scope ++ pending).map (·.name) = (done ++ pending).map (·.name) := by
        rw [List.map_append, List.map_append, hscope]
      obtain ⟨found, between, hrun, hsame⟩ := exists_run_option_mapM hpending hbound before
      obtain ⟨params, after, hrest⟩ := ih hothers (scope ++ [⟨name, found⟩]) (by simp [hscope])
        between
      refine ⟨params, after, ?_⟩
      rw [resolveBounds]
      refine SchemaM.run_bind_eq_ok_iff.2 ⟨_, _, hrun, ?_⟩
      rw [if_neg (by simp [hsame, hvariable])]
      exact hrest

/-- A declaration that means something in a schema can be looked up in every schema. -/
theorem MeansBody.exists_run {declaration : TypeDeclaration} {body : TypeBody}
    (h : schema.MeansBody declaration body) (before : Schema) :
    ∃ found after, (resolveBody declaration).run before = .ok (found, after) := by
  obtain ⟨params, between₁, hparams⟩ :=
    h.params.exists_run declaration.name [] rfl before
  have hscope : params.map (·.name) = body.params.map (·.name) := by
    rw [names_of_resolveBounds hparams, h.params.names]
    rfl
  -- The bounds may be found under other keys, so the scope is the same only by its names.
  obtain ⟨superclass, between₂, hsuperclass, -⟩ :=
    exists_run_option_mapM hscope h.superclass between₁
  obtain ⟨interfaces, between₃, hinterfaces⟩ := exists_run_mapM
    (fun _ _ hmeans before => (hmeans.exists_run hscope before).imp fun _ => .imp fun _ => And.left)
    h.interfaces between₂
  obtain ⟨fields, between₄, hfields⟩ := exists_run_mapM
    (fun _ _ hmeans => exists_run_resolveField hscope hmeans) h.fields between₃
  obtain ⟨methods, after, hmethods⟩ := exists_run_mapM
    (fun _ _ hmeans => exists_run_resolveMethod hscope hmeans) h.methods between₄
  exact ⟨_, _, SchemaM.run_bind_eq_ok_iff.2 ⟨_, _, hparams,
    SchemaM.run_bind_eq_ok_iff.2 ⟨_, _, hsuperclass,
    SchemaM.run_bind_eq_ok_iff.2 ⟨_, _, hinterfaces,
    SchemaM.run_bind_eq_ok_iff.2 ⟨_, _, hfields,
    SchemaM.run_bind_eq_ok_iff.2 ⟨_, _, hmethods, rfl⟩⟩⟩⟩⟩⟩

end Schema

end ObjectDocument
