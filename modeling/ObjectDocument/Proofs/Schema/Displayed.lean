import ObjectDocument.Proofs.Lineage.Bindings
import ObjectDocument.Proofs.Schema.Spelled

/-!
# Descriptors read back

The text of a descriptor is a type expression again.  A type expression spells a descriptor if it is
written as the descriptor is displayed, and what it means is described by the descriptor
(`Schema.Spells`).  A descriptor without arguments is spelled as its base type is, and one with
arguments by the name of its base type and by what spells the arguments.

The descriptors that members have are of these, whether a member is described as it is declared, or
a variable is replaced by what it stands for: a variable stands for an argument that some superclass
is given, so this too is what some type expression means.  As types that are spelled are read back
without a type being added, different descriptors are displayed differently
(`Declarations.descriptors_read_back`).
-/

namespace ObjectDocument

open TypeDescriptor in
/-- The descriptors of members of a schema: that of a declared type as of any owner, and the one
that a lineage gives in its place. -/
inductive Schema.MemberDescriptor (schema : Schema) : TypeDescriptor → Prop where
  | declared {node : TypeNode} {declared : GenericType} (owner : TypeKey)
      (hnode : node ∈ schema.nodes) (hdeclared : declared ∈ node.declaredTypes) :
      MemberDescriptor schema (describe schema owner declared)
  | inherited {node member : TypeNode} {declared : GenericType} (declaring : TypeKey)
      (hnode : node ∈ schema.nodes) (hmember : member ∈ schema.nodes)
      (hdeclared : declared ∈ member.declaredTypes) :
      MemberDescriptor schema ((Lineage.ofNode schema node).memberType schema declaring
        (describe schema declaring declared) declared)

namespace Schema

variable {schema : Schema} {types : List TypeDeclaration} {scope : List TypeParam}
  {key base child ancestor declaring : TypeKey} {name : String} {node : TypeNode}
  {args : List GenericType} {binding result : GenericType}

/-- A type expression of identifiers that is written as a descriptor is displayed, and of which what
it means is described by the descriptor, whatever the owner. -/
structure Spells (schema : Schema) (expr : TypeExpr) (found : GenericType)
    (descriptor : TypeDescriptor) : Prop where
  names : ∀ name ∈ expr.mentioned, Text.isIdentifier name
  chars : expr.chars = (descriptor.text schema).toList
  means : schema.Means [] expr found
  describes : ∀ owner, TypeDescriptor.describe schema owner found = descriptor

structure SpellsEach (schema : Schema) (exprs : List TypeExpr) (found : List GenericType)
    (descriptors : List TypeDescriptor) : Prop where
  names : ∀ name ∈ TypeExpr.mentionedIn exprs, Text.isIdentifier name
  chars : TypeExpr.charsAfter exprs = (TypeDescriptor.textAfter schema descriptors).toList
  means : schema.MeansEach [] exprs found
  describes : ∀ owner, TypeDescriptor.describeList schema owner found = descriptors

def Spelled (schema : Schema) (descriptor : TypeDescriptor) : Prop :=
  ∃ expr found, schema.Spells expr found descriptor

/-! ### Spelling a descriptor -/

theorem exists_spellsEach {descriptors : List TypeDescriptor}
    (h : ∀ descriptor ∈ descriptors, schema.Spelled descriptor) :
    ∃ exprs found, schema.SpellsEach exprs found descriptors := by
  induction descriptors with
  | nil =>
      refine ⟨[], [], ?_, rfl, ?_, fun _ => rfl⟩
      · rw [TypeExpr.mentionedIn]
        exact List.forall_mem_nil _
      · rw [MeansEach]
        trivial
  | cons descriptor descriptors ih =>
      obtain ⟨⟨expr, found, spells⟩, hrest⟩ := List.forall_mem_cons.1 h
      obtain ⟨exprs, others, each⟩ := ih hrest
      refine ⟨expr :: exprs, found :: others, ?_, ?_, ?_, fun owner => ?_⟩
      · rw [TypeExpr.mentionedIn]
        exact List.forall_mem_append.2 ⟨spells.names, each.names⟩
      · rw [TypeExpr.charsAfter, spells.chars, each.chars, TypeDescriptor.textAfter]
        simp
      · rw [MeansEach]
        exact ⟨spells.means, each.means⟩
      · rw [TypeDescriptor.describeList, spells.describes, each.describes]

/-- A base type with a name is spelled by it, with what spells the arguments. -/
theorem Bears.spelled {params : List TypeDescriptor} (h : schema.Bears base name)
    (hname : Text.isIdentifier name) (hboxed : schema.boxed base = base)
    (hparams : ∀ param ∈ params, schema.Spelled param) : schema.Spelled (.mk base params) := by
  cases params with
  | nil =>
      have spells := h.spellsKey hname
      refine ⟨_, _, spells.names, spells.chars, spells.means, fun owner => ?_⟩
      rw [spells.describes, TypeDescriptor.build, hboxed]
  | cons param params =>
      obtain ⟨⟨expr, found, spells⟩, hrest⟩ := List.forall_mem_cons.1 hparams
      obtain ⟨exprs, others, each⟩ := exists_spellsEach hrest
      refine ⟨.named name (expr :: exprs), .applied base (found :: others), ?_, ?_, ?_,
        fun owner => ?_⟩
      · rw [TypeExpr.mentioned, TypeExpr.mentionedIn]
        exact List.forall_mem_cons.2 ⟨hname, List.forall_mem_append.2 ⟨spells.names, each.names⟩⟩
      · rw [TypeExpr.chars, spells.chars, each.chars, TypeDescriptor.text, h.name_eq]
        simp
      · rw [Means, MeansEach]
        exact ⟨rfl, h, spells.means, each.means⟩
      · rw [TypeDescriptor.describe, TypeDescriptor.describeList, spells.describes, each.describes,
          TypeDescriptor.build, hboxed]

theorem Populated.covers_paramsOf (populated : Populated types types.length schema)
    (owner : TypeKey) : schema.Covers (schema.paramsOf owner) := by
  intro param hparam bound hbound
  cases hnode : schema.node? owner with
  | none =>
      rw [paramsOf, hnode] at hparam
      cases hparam
  | some node =>
      rw [paramsOf, hnode] at hparam
      refine ((populated.grounded hnode).1 bound ?_).1
      simp only [TypeBody.declaredTypes, List.mem_append, List.mem_filterMap]
      exact .inl (.inl (.inl (.inl ⟨param, hparam, hbound⟩)))

theorem Populated.boxed_cases (populated : Populated types types.length schema) (key : TypeKey) :
    schema.boxed key = key ∨ (schema.boxed key).index < builtins.size := by
  cases hkind : schema.kind? key with
  | none => exact .inl (by rw [boxed, hkind])
  | some kind =>
  cases kind with
  | primitive scalar =>
      obtain ⟨node, hnode, hprimitive⟩ := Option.map_eq_some_iff.1 hkind
      refine .inr ?_
      rw [boxed, hkind]
      rcases populated.node?_cases hnode with ⟨-, hbuiltin⟩ |
        ⟨place, declaration, body, -, -, rfl, -⟩ | ⟨-, -, hadded, -⟩
      · refine (builtin_of_node? hbuiltin).1 scalar ?_
        rw [hprimitive]
        exact List.mem_singleton_self scalar
      · have hdeclared : declaration.kind.typeKind = .primitive scalar := hprimitive
        cases hcase : declaration.kind <;> rw [hcase] at hdeclared <;> cases hdeclared
      · rw [hprimitive] at hadded
        rcases hadded with hadded | ⟨component, hadded⟩ <;> cases hadded
  | _ => exact .inl (by rw [boxed, hkind])

/-! ### Variables -/

theorem MeansEach.exists_means {exprs : List TypeExpr} {found : List GenericType}
    (h : schema.MeansEach scope exprs found) :
    ∀ arg ∈ found, ∃ expr, schema.Means scope expr arg := by
  induction found generalizing exprs with
  | nil => exact List.forall_mem_nil _
  | cons arg found ih =>
      cases exprs with
      | nil => simp [MeansEach] at h
      | cons expr exprs =>
          rw [MeansEach] at h
          exact List.forall_mem_cons.2 ⟨⟨expr, h.1⟩, ih h.2⟩

theorem StandsFor.exists_declared (h : schema.StandsFor key ancestor name result) :
    ∃ child base args, schema.declaredSuperclass? child = some (.applied base args) ∧
      result ∈ args := by
  have hmem {base : TypeKey} {args : List GenericType} {name : String} {arg : GenericType}
      (passes : schema.Passes base args name arg) : arg ∈ args := by
    obtain ⟨before, after, hzip, -⟩ := passes
    have hentry : (name, arg) ∈ ((schema.paramsOf base).map (·.name)).zip args := by
      rw [hzip]
      simp
    exact (List.of_mem_zip hentry).2
  induction h with
  | given reaches passes _ => exact ⟨_, _, _, reaches.declared, hmem passes⟩
  | bound _ _ _ ih => exact ih
  | free reaches passes _ => exact ⟨_, _, _, reaches.declared, hmem passes⟩

/-- What a lineage finds for a variable is what it stands for. -/
theorem standsFor_of_resolveVariable? (coherent : schema.Coherent)
    (h : (Lineage.ofNode schema node).resolveVariable? declaring name = some binding) :
    schema.StandsFor node.key declaring name binding := by
  obtain ⟨bindings, hlookup, hget⟩ := Option.bind_eq_some_iff.1 h
  obtain ⟨before, after, hframes, -⟩ := List.lookup_eq_some_iff.1 hlookup
  obtain ⟨top, rises⟩ := (coherent.walksEnd.bindings node.key).exists_rises
  have hframe : (declaring, bindings) ∈ (schema.directBindings schema.size node.key).propagate := by
    change (declaring, bindings) ∈ (Lineage.ofNode schema node).parameterization
    rw [hframes]
    simp
  obtain ⟨hnodup, -, hstands⟩ := rises.mem_propagate coherent hframe
  exact (hstands name binding).1 ((OrderedMap.mem_iff_get?_eq_some hnodup).2 hget)

/-- What a lineage finds for a variable is what some type expression means. -/
theorem Populated.exists_means_binding (populated : Populated types types.length schema)
    (coherent : schema.Coherent)
    (h : (Lineage.ofNode schema node).resolveVariable? declaring name = some binding) :
    ∃ scope expr, schema.Means scope expr binding := by
  obtain ⟨child, base, args, hdeclared, hmem⟩ :=
    (standsFor_of_resolveVariable? coherent h).exists_declared
  obtain ⟨owner, howner, hsuperclass⟩ := Option.bind_eq_some_iff.1 hdeclared
  obtain ⟨scope, source, -, expr, -, hmeans⟩ := (populated.written howner).1 _
    (TypeBody.superclass_mem_declaredTypes hsuperclass)
  cases expr with
  | array component => simp [Means] at hmeans
  | named name exprs =>
      rw [Means] at hmeans
      obtain ⟨expr, hmeans⟩ := hmeans.2.2.exists_means binding hmem
      exact ⟨scope, expr, hmeans⟩

/-! ### Members -/

/-- A schema that is populated by declared types with identifiers for names. -/
structure Spellable (types : List TypeDeclaration) (schema : Schema) : Prop where
  populated : Populated types types.length schema
  names : ∀ declaration ∈ types, Text.isIdentifier declaration.name
  boxed_boxed : ∀ key, schema.boxed (schema.boxed key) = schema.boxed key

namespace Spellable

theorem spelled_build (spellable : Spellable types schema) (hlt : key.index < schema.size) :
    schema.Spelled (.build schema key []) := by
  have hscalar : (schema.boxed key).index < schema.size := by
    rcases spellable.populated.boxed_cases key with heq | hbuiltin
    · rwa [heq]
    · exact spellable.populated.lt_of_builtin hbuiltin
  obtain ⟨expr, found, spells⟩ := spellable.populated.exists_spellsKey spellable.names hscalar
  refine ⟨expr, found, spells.names, spells.chars, spells.means, fun owner => ?_⟩
  rw [spells.describes, TypeDescriptor.build, TypeDescriptor.build, spellable.boxed_boxed]

theorem spelled_build_of_bears (spellable : Spellable types schema) {params : List TypeDescriptor}
    (hbears : schema.Bears base name) (hparams : ∀ param ∈ params, schema.Spelled param) :
    schema.Spelled (.build schema base params) := by
  obtain ⟨found, hfound⟩ : ∃ found, schema.Bears (schema.boxed base) found := by
    rcases spellable.populated.boxed_cases base with heq | hbuiltin
    · exact ⟨name, heq.symm ▸ hbears⟩
    · exact ⟨_, bears_name (spellable.populated.lt_of_builtin hbuiltin)
        (spellable.populated.componentOf?_builtin hbuiltin)⟩
  exact hfound.spelled (spellable.populated.isIdentifier_of_bears spellable.names hfound)
    (spellable.boxed_boxed base) hparams

theorem spelled_erasure (spellable : Spellable types schema) (owner : TypeKey)
    {found : GenericType} (hfound : ∀ key ∈ found.keys, key.index < schema.size) :
    schema.Spelled (.build schema (schema.erasure owner found) []) :=
  spellable.spelled_build (eraseIn_lt spellable.populated.indexed
    (spellable.populated.covers_paramsOf owner) hfound)

mutual
/-- The descriptor of what a type expression means is spelled. -/
theorem spelled_of_means (spellable : Spellable types schema) (owner : TypeKey) :
    (expr : TypeExpr) → (found : GenericType) → schema.Means scope expr found →
      schema.Spelled (.describe schema owner found)
  | .named name args, .var used, h => by
      rw [TypeDescriptor.describe]
      exact spellable.spelled_erasure owner (Means.lt _ _ h)
  | .named name args, .applied base found, h => by
      rw [Means] at h
      rw [TypeDescriptor.describe]
      exact spellable.spelled_build_of_bears h.2.1
        (spelled_of_meansEach spellable owner args found h.2.2)
  | .array component, .array found erased, h => by
      rw [TypeDescriptor.describe]
      exact spellable.spelled_erasure owner (Means.lt _ _ h)
  | .named .., .array .., h | .array _, .applied .., h | .array _, .var _, h => by simp [Means] at h

theorem spelled_of_meansEach (spellable : Spellable types schema) (owner : TypeKey) :
    (exprs : List TypeExpr) → (found : List GenericType) → schema.MeansEach scope exprs found →
      ∀ descriptor ∈ TypeDescriptor.describeList schema owner found, schema.Spelled descriptor
  | [], [], _ => by
      rw [TypeDescriptor.describeList]
      exact List.forall_mem_nil _
  | expr :: exprs, found :: others, h => by
      rw [MeansEach] at h
      rw [TypeDescriptor.describeList]
      exact List.forall_mem_cons.2 ⟨spelled_of_means spellable owner expr found h.1,
        spelled_of_meansEach spellable owner exprs others h.2⟩
  | [], _ :: _, h | _ :: _, [], h => by simp [MeansEach] at h
end

theorem spelled_of_declared (spellable : Spellable types schema) (owner : TypeKey)
    {declared : GenericType} (hnode : node ∈ schema.nodes)
    (hdeclared : declared ∈ node.declaredTypes) :
    schema.Spelled (.describe schema owner declared) := by
  obtain ⟨place, hplace⟩ := List.mem_iff_getElem?.1 hnode
  have hfound : schema.node? ⟨place⟩ = some node := hplace
  obtain ⟨scope, source, -, expr, -, hmeans⟩ :=
    (spellable.populated.written hfound).1 declared hdeclared
  exact spellable.spelled_of_means owner expr declared hmeans

theorem spelled_of_member (spellable : Spellable types schema) (coherent : schema.Coherent)
    {descriptor : TypeDescriptor} (member : schema.MemberDescriptor descriptor) :
    schema.Spelled descriptor := by
  cases member with
  | declared owner hnode hdeclared => exact spellable.spelled_of_declared owner hnode hdeclared
  | @inherited node member declared declaring hnode hmember hdeclared =>
      have hsuggested := spellable.spelled_of_declared declaring hmember hdeclared
      rw [Lineage.memberType]
      cases hbinding : declared.variableName?.bind
        ((Lineage.ofNode schema node).resolveVariable? declaring) with
      | none => exact hsuggested
      | some binding =>
          obtain ⟨used, hused, hresolved⟩ := Option.bind_eq_some_iff.1 hbinding
          obtain ⟨scope, expr, hmeans⟩ :=
            spellable.populated.exists_means_binding coherent hresolved
          have hlt := Means.lt expr binding hmeans
          -- The descriptor of a variable has no arguments, so none are left with the new base.
          obtain rfl : declared = .var used := by
            cases declared <;> simp_all [GenericType.variableName?]
          cases binding with
          | var other => exact hsuggested
          | array component erased =>
              exact spellable.spelled_build (hlt erased (by simp [GenericType.keys]))
          | applied base args =>
              cases args with
              | nil => exact spellable.spelled_build (hlt base (by simp [GenericType.keys]))
              | cons arg args => exact spellable.spelled_of_means declaring expr _ hmeans

end Spellable

/-- A descriptor that is spelled reads back from its text, and no type is added. -/
theorem Spelled.reads_back {descriptor : TypeDescriptor} (indexed : schema.Indexed)
    (spelled : schema.Spelled descriptor) :
    ∃ expr found, TypeExpr.parse (descriptor.text schema) = .ok expr ∧
      (resolve [] expr).run schema = .ok (found, schema) ∧
      ∀ owner, TypeDescriptor.describe schema owner found = descriptor := by
  obtain ⟨expr, found, spells⟩ := spelled
  have htext : expr.text = descriptor.text schema := by
    rw [TypeExpr.text, spells.chars, String.ofList_toList]
  refine ⟨expr, found, htext ▸ TypeExpr.parse_text spells.names, ?_, spells.describes⟩
  exact run_resolve_of_means indexed expr found spells.names spells.means

end Schema

/-- In a schema that was built of declarations with identifiers for names, the descriptor of every
member reads back: its text is a type expression, no type is added when this is looked up where no
type parameter is in scope, and what is found is described by the descriptor, whatever the owner.
So different descriptors of members are displayed differently. -/
theorem Declarations.descriptors_read_back {declarations : Declarations} {schema : Schema}
    (h : declarations.build = .ok schema)
    (hnames : ∀ declaration ∈ declarations.types, Text.isIdentifier declaration.name) :
    (∀ descriptor, schema.MemberDescriptor descriptor →
      ∃ expr found, TypeExpr.parse (descriptor.text schema) = .ok expr ∧
        (Schema.resolve [] expr).run schema = .ok (found, schema) ∧
        ∀ owner, TypeDescriptor.describe schema owner found = descriptor) ∧
    ∀ descriptor other, schema.MemberDescriptor descriptor → schema.MemberDescriptor other →
      descriptor.text schema = other.text schema → descriptor = other := by
  have spellable : Schema.Spellable declarations.types schema :=
    ⟨Schema.populated_of_ofTypes (ofTypes_of_build h), hnames, boxed_boxed h⟩
  have reads {descriptor : TypeDescriptor} (member : schema.MemberDescriptor descriptor) :=
    (spellable.spelled_of_member (coherent h) member).reads_back spellable.populated.indexed
  refine ⟨fun _ member => reads member, fun descriptor other member member' htext => ?_⟩
  obtain ⟨expr, found, hparse, hresolve, hdescribe⟩ := reads member
  obtain ⟨expr', found', hparse', hresolve', hdescribe'⟩ := reads member'
  rw [htext, hparse'] at hparse
  cases hparse
  rw [hresolve'] at hresolve
  cases hresolve
  rw [← hdescribe .object, hdescribe']

def Declarations.holder : Declarations :=
  .ofList [
    { name := "Holder", params := [("T", none)], fields := [
      { name := "value", type := "T" }, { name := "grid", type := "[[i32]]" }] },
    { name := "Entry", superclass := some "Holder<Map<String, [i64]>>" }]

/-- The value that is inherited reads back as a map, and the grid as an array of arrays. -/
theorem Declarations.descriptors_read_back_holder :
    let schema := holder.schema
    ∀ text ∈ ["Map<String, [i64]>", "[[i32]]"], ∃ descriptor expr found,
      schema.MemberDescriptor descriptor ∧ descriptor.text schema = text ∧
      TypeExpr.parse text = .ok expr ∧ (Schema.resolve [] expr).run schema = .ok (found, schema) ∧
      ∀ owner, TypeDescriptor.describe schema owner found = descriptor := by
  intro schema
  have hmembers : (schema.node? ⟨25⟩).any fun holder => (schema.node? ⟨26⟩).any fun entry =>
      (holder.declaredTypes.any fun declared =>
        ((Lineage.ofNode schema entry).memberType schema ⟨25⟩
          (.describe schema ⟨25⟩ declared) declared).text schema = "Map<String, [i64]>") &&
      holder.declaredTypes.any fun declared =>
        (TypeDescriptor.describe schema ⟨25⟩ declared).text schema = "[[i32]]" := by
    decide +kernel
  obtain ⟨holder, hholder, h⟩ := (Option.any_eq_true _ _).1 hmembers
  obtain ⟨entry, hentry, h⟩ := (Option.any_eq_true _ _).1 h
  simp only [Bool.and_eq_true, List.any_eq_true, decide_eq_true_eq] at h
  obtain ⟨⟨value, hvalue, hmap⟩, grid, hgrid, harray⟩ := h
  have hreads := (descriptors_read_back (build_eq_schema (by decide +kernel))
    (by decide +kernel : ∀ declaration ∈ Declarations.holder.types,
      Text.isIdentifier declaration.name)).1
  have hmember : schema.MemberDescriptor _ := .inherited ⟨25⟩ (List.mem_of_getElem? hentry)
    (List.mem_of_getElem? hholder) hvalue
  have hown : schema.MemberDescriptor _ := .declared ⟨25⟩ (List.mem_of_getElem? hholder) hgrid
  refine List.forall_mem_cons.2 ⟨?_, List.forall_mem_singleton.2 ?_⟩
  · obtain ⟨expr, found, hparse, hresolve, hdescribe⟩ := hreads _ hmember
    exact ⟨_, expr, found, hmember, hmap, hmap ▸ hparse, hresolve, hdescribe⟩
  · obtain ⟨expr, found, hparse, hresolve, hdescribe⟩ := hreads _ hown
    exact ⟨_, expr, found, hown, harray, harray ▸ hparse, hresolve, hdescribe⟩

end ObjectDocument
