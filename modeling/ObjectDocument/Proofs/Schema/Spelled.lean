import ObjectDocument.Proofs.Schema.Closed
import ObjectDocument.Proofs.TypeExpr.Printing

/-!
# Types that are spelled out

Once a schema is built, what is in it can be written again.  A type expression that means something
there is looked up to what it means, and adds nothing (`run_resolve_of_means`).  A type that is no
array is spelled by its name, and an array in brackets around its component, which is added before
it: so every type is what some type expression means, by induction on its key, and the type
expression is written as the type is named (`Populated.exists_spelling`).

All this takes names that are identifiers.  Names that nothing declares are, because they were read
from a text, so those of declared types are all that is asked for.
-/

namespace ObjectDocument.Schema

variable {schema : Schema} {types : List TypeDeclaration} {scope : List TypeParam}
  {key component : TypeKey} {name : String} {node : TypeNode}

/-! ### Names -/

theorem bears_name (hlt : key.index < schema.size) (h : schema.componentOf? key = none) :
    schema.Bears key (schema.name key) := by
  obtain ⟨node, hnode⟩ := exists_node_of_lt hlt
  have hbears := bears_of_node? hnode ((componentOf?_of_node? hnode).symm.trans h)
  rwa [hbears.name_eq]

mutual
/-- A name of a type that a declared type refers to is mentioned where the declared type is. -/
theorem Means.mem_mentioned : (expr : TypeExpr) → (found : GenericType) →
    schema.Means scope expr found → ∀ key ∈ found.keys, ∀ name, schema.Bears key name →
      name ∈ expr.mentioned
  | .named name args, .var used, _ => by
      rw [GenericType.keys]
      exact List.forall_mem_nil _
  | .named name args, .applied base found, h => by
      rw [Means] at h
      rw [GenericType.keys, TypeExpr.mentioned]
      refine List.forall_mem_cons.2 ⟨fun other hbears => ?_, fun key hkey other hbears => ?_⟩
      · rw [← hbears.name_eq, h.2.1.name_eq]
        exact List.mem_cons_self
      · exact List.mem_cons_of_mem _
          (MeansEach.mem_mentioned args found h.2.2 key hkey other hbears)
  | .array component, .array found erased, h => by
      rw [Means] at h
      rw [GenericType.keys, TypeExpr.mentioned]
      refine List.forall_mem_append.2 ⟨Means.mem_mentioned component found h.1, ?_⟩
      refine List.forall_mem_singleton.2 fun other hbears => ?_
      rw [hbears.componentOf?_eq_none] at h
      cases h.2
  | .named .., .array .., h | .array _, .applied .., h | .array _, .var _, h => by simp [Means] at h

theorem MeansEach.mem_mentioned : (exprs : List TypeExpr) → (found : List GenericType) →
    schema.MeansEach scope exprs found → ∀ key ∈ GenericType.keysIn found, ∀ name,
      schema.Bears key name → name ∈ TypeExpr.mentionedIn exprs
  | [], [], _ => by
      rw [GenericType.keysIn]
      exact List.forall_mem_nil _
  | expr :: exprs, found :: others, h => by
      rw [MeansEach] at h
      rw [GenericType.keysIn, TypeExpr.mentionedIn]
      exact List.forall_mem_append.2
        ⟨fun key hkey name hbears => List.mem_append_left _
          (Means.mem_mentioned expr found h.1 key hkey name hbears),
        fun key hkey name hbears => List.mem_append_right _
          (MeansEach.mem_mentioned exprs others h.2 key hkey name hbears)⟩
  | [], _ :: _, h | _ :: _, [], h => by simp [MeansEach] at h
end

theorem Populated.componentOf?_builtin (populated : Populated types types.length schema)
    (h : key.index < builtins.size) : schema.componentOf? key = none := by
  rw [Schema.componentOf?, kind?, populated.builtin h]
  exact componentOf?_builtins key

/-- A type that is no array is declared, or it bears an identifier. -/
theorem Populated.declared_or_isIdentifier (populated : Populated types types.length schema)
    (h : schema.Bears key name) :
    (∃ place declaration, types[place]? = some declaration ∧ key = declaredKey place ∧
      declaration.name = name) ∨ Text.isIdentifier name := by
  obtain ⟨node, hnode⟩ := exists_node_of_lt h.lt
  have hname : node.name = name := by
    rw [← h.name_eq, Schema.name, hnode]
    rfl
  rcases populated.node?_cases hnode with ⟨-, hbuiltin⟩ |
    ⟨place, declaration, body, hplace, hkey, rfl, -⟩ | ⟨-, -, -, place, -, owner, howner, hkey⟩
  · have hall : ∀ node ∈ builtins.nodes, Text.isIdentifier node.name := by decide +kernel
    exact .inr (hname ▸ hall node (List.mem_of_getElem? hbuiltin))
  · exact .inl ⟨place, declaration, hplace, hkey, hname⟩
  · -- The type was added for a declared type, where its name was read.
    obtain ⟨declared, hdeclared, hkey⟩ := List.mem_flatMap.1 hkey
    obtain ⟨scope, source, -, expr, hparse, hmeans⟩ :=
      (populated.written howner).1 declared hdeclared
    exact .inr (TypeExpr.isIdentifier_of_parse hparse name
      (Means.mem_mentioned expr declared hmeans key hkey name h))

theorem Populated.isIdentifier_of_bears (populated : Populated types types.length schema)
    (hnames : ∀ declaration ∈ types, Text.isIdentifier declaration.name)
    (h : schema.Bears key name) : Text.isIdentifier name := by
  rcases populated.declared_or_isIdentifier h with ⟨place, declaration, hplace, -, rfl⟩ | hname
  · exact hnames declaration (List.mem_of_getElem? hplace)
  · exact hname

/-! ### Looking up what is there -/

theorem run_internName_of_bears (indexed : schema.Indexed) (hname : Text.isIdentifier name)
    (h : schema.Bears key name) : (internName name).run schema = .ok (key, schema) := by
  refine run_internName_eq_ok_iff.2 (.inl ⟨?_, rfl⟩)
  cases hlookup : schema.lookup? name with
  | none => exact absurd h (not_bears_of_lookup? hlookup)
  | some other => rw [indexed.named (bears_of_lookup? indexed hname hlookup) h]

theorem run_internArray_of_componentOf? (indexed : schema.Indexed)
    (h : schema.componentOf? key = some component) :
    (internArray component).run schema = .ok (key, schema) :=
  run_internArray_eq_ok_iff.2 (.inl ⟨indexed.arrayOf?_eq_some_iff.2 h, rfl⟩)

mutual
/-- A type expression is looked up to what it means, and no type is added. -/
theorem run_resolve_of_means (indexed : schema.Indexed) : (expr : TypeExpr) →
    (found : GenericType) → (∀ name ∈ expr.mentioned, Text.isIdentifier name) →
    schema.Means scope expr found → (resolve scope expr).run schema = .ok (found, schema)
  | .named name args, .var used, _, h => by
      rw [Means] at h
      obtain ⟨rfl, rfl, hscope⟩ := h
      rw [resolve, if_pos hscope]
      rfl
  | .named name args, .applied base found, hnames, h => by
      rw [Means] at h
      obtain ⟨hscope, hbears, hargs⟩ := h
      rw [TypeExpr.mentioned, List.forall_mem_cons] at hnames
      have hbase := run_internName_of_bears indexed hnames.1 hbears
      have hfound := run_resolveList_of_means indexed args found hnames.2 hargs
      rw [resolve, if_neg (by simp [hscope])]
      exact SchemaM.run_bind_eq_ok_iff.2 ⟨base, schema, hbase,
        SchemaM.run_bind_eq_ok_iff.2 ⟨found, schema, hfound, rfl⟩⟩
  | .array component, .array found erased, hnames, h => by
      rw [Means] at h
      rw [TypeExpr.mentioned] at hnames
      have hfound := run_resolve_of_means indexed component found hnames h.1
      have herased := run_internArray_of_componentOf? indexed h.2
      rw [resolve]
      exact SchemaM.run_bind_eq_ok_iff.2 ⟨found, schema, hfound,
        SchemaM.run_bind_eq_ok_iff.2 ⟨erased, schema, herased, rfl⟩⟩
  | .named .., .array .., _, h | .array _, .applied .., _, h | .array _, .var _, _, h => by
      simp [Means] at h

theorem run_resolveList_of_means (indexed : schema.Indexed) : (exprs : List TypeExpr) →
    (found : List GenericType) → (∀ name ∈ TypeExpr.mentionedIn exprs, Text.isIdentifier name) →
    schema.MeansEach scope exprs found →
      (resolveList scope exprs).run schema = .ok (found, schema)
  | [], [], _, _ => rfl
  | expr :: exprs, found :: others, hnames, h => by
      rw [MeansEach] at h
      rw [TypeExpr.mentionedIn, List.forall_mem_append] at hnames
      have hfound := run_resolve_of_means indexed expr found hnames.1 h.1
      have hothers := run_resolveList_of_means indexed exprs others hnames.2 h.2
      rw [resolveList]
      exact SchemaM.run_bind_eq_ok_iff.2 ⟨found, schema, hfound,
        SchemaM.run_bind_eq_ok_iff.2 ⟨others, schema, hothers, rfl⟩⟩
  | [], _ :: _, _, h | _ :: _, [], _, h => by simp [MeansEach] at h
end

/-! ### Spelling a type -/

/-- A type expression of identifiers that is written as a type is named, and means the type. -/
structure SpellsKey (schema : Schema) (expr : TypeExpr) (found : GenericType) (key : TypeKey) :
    Prop where
  names : ∀ name ∈ expr.mentioned, Text.isIdentifier name
  chars : expr.chars = (schema.name key).toList
  means : schema.Means [] expr found
  erases : eraseIn [] found = key
  describes : ∀ owner, TypeDescriptor.describe schema owner found = .build schema key []

theorem Bears.spellsKey (h : schema.Bears key name) (hname : Text.isIdentifier name) :
    schema.SpellsKey (.named name []) (.applied key []) key where
  names := by
    rw [TypeExpr.mentioned, TypeExpr.mentionedIn]
    exact List.forall_mem_singleton.2 hname
  chars := by rw [TypeExpr.chars, h.name_eq]
  means := by
    rw [Means, MeansEach]
    exact ⟨rfl, h, trivial⟩
  erases := rfl
  describes := fun _ => rfl

theorem SpellsKey.array {expr : TypeExpr} {found : GenericType} (indexed : schema.Indexed)
    (spells : schema.SpellsKey expr found component)
    (h : schema.componentOf? key = some component) :
    schema.SpellsKey (.array expr) (.array found key) key where
  names := by
    rw [TypeExpr.mentioned]
    exact spells.names
  chars := by
    rw [TypeExpr.chars, spells.chars, indexed.name_array h]
    simp
  means := by
    rw [Means]
    exact ⟨spells.means, spells.erases ▸ h⟩
  erases := rfl
  describes := fun _ => rfl

/-- Every type is spelled: an array by its component, which has a smaller key. -/
theorem Populated.exists_spellsKey (populated : Populated types types.length schema)
    (hnames : ∀ declaration ∈ types, Text.isIdentifier declaration.name)
    (h : key.index < schema.size) : ∃ expr found, schema.SpellsKey expr found key := by
  induction hplace : key.index using Nat.strongRecOn generalizing key with
  | ind place ih =>
  cases hcomponent : schema.componentOf? key with
  | none =>
      have hbears := bears_name h hcomponent
      exact ⟨_, _, hbears.spellsKey (populated.isIdentifier_of_bears hnames hbears)⟩
  | some component =>
      have hlt := populated.indexed.component_lt hcomponent
      obtain ⟨expr, found, spells⟩ :=
        ih component.index (hplace ▸ hlt) (Nat.lt_trans hlt h) rfl
      exact ⟨_, _, spells.array populated.indexed hcomponent⟩

end ObjectDocument.Schema
