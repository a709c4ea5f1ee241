import ObjectDocument.Proofs.Schema.Built

/-!
# Types are found where they are

A schema has no index beside its list of types: a name is looked up among the names, and an array
among the kinds.  That this finds each type, and no other, rests on how types are added.  A name is
added if no type bears it, an array type if its component has none, and the name of an array type
is no identifier.  `Indexed` is what holds of a schema at any time for these reasons.

Members play no part in it.  What is found depends on the names and the kinds alone, the `heads` of
the types, and these stay where they are when members are filled in or types are added.
-/

namespace ObjectDocument

theorem Text.not_isIdentifier_brackets (name : String) :
    ¬ Text.isIdentifier ("[" ++ name ++ "]") := by
  intro h
  simp only [isIdentifier, Bool.and_eq_true, List.all_eq_true] at h
  exact absurd (h.2 '[' (by simp)) (by decide +kernel)

def TypeKind.component? : TypeKind → Option TypeKey
  | .array component => some component
  | _ => none

theorem TypeKind.component?_eq_some_iff {kind : TypeKind} {component : TypeKey} :
    kind.component? = some component ↔ kind = .array component := by
  cases kind <;> simp [component?]

@[simp] theorem DeclarationKind.component?_typeKind (kind : DeclarationKind) :
    kind.typeKind.component? = none := by
  cases kind <;> rfl

namespace Schema

def heads (schema : Schema) : List (String × TypeKind) :=
  schema.nodes.map fun node => (node.name, node.kind)

/-- A type that is no array has a name. -/
def Bears (schema : Schema) (key : TypeKey) (name : String) : Prop :=
  ∃ kind, schema.heads[key.index]? = some (name, kind) ∧ kind.component? = none

/-- A name means one type, and a component has one array type, which is added after it. -/
structure Indexed (schema : Schema) : Prop where
  keyed : ∀ {place : Nat} {node : TypeNode}, schema.nodes[place]? = some node → node.key = ⟨place⟩
  root : 0 < schema.size
  named : ∀ {key other : TypeKey} {name : String}, schema.Bears key name →
    schema.Bears other name → key = other
  array : ∀ {key other component : TypeKey}, schema.componentOf? key = some component →
    schema.componentOf? other = some component → key = other
  component_lt : ∀ {key component : TypeKey}, schema.componentOf? key = some component →
    component.index < key.index
  array_name : ∀ {place : Nat} {name : String} {component : TypeKey},
    schema.heads[place]? = some (name, .array component) →
      name = "[" ++ schema.name component ++ "]"

variable {schema before after : Schema} {key component : TypeKey} {name : String} {kind : TypeKind}

/-! ### Heads -/

@[simp] theorem length_heads : schema.heads.length = schema.size := by
  simp [heads, size]

@[simp] theorem heads_insert :
    (schema.insert name kind).heads = schema.heads ++ [(name, kind)] := by
  simp [heads, insert]

@[simp] theorem heads_fill {body : TypeBody} : (schema.fill key body).heads = schema.heads := by
  refine List.ext_getElem? fun place => ?_
  simp only [heads, List.getElem?_map, getElem?_fill]
  by_cases h : key.index = place
  · rw [if_pos h, Option.map_map]
    rfl
  · rw [if_neg h]

theorem getElem?_heads_of_node? {place : Nat} {node : TypeNode}
    (h : schema.nodes[place]? = some node) :
    schema.heads[place]? = some (node.name, node.kind) := by
  rw [heads, List.getElem?_map, h, Option.map_some]

theorem exists_node_of_lt (h : key.index < schema.size) : ∃ node, schema.node? key = some node :=
  ⟨_, List.getElem?_eq_getElem h⟩

theorem lt_of_node? {node : TypeNode} (h : schema.node? key = some node) :
    key.index < schema.size :=
  (List.getElem?_eq_some_iff.1 h).1

theorem lt_of_getElem?_heads {place : Nat} {head : String × TypeKind}
    (h : schema.heads[place]? = some head) : place < schema.size := by
  rw [← length_heads]
  exact (List.getElem?_eq_some_iff.1 h).1

theorem kind?_eq_some_iff : schema.kind? key = some kind ↔
    ∃ name, schema.heads[key.index]? = some (name, kind) := by
  simp only [kind?, node?, heads, List.getElem?_map, Option.map_eq_some_iff, Prod.mk.injEq]
  constructor
  · rintro ⟨node, hnode, hkind⟩
    exact ⟨node.name, node, hnode, rfl, hkind⟩
  · rintro ⟨_, node, hnode, -, hkind⟩
    exact ⟨node, hnode, hkind⟩

theorem componentOf?_eq_kind? : schema.componentOf? key =
    (schema.kind? key).bind TypeKind.component? := by
  unfold componentOf?
  cases schema.kind? key with
  | none => rfl
  | some kind => cases kind <;> rfl

theorem componentOf?_eq_some_iff : schema.componentOf? key = some component ↔
    ∃ name, schema.heads[key.index]? = some (name, .array component) := by
  rw [componentOf?_eq_kind?, Option.bind_eq_some_iff, ← kind?_eq_some_iff]
  simp [TypeKind.component?_eq_some_iff]

theorem name_eq_heads : schema.name key =
    ((schema.heads[key.index]?).map (·.1)).getD "?" := by
  simp only [name, node?, heads, List.getElem?_map, Option.map_map]
  rfl

theorem lt_of_componentOf? (h : schema.componentOf? key = some component) :
    key.index < schema.size := by
  obtain ⟨_, h⟩ := componentOf?_eq_some_iff.1 h
  exact lt_of_getElem?_heads h

theorem Bears.lt (h : schema.Bears key name) : key.index < schema.size := by
  obtain ⟨_, h, -⟩ := h
  exact lt_of_getElem?_heads h

theorem componentOf?_of_node? {node : TypeNode} (h : schema.node? key = some node) :
    schema.componentOf? key = node.kind.component? := by
  rw [componentOf?_eq_kind?, kind?, h]
  rfl

theorem Bears.componentOf?_eq_none (h : schema.Bears key name) :
    schema.componentOf? key = none := by
  obtain ⟨kind, hhead, hkind⟩ := h
  rw [componentOf?_eq_kind?, kind?_eq_some_iff.2 ⟨name, hhead⟩, Option.bind_some, hkind]

theorem Bears.name_eq (h : schema.Bears key name) : schema.name key = name := by
  obtain ⟨kind, hhead, -⟩ := h
  rw [name_eq_heads, hhead]
  rfl

theorem bears_of_node? {node : TypeNode} (h : schema.node? key = some node)
    (hkind : node.kind.component? = none) : schema.Bears key node.name :=
  ⟨node.kind, getElem?_heads_of_node? h, hkind⟩

theorem Indexed.name_array (indexed : schema.Indexed)
    (h : schema.componentOf? key = some component) :
    schema.name key = "[" ++ schema.name component ++ "]" := by
  obtain ⟨name, hhead⟩ := componentOf?_eq_some_iff.1 h
  rw [← indexed.array_name hhead, name_eq_heads, hhead]
  rfl

/-! ### Schemas that begin with the same types -/

theorem getElem?_heads_of_isPrefix (h : before.heads <+: after.heads) {place : Nat}
    {head : String × TypeKind} (hhead : before.heads[place]? = some head) :
    after.heads[place]? = some head := by
  obtain ⟨added, h⟩ := h
  rw [← h]
  exact List.getElem?_append_left (List.getElem?_eq_some_iff.1 hhead).1 ▸ hhead

theorem size_le_of_isPrefix (h : before.heads <+: after.heads) : before.size ≤ after.size := by
  rw [← length_heads, ← length_heads]
  exact h.length_le

theorem Bears.of_isPrefix (h : before.heads <+: after.heads) (hbears : before.Bears key name) :
    after.Bears key name := by
  obtain ⟨kind, hhead, hkind⟩ := hbears
  exact ⟨kind, getElem?_heads_of_isPrefix h hhead, hkind⟩

theorem componentOf?_of_isPrefix (h : before.heads <+: after.heads)
    (hcomponent : before.componentOf? key = some component) :
    after.componentOf? key = some component := by
  obtain ⟨name, hhead⟩ := componentOf?_eq_some_iff.1 hcomponent
  exact componentOf?_eq_some_iff.2 ⟨name, getElem?_heads_of_isPrefix h hhead⟩

/-! ### Looking types up -/

theorem getElem?_heads_of_lookup? (indexed : schema.Indexed) (h : schema.lookup? name = some key) :
    ∃ kind, schema.heads[key.index]? = some (name, kind) := by
  obtain ⟨node, hnode, rfl⟩ := Option.map_eq_some_iff.1 h
  obtain ⟨place, hplace⟩ := List.mem_iff_getElem?.1
    (List.mem_reverse.1 (List.mem_of_find?_eq_some hnode))
  have hname : node.name = name := by simpa using List.find?_some hnode
  rw [indexed.keyed hplace, ← hname]
  exact ⟨node.kind, getElem?_heads_of_node? hplace⟩

theorem bears_of_lookup? (indexed : schema.Indexed) (hname : Text.isIdentifier name)
    (h : schema.lookup? name = some key) : schema.Bears key name := by
  obtain ⟨kind, hhead⟩ := getElem?_heads_of_lookup? indexed h
  refine ⟨kind, hhead, ?_⟩
  cases hcomponent : kind.component? with
  | none => rfl
  | some component =>
      rw [TypeKind.component?_eq_some_iff.1 hcomponent] at hhead
      -- The name would be that of an array type, and a bracket is in no identifier.
      rw [indexed.array_name hhead] at hname
      exact absurd hname (Text.not_isIdentifier_brackets _)

theorem not_bears_of_lookup? (h : schema.lookup? name = none) : ¬ schema.Bears key name := by
  rintro ⟨kind, hhead, -⟩
  obtain ⟨node, hnode, hnames⟩ := List.mem_map.1 (List.mem_of_getElem? hhead)
  have hnone := List.find?_eq_none.1 (Option.map_eq_none_iff.1 h) node (List.mem_reverse.2 hnode)
  cases hnames
  simp at hnone

theorem Indexed.arrayOf?_eq_some_iff (indexed : schema.Indexed) :
    schema.arrayOf? component = some key ↔ schema.componentOf? key = some component := by
  have hfound {found : TypeKey} (h : schema.arrayOf? component = some found) :
      schema.componentOf? found = some component := by
    obtain ⟨node, hnode, rfl⟩ := Option.map_eq_some_iff.1 h
    obtain ⟨place, hplace⟩ := List.mem_iff_getElem?.1 (List.mem_of_find?_eq_some hnode)
    have hkind : node.kind = .array component := by simpa using List.find?_some hnode
    rw [indexed.keyed hplace]
    refine componentOf?_eq_some_iff.2 ⟨node.name, ?_⟩
    rw [← hkind]
    exact getElem?_heads_of_node? hplace
  refine ⟨hfound, fun h => ?_⟩
  cases harray : schema.arrayOf? component with
  | some found => rw [indexed.array (hfound harray) h]
  | none =>
      obtain ⟨name, hhead⟩ := componentOf?_eq_some_iff.1 h
      obtain ⟨node, hnode, hnames⟩ := List.mem_map.1 (List.mem_of_getElem? hhead)
      have hnone := List.find?_eq_none.1 (Option.map_eq_none_iff.1 harray) node hnode
      rw [(Prod.mk.inj hnames).2] at hnone
      simp at hnone

/-! ### Adding types -/

theorem getElem?_heads_insert {place : Nat} {head : String × TypeKind} :
    (schema.insert name kind).heads[place]? = some head ↔
      schema.heads[place]? = some head ∨ place = schema.size ∧ head = (name, kind) := by
  rw [heads_insert, ← length_heads]
  rcases Nat.lt_or_ge place schema.heads.length with hlt | hge
  · rw [List.getElem?_append_left hlt]
    exact ⟨.inl, fun h => h.elim id fun h => by omega⟩
  · rw [List.getElem?_append_right hge, List.getElem?_singleton, List.getElem?_eq_none hge]
    by_cases hplace : place - schema.heads.length = 0
    · rw [if_pos hplace]
      simp only [Option.some.injEq, reduceCtorEq, false_or]
      exact ⟨fun h => ⟨by omega, h.symm⟩, fun h => h.2.symm⟩
    · rw [if_neg hplace]
      simp only [reduceCtorEq, false_or, false_iff]
      omega

theorem name_insert_of_lt (h : key.index < schema.size) :
    (schema.insert name kind).name key = schema.name key := by
  rw [name_eq_heads, name_eq_heads, heads_insert, List.getElem?_append_left (by simpa using h)]

theorem bears_insert {found : String} : (schema.insert name kind).Bears key found ↔
    schema.Bears key found ∨
      key = ⟨schema.size⟩ ∧ found = name ∧ kind.component? = none := by
  cases key with
  | mk place =>
  simp only [Bears, getElem?_heads_insert, Prod.mk.injEq, TypeKey.mk.injEq]
  constructor
  · rintro ⟨other, h | ⟨rfl, rfl, rfl⟩, hkind⟩
    · exact .inl ⟨other, h, hkind⟩
    · exact .inr ⟨rfl, rfl, hkind⟩
  · rintro (⟨other, h, hkind⟩ | ⟨rfl, rfl, hkind⟩)
    · exact ⟨other, .inl h, hkind⟩
    · exact ⟨kind, .inr ⟨rfl, rfl, rfl⟩, hkind⟩

theorem componentOf?_insert : (schema.insert name kind).componentOf? key = some component ↔
    schema.componentOf? key = some component ∨
      key = ⟨schema.size⟩ ∧ kind = .array component := by
  cases key with
  | mk place =>
  simp only [componentOf?_eq_some_iff, getElem?_heads_insert, Prod.mk.injEq, TypeKey.mk.injEq]
  constructor
  · rintro ⟨found, h | ⟨rfl, -, h⟩⟩
    · exact .inl ⟨found, h⟩
    · exact .inr ⟨rfl, h.symm⟩
  · rintro (⟨found, h⟩ | ⟨rfl, rfl⟩)
    · exact ⟨found, .inl h⟩
    · exact ⟨name, .inr ⟨rfl, rfl, rfl⟩⟩

/-- A type may be added if its name is free, or if it is the first array type of its component. -/
theorem Indexed.insert (indexed : schema.Indexed)
    (hname : kind.component? = none → ∀ key, ¬ schema.Bears key name)
    (harray : ∀ component, kind = .array component → component.index < schema.size ∧
      (∀ key, schema.componentOf? key ≠ some component) ∧
        name = "[" ++ schema.name component ++ "]") :
    (schema.insert name kind).Indexed where
  keyed := by
    intro place node hnode
    rcases getElem?_insert hnode with hnode | ⟨rfl, rfl⟩
    · exact indexed.keyed hnode
    · rfl
  root := by
    rw [size_insert]
    exact Nat.succ_pos _
  named := by
    intro key other found hkey hother
    rcases bears_insert.1 hkey with hbears | ⟨rfl, rfl, hkind⟩
    · rcases bears_insert.1 hother with hother | ⟨rfl, rfl, hkind⟩
      · exact indexed.named hbears hother
      · exact absurd hbears (hname hkind key)
    · rcases bears_insert.1 hother with hother | ⟨rfl, -, -⟩
      · exact absurd hother (hname hkind other)
      · rfl
  array := by
    intro key other found hkey hother
    rcases componentOf?_insert.1 hkey with hkey | ⟨rfl, hkind⟩
    · rcases componentOf?_insert.1 hother with hother | ⟨rfl, hkind⟩
      · exact indexed.array hkey hother
      · exact absurd hkey ((harray _ hkind).2.1 key)
    · rcases componentOf?_insert.1 hother with hother | ⟨rfl, -⟩
      · exact absurd hother ((harray _ hkind).2.1 other)
      · rfl
  component_lt := by
    intro key found hfound
    rcases componentOf?_insert.1 hfound with hfound | ⟨rfl, hkind⟩
    · exact indexed.component_lt hfound
    · exact (harray _ hkind).1
  array_name := by
    intro place found component hhead
    rcases getElem?_heads_insert.1 hhead with hhead | ⟨-, hhead⟩
    · have hcomponent : schema.componentOf? ⟨place⟩ = some component :=
        componentOf?_eq_some_iff.2 ⟨found, hhead⟩
      rw [name_insert_of_lt (Nat.lt_trans (indexed.component_lt hcomponent)
        (lt_of_getElem?_heads hhead)), ← indexed.array_name hhead]
    · cases hhead
      rw [name_insert_of_lt (harray _ rfl).1]
      exact (harray _ rfl).2.2

theorem Indexed.insert_named (indexed : schema.Indexed) (hname : schema.lookup? name = none)
    (hkind : kind.component? = none) : (schema.insert name kind).Indexed :=
  indexed.insert (fun _ _ => not_bears_of_lookup? hname) fun _ h => by
    rw [h] at hkind
    cases hkind

theorem Indexed.insert_array (indexed : schema.Indexed)
    (harray : schema.arrayOf? component = none) (hcomponent : component.index < schema.size) :
    (schema.insert ("[" ++ schema.name component ++ "]") (.array component)).Indexed := by
  refine indexed.insert (fun h => by cases h) fun found h => ?_
  cases h
  refine ⟨hcomponent, fun key hkey => ?_, rfl⟩
  rw [indexed.arrayOf?_eq_some_iff.2 hkey] at harray
  cases harray

theorem Indexed.fill (indexed : schema.Indexed) (key : TypeKey) (body : TypeBody) :
    (schema.fill key body).Indexed where
  keyed := by
    intro place node hnode
    rw [getElem?_fill] at hnode
    by_cases h : key.index = place
    · rw [if_pos h] at hnode
      obtain ⟨found, hfound, rfl⟩ := Option.map_eq_some_iff.1 hnode
      exact (indexed.keyed hfound :)
    · rw [if_neg h] at hnode
      exact indexed.keyed hnode
  root := by
    rw [← length_heads, heads_fill, length_heads]
    exact indexed.root
  named := by
    simp only [Bears, heads_fill]
    exact indexed.named
  array := by
    simp only [componentOf?_eq_some_iff, heads_fill]
    simpa only [componentOf?_eq_some_iff] using @indexed.array
  component_lt := by
    simp only [componentOf?_eq_some_iff, heads_fill]
    simpa only [componentOf?_eq_some_iff] using @indexed.component_lt
  array_name := by
    simp only [heads_fill, name_eq_heads]
    simpa only [name_eq_heads] using @indexed.array_name

theorem componentOf?_builtins (key : TypeKey) : builtins.componentOf? key = none := by
  cases h : builtins.componentOf? key with
  | none => rfl
  | some component =>
      obtain ⟨name, hhead⟩ := componentOf?_eq_some_iff.1 h
      have hall : ∀ head ∈ builtins.heads, head.2.component? = none := by decide +kernel
      cases hall _ (List.mem_of_getElem? hhead)

theorem indexed_builtins : builtins.Indexed where
  keyed := fun hnode => laid_builtins.keyed _ _ hnode
  root := by decide +kernel
  named := by
    rintro ⟨place⟩ ⟨other⟩ name ⟨kind, hhead, -⟩ ⟨_, hother, -⟩
    have hnodup : (builtins.heads.map Prod.fst).Nodup := by decide +kernel
    have hplace : place < (builtins.heads.map Prod.fst).length := by
      rw [List.length_map]
      exact (List.getElem?_eq_some_iff.1 hhead).1
    congr 1
    refine (List.getElem?_inj hplace hnodup).1 ?_
    rw [List.getElem?_map, List.getElem?_map, hhead, hother]
    rfl
  array := by
    intro key other component hkey
    rw [componentOf?_builtins] at hkey
    cases hkey
  component_lt := by
    intro key component hkey
    rw [componentOf?_builtins] at hkey
    cases hkey
  array_name := by
    intro place name component hhead
    have hkey : builtins.componentOf? ⟨place⟩ = some component :=
      componentOf?_eq_some_iff.2 ⟨name, hhead⟩
    rw [componentOf?_builtins] at hkey
    cases hkey

end Schema

end ObjectDocument
