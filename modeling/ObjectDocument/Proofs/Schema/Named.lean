import ObjectDocument.Proofs.Schema.Erased
import ObjectDocument.Proofs.Schema.Spelled

/-!
# Names and the types that they mean

A name means the last type that bears it (`lookup?_eq_some_iff`).  Built-in and undeclared types
have identifiers for names, and array types have names in brackets, so these never share one: an
array type is named after its component, and what can be a component is an array or bears an
identifier (`Populated.referable_component`), so that different array types have different names.

The names of declared types may be any.  One that is written like an array type is hidden by the
array type of that name, which is added later, and by nothing else (`lookup?_name_iff`).
-/

namespace ObjectDocument

namespace GenericType

mutual
theorem keys_subset_of_mem_arrays {array : GenericType × TypeKey} : (declared : GenericType) →
    array ∈ declared.arrays → array.1.keys ⊆ declared.keys
  | .applied base args, h => by
      rw [arrays] at h
      rw [keys]
      exact List.subset_cons_of_subset base (keysIn_subset_of_mem_arraysIn args h)
  | .var name, h => by
      rw [arrays] at h
      cases h
  | .array component erased, h => by
      rw [arrays] at h
      rw [keys]
      rcases List.mem_cons.1 h with rfl | h
      · exact List.subset_append_left _ _
      · exact List.subset_append_of_subset_left _ (keys_subset_of_mem_arrays component h)

theorem keysIn_subset_of_mem_arraysIn {array : GenericType × TypeKey} :
    (declared : List GenericType) → array ∈ arraysIn declared → array.1.keys ⊆ keysIn declared
  | [], h => by
      rw [arraysIn] at h
      cases h
  | first :: rest, h => by
      rw [arraysIn] at h
      rw [keysIn]
      rcases List.mem_append.1 h with h | h
      · exact List.subset_append_of_subset_left _ (keys_subset_of_mem_arrays first h)
      · exact List.subset_append_of_subset_right _ (keysIn_subset_of_mem_arraysIn rest h)
end

end GenericType

namespace Schema

variable {schema : Schema} {scope : List TypeParam} {types : List TypeDeclaration}
  {key other component : TypeKey} {name : String} {node : TypeNode}

/-! ### The last type of a name -/

theorem name_of_node? (h : schema.node? key = some node) : schema.name key = node.name := by
  rw [Schema.name, h]
  rfl

/-- What a name means bears it, and nothing behind it does. -/
theorem le_of_lookup? (indexed : schema.Indexed) (h : schema.lookup? name = some key)
    (hlt : other.index < schema.size) (hname : schema.name other = name) :
    other.index ≤ key.index := by
  obtain ⟨node, hnode, rfl⟩ := Option.map_eq_some_iff.1 h
  obtain ⟨-, after, before, hnodes, hafter⟩ := List.find?_eq_some_iff_append.1 hnode
  have hnodes : schema.nodes = before.reverse ++ node :: after.reverse := by
    rw [← List.reverse_reverse schema.nodes, hnodes]
    simp
  have hplace : schema.nodes[before.length]? = some node := by
    rw [hnodes, List.getElem?_append_right (by simp), List.length_reverse, Nat.sub_self,
      List.getElem?_cons_zero]
  rw [indexed.keyed hplace]
  by_contra hbehind
  obtain ⟨place, hindex⟩ := Nat.exists_eq_add_of_lt (Nat.lt_of_not_le hbehind)
  obtain ⟨found, hfound⟩ := exists_node_of_lt hlt
  have hmem : found ∈ after.reverse := by
    rw [node?, hindex, hnodes, List.getElem?_append_right (by simp; omega), List.length_reverse,
      show before.length + place + 1 - before.length = place + 1 by omega,
      List.getElem?_cons_succ] at hfound
    exact List.mem_of_getElem? hfound
  have hother := hafter found (List.mem_reverse.1 hmem)
  rw [name_of_node? hfound] at hname
  simp [hname] at hother

/-- A name means the type that bears it and has the largest key of those. -/
theorem lookup?_name_eq_some_iff (indexed : schema.Indexed) (hlt : key.index < schema.size) :
    schema.lookup? (schema.name key) = some key ↔ ∀ other, other.index < schema.size →
      schema.name other = schema.name key → other.index ≤ key.index := by
  refine ⟨fun h other hother hname => le_of_lookup? indexed h hother hname, fun hlast => ?_⟩
  cases hlookup : schema.lookup? (schema.name key) with
  | none =>
      obtain ⟨node, hnode⟩ := exists_node_of_lt hlt
      have hnone := List.find?_eq_none.1 (Option.map_eq_none_iff.1 hlookup) node
        (List.mem_reverse.2 (List.mem_of_getElem? hnode))
      simp [name_of_node? hnode] at hnone
  | some found =>
      obtain ⟨kind, hhead⟩ := getElem?_heads_of_lookup? indexed hlookup
      have hname : schema.name found = schema.name key := by
        rw [name_eq_heads, hhead]
        rfl
      have hfound := hlast found (lt_of_getElem?_heads hhead) hname
      have hkey := le_of_lookup? indexed hlookup hlt rfl
      rw [show found = key from congrArg TypeKey.mk (Nat.le_antisymm hfound hkey)]

/-! ### Names of arrays -/

/-- A type that declarations can refer to: an array, or one that bears an identifier. -/
def Referable (schema : Schema) (key : TypeKey) : Prop :=
  (∃ name, schema.Bears key name ∧ Text.isIdentifier name) ∨ schema.isArray key

theorem isArray_iff : schema.isArray key ↔ ∃ component, schema.componentOf? key = some component :=
  Option.isSome_iff_exists

mutual
theorem Means.mem_arrays : (expr : TypeExpr) → (found : GenericType) →
    schema.Means scope expr found → ∀ key ∈ found.keys, schema.isArray key →
      ∃ component, (component, key) ∈ found.arrays
  | .named name args, .var used, _ => by
      rw [GenericType.keys]
      exact List.forall_mem_nil _
  | .named name args, .applied base found, h => by
      rw [Means] at h
      rw [GenericType.keys, GenericType.arrays]
      refine List.forall_mem_cons.2 ⟨fun harray => ?_, MeansEach.mem_arrays args found h.2.2⟩
      rw [isArray, h.2.1.componentOf?_eq_none] at harray
      cases harray
  | .array component, .array found erased, h => by
      rw [Means] at h
      rw [GenericType.keys, GenericType.arrays]
      refine List.forall_mem_append.2 ⟨fun key hkey harray => ?_,
        List.forall_mem_singleton.2 fun _ => ⟨found, List.mem_cons_self⟩⟩
      obtain ⟨inner, hinner⟩ := Means.mem_arrays component found h.1 key hkey harray
      exact ⟨inner, List.mem_cons_of_mem _ hinner⟩
  | .named .., .array .., h | .array _, .applied .., h | .array _, .var _, h => by simp [Means] at h

theorem MeansEach.mem_arrays : (exprs : List TypeExpr) → (found : List GenericType) →
    schema.MeansEach scope exprs found → ∀ key ∈ GenericType.keysIn found, schema.isArray key →
      ∃ component, (component, key) ∈ GenericType.arraysIn found
  | [], [], _ => by
      rw [GenericType.keysIn]
      exact List.forall_mem_nil _
  | expr :: exprs, found :: others, h => by
      rw [MeansEach] at h
      rw [GenericType.keysIn, GenericType.arraysIn]
      refine List.forall_mem_append.2 ⟨fun key hkey harray => ?_, fun key hkey harray => ?_⟩
      · obtain ⟨component, hmem⟩ := Means.mem_arrays expr found h.1 key hkey harray
        exact ⟨component, List.mem_append_left _ hmem⟩
      · obtain ⟨component, hmem⟩ := MeansEach.mem_arrays exprs others h.2 key hkey harray
        exact ⟨component, List.mem_append_right _ hmem⟩
  | [], _ :: _, h | _ :: _, [], h => by simp [MeansEach] at h
end

/-- All that members refer to are arrays and types that bear identifiers. -/
theorem Populated.referable_of_declared (populated : Populated types types.length schema)
    (h : schema.node? key = some node) {declared : GenericType}
    (hdeclared : declared ∈ node.declaredTypes) :
    ∀ key ∈ declared.keys, schema.Referable key := by
  intro key hkey
  obtain ⟨scope, source, -, expr, hparse, hmeans⟩ := (populated.written h).1 declared hdeclared
  cases hcomponent : schema.componentOf? key with
  | some component => exact .inr (isArray_iff.2 ⟨component, hcomponent⟩)
  | none =>
      -- The name of a type that is no array was read from a text.
      have hbears := bears_name (Means.lt expr declared hmeans key hkey) hcomponent
      exact .inl ⟨_, hbears, TypeExpr.isIdentifier_of_parse hparse _
        (Means.mem_mentioned expr declared hmeans key hkey _ hbears)⟩

theorem Populated.exists_scope (populated : Populated types types.length schema)
    (h : schema.node? key = some node) {declared : GenericType}
    (hdeclared : declared ∈ node.declaredTypes) :
    ∃ scope source, schema.MeansText scope source declared ∧
      ∀ param ∈ scope, ∀ bound ∈ param.bound, bound ∈ node.declaredTypes := by
  have hparams : ∀ param ∈ node.params, ∀ bound ∈ param.bound, bound ∈ node.declaredTypes :=
    fun param hparam bound hbound => TypeBody.mem_declaredTypes_iff.2 (.inl ⟨param, hparam, hbound⟩)
  obtain ⟨hmembers, hbounds⟩ := populated.scoped h
  rcases TypeBody.mem_declaredTypes_iff.1 hdeclared with ⟨param, hparam, hbound⟩ | hmember
  · obtain ⟨place, hplace⟩ := List.mem_iff_getElem?.1 hparam
    obtain ⟨source, hmeans⟩ := hbounds place param hplace declared hbound
    refine ⟨_, source, hmeans, List.forall_mem_append.2
      ⟨fun param hparam => hparams param (List.mem_of_mem_take hparam), ?_⟩⟩
    intro param hparam bound hbound
    obtain ⟨_, -, rfl⟩ := List.mem_map.1 hparam
    cases hbound
  · obtain ⟨source, hmeans⟩ := hmembers declared hmember
    exact ⟨_, source, hmeans, hparams⟩

/-- An array type lies behind all declared types, and some member refers to it. -/
theorem Populated.added_of_componentOf? (populated : Populated types types.length schema)
    (h : schema.componentOf? key = some component) :
    builtins.size + types.length ≤ key.index ∧ ∃ owner node, schema.node? owner = some node ∧
      key ∈ node.toTypeBody.keys := by
  obtain ⟨node, hnode⟩ := exists_node_of_lt (lt_of_componentOf? h)
  rw [componentOf?_of_node? hnode] at h
  rcases populated.node?_cases hnode with ⟨hlt, -⟩ |
    ⟨place, declaration, body, -, -, rfl, -⟩ | ⟨hge, -, -, place, -, owner, howner, hkey⟩
  · rw [← componentOf?_of_node? hnode, populated.componentOf?_builtin hlt] at h
    cases h
  · simp at h
  · exact ⟨hge, declaredKey place, owner, howner, hkey⟩

theorem Populated.referable_object (populated : Populated types types.length schema) :
    schema.Referable .object := by
  have hobject : schema.node? .object = some ⟨{}, .object, "Object", .classType⟩ :=
    (populated.builtin (by decide +kernel)).trans rfl
  exact .inl ⟨"Object", bears_of_node? hobject rfl, by decide +kernel⟩

/-- Types are arrays of arrays and of types that bear identifiers alone. -/
theorem Populated.referable_component (populated : Populated types types.length schema)
    (h : schema.componentOf? key = some component) : schema.Referable component := by
  obtain ⟨-, owner, node, hnode, hkey⟩ := populated.added_of_componentOf? h
  obtain ⟨declared, hdeclared, hkey⟩ := List.mem_flatMap.1 hkey
  obtain ⟨scope, source, ⟨expr, -, hmeans⟩, hscope⟩ := populated.exists_scope hnode hdeclared
  -- The component is what that of an array of a member erases to, so the member or a bound has it.
  obtain ⟨inner, harray⟩ := Means.mem_arrays expr declared hmeans key hkey (isArray_iff.2 ⟨_, h⟩)
  have herased := Means.componentOf? expr declared hmeans _ harray
  rw [h, Option.some.injEq] at herased
  rw [herased]
  rcases eraseIn_cases scope inner with hroot | hinner | ⟨param, hparam, bound, hbound, hmem⟩
  · rw [hroot]
    exact populated.referable_object
  · exact populated.referable_of_declared hnode hdeclared _
      (GenericType.keys_subset_of_mem_arrays declared harray hinner)
  · exact populated.referable_of_declared hnode (hscope param hparam bound hbound) _ hmem

/-- A type that bears an identifier is not named like an array. -/
theorem Bears.name_ne_array (hbears : schema.Bears key name) (hname : Text.isIdentifier name)
    (indexed : schema.Indexed) (h : schema.isArray other) :
    schema.name key ≠ schema.name other := by
  obtain ⟨component, hcomponent⟩ := isArray_iff.1 h
  rw [hbears.name_eq, indexed.name_array hcomponent]
  rintro rfl
  exact Text.not_isIdentifier_brackets _ hname

theorem Populated.array_name_inj (populated : Populated types types.length schema)
    (h : schema.isArray key) (hother : schema.isArray other)
    (hname : schema.name key = schema.name other) : key = other := by
  have indexed := populated.indexed
  induction hplace : key.index using Nat.strongRecOn generalizing key other with
  | ind place ih =>
  obtain ⟨component, hcomponent⟩ := isArray_iff.1 h
  obtain ⟨second, hsecond⟩ := isArray_iff.1 hother
  rw [indexed.name_array hcomponent, indexed.name_array hsecond, String.append_left_inj,
    String.append_right_inj] at hname
  have hlt : component.index < place := hplace ▸ indexed.component_lt hcomponent
  -- Both components are arrays, or both bear the same identifier.
  obtain rfl : component = second := by
    rcases populated.referable_component hcomponent with ⟨first, hbears, hfirst⟩ | harray
    · rcases populated.referable_component hsecond with ⟨last, hbears', -⟩ | harray'
      · rw [hbears.name_eq, hbears'.name_eq] at hname
        exact indexed.named hbears (hname ▸ hbears')
      · exact absurd hname (hbears.name_ne_array hfirst indexed harray')
    · rcases populated.referable_component hsecond with ⟨last, hbears', hlast⟩ | harray'
      · exact absurd hname.symm (hbears'.name_ne_array hlast indexed harray)
      · exact ih _ hlt harray harray' hname rfl
  exact indexed.array hcomponent hsecond

/-! ### Hidden names -/

theorem Populated.declared_of_name_array (populated : Populated types types.length schema)
    (hlt : key.index < schema.size) (hkey : ¬ schema.isArray key) (harray : schema.isArray other)
    (hname : schema.name key = schema.name other) :
    ∃ place declaration, types[place]? = some declaration ∧ key = declaredKey place ∧
      declaration.name = schema.name key := by
  have hbears := bears_name hlt (Option.not_isSome_iff_eq_none.1 hkey)
  rcases populated.declared_or_isIdentifier hbears with hdeclared | hidentifier
  · exact hdeclared
  · exact absurd hname (hbears.name_ne_array hidentifier populated.indexed harray)

theorem Populated.lt_of_name_array (populated : Populated types types.length schema)
    (hlt : key.index < schema.size) (hkey : ¬ schema.isArray key) (harray : schema.isArray other)
    (hname : schema.name key = schema.name other) : key.index < other.index := by
  obtain ⟨component, hcomponent⟩ := isArray_iff.1 harray
  obtain ⟨place, declaration, hplace, rfl, -⟩ :=
    populated.declared_of_name_array hlt hkey harray hname
  have hdeclared := (List.getElem?_eq_some_iff.1 hplace).1
  have hbehind := (populated.added_of_componentOf? hcomponent).1
  simp only [declaredKey]
  omega

theorem Populated.exists_declared (populated : Populated types types.length schema)
    {declaration : TypeDeclaration} (h : declaration ∈ types) :
    ∃ key, key.index < schema.size ∧ ¬ schema.isArray key ∧ schema.name key = declaration.name := by
  obtain ⟨place, hplace⟩ := List.mem_iff_getElem?.1 h
  obtain ⟨body, hnode, -⟩ := populated.declared hplace
  refine ⟨declaredKey place, lt_of_node? hnode, ?_, name_of_node? hnode⟩
  rw [isArray, componentOf?_of_node? hnode]
  simp

/-- A type is what its name means, unless an array type has the same name. -/
theorem Populated.lookup?_name_iff (populated : Populated types types.length schema)
    (hlt : key.index < schema.size) : schema.lookup? (schema.name key) = some key ↔
      schema.isArray key ∨ ∀ array, schema.isArray array → schema.name array ≠ schema.name key := by
  rw [lookup?_name_eq_some_iff populated.indexed hlt]
  constructor
  · intro hlast
    refine or_iff_not_imp_left.2 fun hkey array harray hname => ?_
    obtain ⟨component, hcomponent⟩ := isArray_iff.1 harray
    have hle := hlast array (lt_of_componentOf? hcomponent) hname
    have hbefore := populated.lt_of_name_array hlt hkey harray hname.symm
    omega
  · intro h other hother hname
    by_cases hkey : schema.isArray key
    · by_cases harray : schema.isArray other
      · exact Nat.le_of_eq (congrArg TypeKey.index (populated.array_name_inj harray hkey hname))
      · exact Nat.le_of_lt (populated.lt_of_name_array hother harray hkey hname)
    · have hnone := h.resolve_left hkey
      have harray : ¬ schema.isArray other := fun harray => hnone other harray hname
      -- Neither is an array, and then they are one type.
      have hbears := bears_name hlt (Option.not_isSome_iff_eq_none.1 hkey)
      have hbears' := bears_name hother (Option.not_isSome_iff_eq_none.1 harray)
      exact Nat.le_of_eq (congrArg TypeKey.index
        (populated.indexed.named hbears' (hname.symm ▸ hbears)))

end Schema

open Schema in
/-- In a schema that was built, a type is what its name means, unless it is no array and has the
name of an array type.  So every type is what its name means exactly if no declared type has the
name of an array type of the schema. -/
theorem Declarations.lookup?_own_name_iff {declarations : Declarations} {schema : Schema}
    (h : declarations.build = .ok schema) :
    (∀ key, key.index < schema.size → (schema.lookup? (schema.name key) = some key ↔
      schema.isArray key ∨
        ∀ array, schema.isArray array → schema.name array ≠ schema.name key)) ∧
    ((∀ key, key.index < schema.size → schema.lookup? (schema.name key) = some key) ↔
      ∀ declaration ∈ declarations.types, ∀ array, schema.isArray array →
        schema.name array ≠ declaration.name) := by
  have populated := populated_of_ofTypes (ofTypes_of_build h)
  refine ⟨fun key hlt => populated.lookup?_name_iff hlt,
    fun hall declaration hmem array harray => ?_,
    fun hnone key hlt => (populated.lookup?_name_iff hlt).2 (or_iff_not_imp_left.2 fun hkey => ?_)⟩
  · obtain ⟨key, hlt, hkey, hname⟩ := populated.exists_declared hmem
    rw [← hname]
    exact ((populated.lookup?_name_iff hlt).1 (hall key hlt)).resolve_left hkey array harray
  · intro array harray hname
    obtain ⟨place, declaration, hplace, -, hdeclared⟩ :=
      populated.declared_of_name_array hlt hkey harray hname.symm
    exact hnone declaration (List.mem_of_getElem? hplace) array harray (hname.trans hdeclared.symm)

def Declarations.gallery : Declarations :=
  .ofList [
    { name := "[Frame]" },
    { name := "Gallery", fields := [{ name := "walls", type := "[[Picture]]" }] }]

/-- No array type is named like the class in brackets, so every type is what its name means. -/
theorem Declarations.lookup?_own_name_gallery :
    gallery.build.isOk ∧ ∀ key, key.index < gallery.schema.size →
      gallery.schema.lookup? (gallery.schema.name key) = some key := by
  have hbuild : gallery.build.isOk := by decide +kernel
  refine ⟨hbuild, (lookup?_own_name_iff (build_eq_schema hbuild)).2.2 fun declaration hmem array
    harray hname => ?_⟩
  have hall : ∀ place < gallery.schema.size, gallery.schema.isArray ⟨place⟩ →
      ∀ declaration ∈ gallery.types, gallery.schema.name ⟨place⟩ ≠ declaration.name := by
    decide +kernel
  obtain ⟨component, hcomponent⟩ := Schema.isArray_iff.1 harray
  exact hall array.index (Schema.lt_of_componentOf? hcomponent) harray declaration hmem hname

def Declarations.frames : Declarations :=
  .ofList [
    { name := "Shape" },
    { name := "[Shape]" },
    { name := "Canvas", fields := [{ name := "shapes", type := "[Shape]" }] }]

/-- A declared type need not be what its name means. -/
theorem Declarations.not_lookup?_own_name_frames :
    ¬ ∀ (declarations : Declarations) (schema : Schema), declarations.build = .ok schema →
      ∀ key, key.index < schema.size → schema.lookup? (schema.name key) = some key := by
  intro h
  have hmeant := h frames frames.schema (build_eq_schema (by decide +kernel)) ⟨26⟩
    (by decide +kernel)
  revert hmeant
  decide +kernel

end ObjectDocument
