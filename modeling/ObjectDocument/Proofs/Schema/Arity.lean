import ObjectDocument.Proofs.Schema.Populated

/-!
# Numbers of type arguments

A reference to a generic type has all of its arguments or none, and a reference to an undeclared
type may have any number.  Before a schema is made, this is checked of superclasses, interfaces and
fields, however deep the references are.  It is not checked of the bounds of type parameters and of
methods, so there a schema may have any number of arguments anywhere: all of its references fit
exactly if those do (`Declarations.fits_iff`).
-/

namespace ObjectDocument

namespace GenericType

mutual
def references : GenericType → List (TypeKey × Nat)
  | .applied base args => (base, args.length) :: referencesIn args
  | .var _ => []
  | .array component _ => references component

def referencesIn : List GenericType → List (TypeKey × Nat)
  | [] => []
  | declared :: rest => references declared ++ referencesIn rest
end

end GenericType

namespace TypeBody

/-- The declared types of which the numbers of arguments are checked. -/
def checkedTypes (body : TypeBody) : List GenericType :=
  body.superclass.toList ++ body.interfaces ++ body.fields.map (·.declared)

/-- The declared types of which they are not. -/
def uncheckedTypes (body : TypeBody) : List GenericType :=
  body.params.filterMap (·.bound) ++ body.methods.filterMap (·.declared)

theorem mem_declaredTypes {body : TypeBody} {declared : GenericType} :
    declared ∈ body.declaredTypes ↔
      declared ∈ body.checkedTypes ∨ declared ∈ body.uncheckedTypes := by
  simp only [declaredTypes, checkedTypes, uncheckedTypes, List.mem_append]
  tauto

end TypeBody

namespace Schema

/-- A reference to a type that is not undeclared has no arguments, or as many as that has
parameters. -/
def FitsReference (schema : Schema) (reference : TypeKey × Nat) : Prop :=
  schema.kind? reference.1 ≠ some .undeclared →
    reference.2 = 0 ∨ reference.2 = (schema.paramsOf reference.1).length

def Fits (schema : Schema) (declared : GenericType) : Prop :=
  ∀ reference ∈ declared.references, schema.FitsReference reference

instance (schema : Schema) : DecidablePred schema.FitsReference :=
  fun _ => inferInstanceAs (Decidable (_ → _))

instance (schema : Schema) : DecidablePred schema.Fits :=
  fun _ => inferInstanceAs (Decidable (∀ reference ∈ _, _))

variable {schema : Schema} {node : TypeNode} {types : List TypeDeclaration}

mutual
theorem arityFault?_eq_none_iff : (declared : GenericType) →
    (schema.arityFault? declared = none ↔ schema.Fits declared)
  | .applied base args => by
      rw [arityFault?, Fits, GenericType.references, List.forall_mem_cons,
        ← arityFaultIn?_eq_none_iff args]
      by_cases hfault : args ≠ [] ∧ schema.kind? base ≠ some .undeclared ∧
          args.length ≠ (schema.paramsOf base).length
      · rw [if_pos hfault]
        simp only [reduceCtorEq, false_iff, not_and]
        intro hfits
        exact absurd (hfits hfault.2.1) (by simpa using ⟨hfault.1, hfault.2.2⟩)
      · rw [if_neg hfault, iff_and_self]
        intro _ hkind
        by_contra hlength
        simp only [not_or, List.length_eq_zero_iff] at hlength
        exact hfault ⟨hlength.1, hkind, hlength.2⟩
  | .var name => by simp [arityFault?, Fits, GenericType.references]
  | .array component erased => by
      rw [arityFault?, arityFault?_eq_none_iff component, Fits, Fits, GenericType.references]

theorem arityFaultIn?_eq_none_iff : (declared : List GenericType) →
    (schema.arityFaultIn? declared = none ↔
      ∀ reference ∈ GenericType.referencesIn declared, schema.FitsReference reference)
  | [] => by simp [arityFaultIn?, GenericType.referencesIn]
  | first :: rest => by
      rw [arityFaultIn?, GenericType.referencesIn, List.forall_mem_append,
        ← arityFaultIn?_eq_none_iff rest, ← Fits, ← arityFault?_eq_none_iff first]
      cases schema.arityFault? first <;> simp
end

theorem superclassFault?_eq_none_iff : schema.superclassFault? node = none ↔
    ∀ declared ∈ node.superclass, ∃ base args, declared = .applied base args ∧
      node.isInterface = false ∧ schema.kind? base = some .classType ∧ schema.Fits declared := by
  unfold superclassFault?
  cases node.superclass with
  | none => simp
  | some declared =>
      cases declared with
      | var name => simp [GenericType.base?]
      | array component erased => simp [GenericType.base?]
      | applied base args =>
          by_cases hinterface : node.isInterface
          · simp [GenericType.base?, hinterface]
          · by_cases hkind : schema.kind? base = some .classType
            · simp [GenericType.base?, hinterface, hkind, arityFault?_eq_none_iff]
            · simp [GenericType.base?, hinterface, hkind]

theorem interfaceFault?_eq_none_iff {declared : GenericType} :
    schema.interfaceFault? declared = none ↔ ∃ base args, declared = .applied base args ∧
      schema.kind? base = some .interfaceType ∧ schema.Fits declared := by
  unfold interfaceFault?
  cases declared with
  | var name => simp [GenericType.base?]
  | array component erased => simp [GenericType.base?]
  | applied base args =>
      by_cases hkind : schema.kind? base = some .interfaceType
      · simp [GenericType.base?, hkind, arityFault?_eq_none_iff]
      · simp [GenericType.base?, hkind]

theorem fieldFault?_eq_none_iff {field : DeclaredField} :
    schema.fieldFault? field = none ↔ schema.Fits field.declared := by
  rw [fieldFault?, Option.map_eq_none_iff, arityFault?_eq_none_iff]

/-- Nothing is wrong with a type if its superclass is a class and its interfaces are interfaces, if
the references in them and in its fields fit, and if its superclasses come to an end. -/
theorem hierarchyFault?_eq_none_iff : schema.hierarchyFault? node = none ↔
    (∀ declared ∈ node.superclass, ∃ base args, declared = .applied base args ∧
      node.isInterface = false ∧ schema.kind? base = some .classType ∧ schema.Fits declared) ∧
    (∀ declared ∈ node.interfaces, ∃ base args, declared = .applied base args ∧
      schema.kind? base = some .interfaceType ∧ schema.Fits declared) ∧
    (∀ field ∈ node.fields, schema.Fits field.declared) ∧
    schema.repeatedAncestor? [node.key] (schema.size + 1) node.superclassKey? = none := by
  simp only [hierarchyFault?, Option.or_eq_none_iff, superclassFault?_eq_none_iff,
    List.findSome?_eq_none_iff, interfaceFault?_eq_none_iff, fieldFault?_eq_none_iff, cycleFault?,
    Option.map_eq_none_iff]

theorem fits_of_hierarchyFault? (h : schema.hierarchyFault? node = none) :
    ∀ declared ∈ node.checkedTypes, schema.Fits declared := by
  obtain ⟨hsuperclass, hinterfaces, hfields, -⟩ := hierarchyFault?_eq_none_iff.1 h
  simp only [TypeBody.checkedTypes, List.forall_mem_append, Option.mem_toList, List.forall_mem_map]
  refine ⟨⟨fun declared hdeclared => ?_, fun declared hdeclared => ?_⟩, hfields⟩
  · obtain ⟨_, _, -, -, -, hfits⟩ := hsuperclass declared hdeclared
    exact hfits
  · obtain ⟨_, _, -, -, hfits⟩ := hinterfaces declared hdeclared
    exact hfits

end Schema

open Schema in
/-- In a schema that was built, all references of superclasses, interfaces and fields fit, and so
all references do exactly if those of bounds and methods do. -/
theorem Declarations.fits_iff {declarations : Declarations} {schema : Schema}
    (h : declarations.build = .ok schema) :
    (∀ node ∈ schema.nodes, ∀ declared ∈ node.checkedTypes, schema.Fits declared) ∧
      ((∀ node ∈ schema.nodes, ∀ declared ∈ node.declaredTypes, schema.Fits declared) ↔
        ∀ node ∈ schema.nodes, ∀ declared ∈ node.uncheckedTypes, schema.Fits declared) := by
  have populated := populated_of_ofTypes (ofTypes_of_build h)
  have hchecked : ∀ node ∈ schema.nodes, ∀ declared ∈ node.checkedTypes, schema.Fits declared := by
    intro node hmem
    obtain ⟨place, hnode⟩ := List.mem_iff_getElem?.1 hmem
    have hnode : schema.node? ⟨place⟩ = some node := hnode
    rcases populated.node?_cases hnode with ⟨-, hbuiltin⟩ |
      ⟨other, declaration, body, hplace, hkey, -, -⟩ | ⟨-, hbare, -⟩
    · intro declared hdeclared
      have hmem := TypeBody.mem_declaredTypes.2 (.inl hdeclared)
      rw [(builtin_of_node? hbuiltin).2.1] at hmem
      cases hmem
    · exact fits_of_hierarchyFault? (hierarchyFault?_of_ofTypes (ofTypes_of_build h)
        (List.getElem?_eq_some_iff.1 hplace).1 (hkey ▸ hnode))
    · rw [hbare]
      exact List.forall_mem_nil _
  refine ⟨hchecked, fun hall node hnode declared hdeclared => ?_,
    fun hunchecked node hnode declared hdeclared => ?_⟩
  · exact hall node hnode declared (TypeBody.mem_declaredTypes.2 (.inr hdeclared))
  · rcases TypeBody.mem_declaredTypes.1 hdeclared with hdeclared | hdeclared
    · exact hchecked node hnode declared hdeclared
    · exact hunchecked node hnode declared hdeclared

def Declarations.atlas : Declarations :=
  .ofList [
    { name := "Atlas", params := [("T", some "List<Sheet<T>>")],
      methods := [
        { name := "getSheets", shape := .getter, type := some "[Map<String, [List]>]" }] }]

/-- References fit in the bound and behind the getter, and so they do everywhere. -/
theorem Declarations.fits_iff_atlas :
    atlas.build.isOk ∧
      ∀ node ∈ atlas.schema.nodes, ∀ declared ∈ node.declaredTypes, atlas.schema.Fits declared := by
  have hbuild : atlas.build.isOk := by decide +kernel
  exact ⟨hbuild, (fits_iff (build_eq_schema hbuild)).2.2 (by decide +kernel)⟩

def Declarations.article : Declarations :=
  .ofList [
    { name := "Article",
      methods := [{ name := "getTags", shape := .getter, type := some "Map<String>" }] }]

/-- The references of a schema need not fit. -/
theorem Declarations.not_fits_article :
    ¬ ∀ (declarations : Declarations) (schema : Schema), declarations.build = .ok schema →
      ∀ node ∈ schema.nodes, ∀ declared ∈ node.declaredTypes, schema.Fits declared := by
  intro h
  have hall := h article article.schema (build_eq_schema (by decide +kernel))
  revert hall
  decide +kernel

end ObjectDocument
