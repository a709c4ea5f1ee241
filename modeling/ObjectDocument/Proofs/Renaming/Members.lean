import ObjectDocument.Proofs.Draft.Members
import ObjectDocument.Proofs.Renaming.Lineage

/-!
# Members under renamed type parameters

Renaming type parameters renames the declared types of members and nothing else of them, so the
drafts that are stored stay exactly if their types do (`stored_eq_iff`).
-/

namespace ObjectDocument

def Member.rename (renames : Renaming) (member : Member) : Member :=
  { member with declared := member.declared.rename (renames.within member.declaring) }

namespace DeclaredMethod

variable {names : String → String}

@[simp] theorem pair?_rename (methods : List DeclaredMethod) :
    pair? (methods.map (rename names)) =
      (pair? methods).map (Prod.map (rename names) (rename names)) := by
  have hgetter : isGetter ∘ rename names = isGetter := rfl
  have hsetter : isSetter ∘ rename names = isSetter := rfl
  unfold pair?
  rw [List.length_map, List.find?_map, List.find?_map, hgetter, hsetter]
  by_cases h : methods.length = 2
  · rw [if_pos h, if_pos h]
    cases methods.find? isGetter <;> cases methods.find? isSetter <;> rfl
  · rw [if_neg h, if_neg h]
    rfl

theorem groups_rename (methods : List DeclaredMethod) :
    groups (methods.map (rename names)) =
      (groups methods).map (Prod.map id (List.map (rename names))) := by
  simp only [groups, List.filterMap_map, List.map_map, List.filter_map]
  rfl

end DeclaredMethod

namespace Lineage

variable {schema : Schema} {renames : Renaming} {lineage other : Lineage}

theorem levels_eq (corresponds : lineage.Corresponds renames other) :
    other.levels = lineage.levels := by
  rw [corresponds.same]
  rfl

theorem levelFields_rename (corresponds : lineage.Corresponds renames other) :
    other.levelFields (schema.rename renames) =
      (lineage.levelFields schema).map fun (level, field) =>
        (level, field.rename (renames.within level.1)) := by
  rw [levelFields, levelFields, levels_eq corresponds, List.map_flatMap]
  refine List.flatMap_congr fun level _ => ?_
  rw [Schema.node?_rename]
  cases schema.node? level.1 with
  | none => rfl
  | some node => simp [TypeNode.rename, TypeBody.rename, Function.comp_def]

theorem methodGroups_rename (corresponds : lineage.Corresponds renames other) :
    other.methodGroups (schema.rename renames) =
      (lineage.methodGroups schema).map fun (level, name, methods) =>
        (level, name, methods.map (DeclaredMethod.rename (renames.within level.1))) := by
  rw [methodGroups, methodGroups, levels_eq corresponds, List.map_flatMap]
  refine List.flatMap_congr fun level _ => ?_
  rw [Schema.node?_rename]
  cases schema.node? level.1 with
  | none => rfl
  | some node =>
      simp [TypeNode.rename, TypeBody.rename, DeclaredMethod.groups_rename, Function.comp_def]

theorem methodRecords_rename (corresponds : lineage.Corresponds renames other) :
    other.methodRecords (schema.rename renames) = lineage.methodRecords schema := by
  rw [methodRecords, methodRecords, methodGroups_rename corresponds, List.filterMap_map]
  refine List.filterMap_congr fun entry _ => ?_
  obtain ⟨level, name, methods⟩ := entry
  simp only [Function.comp_def, DeclaredMethod.pair?_rename, Schema.name_rename]
  cases DeclaredMethod.pair? methods <;> rfl

end Lineage

def Context.rename (context : Context) (renames : Renaming) : Context :=
  { context with schema := context.schema.rename renames }

namespace Lineage

variable {context : Context} {renames : Renaming} {lineage other : Lineage}

theorem members_rename (corresponds : lineage.Corresponds renames other) :
    other.members (context.rename renames) =
      (lineage.members context).map (Member.rename renames) := by
  unfold members Context.rename
  cases context.settings.propertyDiscovery with
  | fields =>
      have haccessor : DeclaredField.accessor (context.schema.rename renames) =
          DeclaredField.accessor context.schema := by
        funext depth type name
        simp [DeclaredField.accessor]
      simp only [levelFields_rename corresponds, List.map_map]
      refine List.map_congr_left fun entry _ => ?_
      simp [Member.ofField, Member.rename, DeclaredField.rename, haccessor]
  | methods =>
      simp only [methodGroups_rename corresponds, List.filterMap_map, List.map_filterMap]
      refine List.filterMap_congr fun entry _ => ?_
      obtain ⟨level, name, methods⟩ := entry
      simp only [Function.comp_def, Member.ofMethods?, DeclaredMethod.pair?_rename]
      cases DeclaredMethod.pair? methods with
      | none => rfl
      | some pair =>
          cases hdeclared : pair.1.declared with
          | none => simp [DeclaredMethod.rename, hdeclared]
          | some declared => simp [DeclaredMethod.rename, hdeclared, Member.rename]

def storedErasures (lineage : Lineage) (context : Context) : List (List TypeKey) :=
  (lineage.storedMembers context).map fun member =>
    lineage.erasedArguments context.schema member.declaring member.declared

theorem storedMembers_rename (corresponds : lineage.Corresponds renames other) :
    other.storedMembers (context.rename renames) =
      (lineage.storedMembers context).map (Member.rename renames) := by
  rw [storedMembers, members_rename corresponds, List.filter_map]
  rfl

/-- The stored properties of a renamed type differ from those of the type in their types only. -/
theorem stored_rename (corresponds : lineage.Corresponds renames other) :
    other.stored (context.rename renames) = (lineage.storedMembers context).map fun member =>
      member.draft context.settings
        ((member.rename renames).type other (context.rename renames).schema) := by
  rw [stored_eq, storedMembers_rename corresponds, List.map_map]
  rfl

/-- The types of the stored properties stay exactly if their variables are described by the same
types. -/
theorem types_stored_eq_iff (corresponds : lineage.Corresponds renames other) :
    (other.stored (context.rename renames)).map (·.type) = (lineage.stored context).map (·.type) ↔
      other.storedErasures (context.rename renames) = lineage.storedErasures context := by
  rw [stored_rename corresponds, stored_eq, storedErasures, storedErasures,
    storedMembers_rename corresponds, List.map_map, List.map_map, List.map_map,
    List.map_inj_left, List.map_inj_left]
  refine forall₂_congr fun member _ => ?_
  have htype := @memberType_eq_iff context.schema renames lineage other corresponds
    member.declaring (TypeDescriptor.describe context.schema member.declaring member.declared)
    member.declared
  simpa [Member.draft, Member.type, Member.rename, Context.rename,
    TypeDescriptor.describe_rename] using htype

theorem stored_eq_iff (corresponds : lineage.Corresponds renames other) :
    other.stored (context.rename renames) = lineage.stored context ↔
      other.storedErasures (context.rename renames) = lineage.storedErasures context := by
  rw [← types_stored_eq_iff corresponds]
  refine ⟨fun h => by rw [h], fun h => ?_⟩
  rw [stored_rename corresponds, stored_eq, List.map_map, List.map_map, List.map_inj_left] at h
  rw [stored_rename corresponds, stored_eq, List.map_inj_left]
  intro member hmember
  rw [Option.some.inj (h member hmember)]

theorem storedErasures_eq_of_unbounded (corresponds : lineage.Corresponds renames other)
    (h : ∀ key, ∀ param ∈ context.schema.paramsOf key, param.bound = none) :
    other.storedErasures (context.rename renames) = lineage.storedErasures context := by
  have hrenamed (key : TypeKey) :
      ∀ param ∈ (context.schema.rename renames).paramsOf key, param.bound = none := by
    rw [Schema.paramsOf_rename, List.forall_mem_map]
    intro param hparam
    rw [TypeParam.rename, h key param hparam]
    rfl
  rw [storedErasures, storedErasures, storedMembers_rename corresponds, List.map_map,
    List.map_inj_left]
  intro member _
  refine erasedArguments_eq corresponds (fun name found => ?_) member.declared
  rw [TypeDescriptor.erasedVariable_of_unbounded (hrenamed _),
    TypeDescriptor.erasedVariable_of_unbounded (h _), Schema.boxed_rename]

end Lineage

end ObjectDocument
