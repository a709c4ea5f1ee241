import ObjectDocument.Lineage

/-!
# Schemas with other methods

The methods of a type are looked at when properties are made of them, and before that by nothing.
What a type inherits (`Lineage.ofNode_arranged`), and how the types of its members are described
(`Lineage.memberType_arranged`), is the same in a schema whose types have other methods, or the same
methods in another order.
-/

namespace ObjectDocument

def TypeNode.arranged (arrange : TypeNode → List DeclaredMethod) (node : TypeNode) : TypeNode :=
  { node with methods := arrange node }

def Schema.arranged (schema : Schema) (arrange : TypeNode → List DeclaredMethod) : Schema :=
  ⟨schema.nodes.map (TypeNode.arranged arrange)⟩

variable {schema : Schema} {arrange : TypeNode → List DeclaredMethod}

namespace Schema

@[simp] theorem size_arranged : (schema.arranged arrange).size = schema.size :=
  List.length_map _

theorem node?_arranged (key : TypeKey) :
    (schema.arranged arrange).node? key = (schema.node? key).map (TypeNode.arranged arrange) :=
  List.getElem?_map

@[simp] theorem kind?_arranged (key : TypeKey) :
    (schema.arranged arrange).kind? key = schema.kind? key := by
  unfold kind?
  rw [node?_arranged]
  cases schema.node? key <;> rfl

@[simp] theorem boxed_arranged (key : TypeKey) :
    (schema.arranged arrange).boxed key = schema.boxed key := by
  simp [boxed]

@[simp] theorem paramsOf_arranged (key : TypeKey) :
    (schema.arranged arrange).paramsOf key = schema.paramsOf key := by
  unfold paramsOf
  rw [node?_arranged]
  cases schema.node? key <;> rfl

@[simp] theorem erasure_arranged (owner : TypeKey) (declared : GenericType) :
    (schema.arranged arrange).erasure owner declared = schema.erasure owner declared := by
  simp [erasure]

@[simp] theorem superclassOf?_arranged (key : TypeKey) :
    (schema.arranged arrange).superclassOf? key = schema.superclassOf? key := by
  unfold superclassOf?
  rw [node?_arranged]
  cases schema.node? key <;> rfl

@[simp] theorem interfacesOf_arranged (key : TypeKey) :
    (schema.arranged arrange).interfacesOf key = schema.interfacesOf key := by
  unfold interfacesOf
  rw [node?_arranged]
  cases schema.node? key <;> rfl

@[simp] theorem declaredSuperclass?_arranged (key : TypeKey) :
    (schema.arranged arrange).declaredSuperclass? key = schema.declaredSuperclass? key := by
  unfold declaredSuperclass?
  rw [node?_arranged]
  cases schema.node? key <;> rfl

@[simp] theorem ancestors_arranged (key : TypeKey) :
    (schema.arranged arrange).ancestors key = schema.ancestors key :=
  ancestors_congr (funext kind?_arranged) (funext superclassOf?_arranged) size_arranged key

@[simp] theorem interfaceClosure_arranged (keys : List TypeKey) :
    (schema.arranged arrange).interfaceClosure keys = schema.interfaceClosure keys := by
  refine interfaceClosure_congr (funext interfacesOf_arranged) ?_ keys
  rw [implementsCount, implementsCount, arranged, List.flatMap_map]
  rfl

@[simp] theorem bindArgs_arranged (base : TypeKey) (args : List GenericType) :
    (schema.arranged arrange).bindArgs base args = schema.bindArgs base args := by
  simp [bindArgs]

@[simp] theorem directBindings_arranged (steps : Nat) (key : TypeKey) :
    (schema.arranged arrange).directBindings steps key = schema.directBindings steps key := by
  induction steps generalizing key with
  | zero => rfl
  | succ steps ih => simp [directBindings, ih]

end Schema

namespace TypeDescriptor

theorem build_arranged (base : TypeKey) (params : List TypeDescriptor) :
    build (schema.arranged arrange) base params = build schema base params := by
  simp [build]

mutual
theorem describe_arranged (owner : TypeKey) : (declared : GenericType) →
    describe (schema.arranged arrange) owner declared = describe schema owner declared
  | .applied base args => by
      rw [describe, describe, build_arranged, describeList_arranged owner args]
  | .var name => by
      rw [describe, describe, build_arranged, Schema.erasure_arranged]
  | .array component erased => by
      rw [describe, describe, build_arranged, Schema.erasure_arranged]

theorem describeList_arranged (owner : TypeKey) : (declared : List GenericType) →
    describeList (schema.arranged arrange) owner declared = describeList schema owner declared
  | [] => rfl
  | declared :: rest => by
      rw [describeList, describeList, describe_arranged owner declared,
        describeList_arranged owner rest]
end

end TypeDescriptor

namespace Lineage

/-- Methods decide nothing of what a type inherits. -/
theorem ofNode_arranged (node : TypeNode) :
    ofNode (schema.arranged arrange) (node.arranged arrange) = ofNode schema node := by
  have hmetadata (keys : List TypeKey) (metadata : Metadata) :
      (keys.filterMap (schema.arranged arrange).node?).foldl
          (fun metadata other => metadata.inherit other.metadata) metadata =
        (keys.filterMap schema.node?).foldl
          (fun metadata other => metadata.inherit other.metadata) metadata := by
    rw [funext Schema.node?_arranged, ← List.map_filterMap, List.foldl_map]
    rfl
  have hkey : (node.arranged arrange).key = node.key := rfl
  have hown : (node.arranged arrange).metadata = node.metadata := rfl
  simp only [ofNode, hkey, hown, Schema.ancestors_arranged, Schema.interfaceClosure_arranged,
    Schema.size_arranged, Schema.directBindings_arranged, hmetadata]

theorem memberType_arranged (lineage : Lineage) (declaring : TypeKey)
    (suggested : TypeDescriptor) (declared : GenericType) :
    lineage.memberType (schema.arranged arrange) declaring suggested declared =
      lineage.memberType schema declaring suggested declared := by
  simp only [memberType, TypeDescriptor.withBase, TypeDescriptor.build_arranged,
    TypeDescriptor.describe_arranged]

end Lineage

end ObjectDocument
