import ObjectDocument.Convention.Basic

/-!
# Properties from fields

Every field of a type and its ancestors is a property of its entity.  An array is read and written
element by element, unless it is an array of bytes.
-/

namespace ObjectDocument

namespace DeclaredField

def accessor (schema : Schema) (depth : Nat) (type : TypeDescriptor) (name : String) : Accessor :=
  match schema.componentOf? type.base with
  | some component =>
    if schema.boxed component = .byte then .field name depth
    else .array name depth (schema.elementKind component)
  | none => .field name depth

def draft (context : Context) (lineage : Lineage) (declaring : TypeKey) (depth : Nat)
    (field : DeclaredField) : PropertyDraft :=
  let suggested := TypeDescriptor.describe context.schema declaring field.declared
  let type := lineage.memberType context.schema declaring suggested field.declared
  { name := some field.name
    mappedName := some (PropertyDraft.mappedNameOf context.settings field.name field.metadata)
    type := some type
    metadata := field.metadata
    accessor := some (accessor context.schema depth type field.name)
    declaringType := some declaring }

end DeclaredField

def Lineage.fieldDrafts (lineage : Lineage) (context : Context) : List PropertyDraft :=
  lineage.levels.flatMap fun (declaring, depth) =>
    (((context.schema.node? declaring).map (·.fields)).getD []).map
      (DeclaredField.draft context lineage declaring depth)

def Convention.fieldDiscovery : Convention where
  name := "FieldDiscovery"
  apply context := modify fun draft => draft.addProperties (draft.lineage.fieldDrafts context)

end ObjectDocument
