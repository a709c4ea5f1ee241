import ObjectDocument.Error
import ObjectDocument.Schema.Basic

/-!
# The hierarchy of a schema

What every declared type of a schema has to satisfy: its superclass is a class, its interfaces are
interfaces, references have as many arguments as their types have parameters, and following
superclasses comes to an end.  The first fault found is the one reported.
-/

namespace ObjectDocument.Schema

mutual
/-- A reference inside of a declared type that has neither no arguments nor as many as its type has
parameters.  An undeclared type takes any number. -/
def arityFault? (schema : Schema) : GenericType → Option ArityFault
  | .applied base args =>
    let expected := (schema.paramsOf base).length
    if args ≠ [] ∧ schema.kind? base ≠ some .undeclared ∧ args.length ≠ expected then
      some { type := schema.name base, expected, found := args.length }
    else arityFaultIn? schema args
  | .array component _ => arityFault? schema component
  | .var _ => none

def arityFaultIn? (schema : Schema) : List GenericType → Option ArityFault
  | [] => none
  | declared :: rest =>
    match arityFault? schema declared with
    | some fault => some fault
    | none => arityFaultIn? schema rest
end

def superclassFault? (schema : Schema) (node : TypeNode) : Option HierarchyFault :=
  match node.superclass with
  | none => none
  | some declared =>
    match declared.base? with
    | none => some .unnamedSuperclass
    | some base =>
      if node.isInterface then some .interfaceExtends
      else if schema.kind? base ≠ some .classType then some (.superclassKind (schema.name base))
      else (schema.arityFault? declared).map .arity

def interfaceFault? (schema : Schema) (declared : GenericType) : Option HierarchyFault :=
  if declared.base?.bind schema.kind? = some .interfaceType then
    (schema.arityFault? declared).map .arity
  else
    some (.notInterface declared)

def fieldFault? (schema : Schema) (field : DeclaredField) : Option HierarchyFault :=
  (schema.arityFault? field.declared).map (.fieldArity field.name)

def superclassOf? (schema : Schema) (key : TypeKey) : Option TypeKey :=
  (schema.node? key).bind fun node => node.superclassKey?

/-- The first type that following superclasses meets again, in a number of steps.  The types met
are in `visited`. -/
def repeatedAncestor? (schema : Schema) (visited : List TypeKey) :
    Nat → Option TypeKey → Option TypeKey
  | 0, _ => none
  | _, none => none
  | steps + 1, some key =>
    if key ∈ visited then some key
    else repeatedAncestor? schema (key :: visited) steps (schema.superclassOf? key)

/-- What is wrong with the ancestors of a type.  There are no more different types to meet than the
schema has. -/
def cycleFault? (schema : Schema) (node : TypeNode) : Option HierarchyFault :=
  (schema.repeatedAncestor? [node.key] (schema.size + 1) node.superclassKey?).map fun ancestor =>
    .cyclic (schema.name ancestor)

def hierarchyFault? (schema : Schema) (node : TypeNode) : Option HierarchyFault :=
  (schema.superclassFault? node).or <|
    (node.interfaces.findSome? schema.interfaceFault?).or <|
      (node.fields.findSome? schema.fieldFault?).or <|
        schema.cycleFault? node

def check (schema : Schema) (node : TypeNode) : Except MappingError Unit :=
  match schema.hierarchyFault? node with
  | some fault => .error (.invalidSchema (.hierarchy node.name fault))
  | none => .ok ()

end ObjectDocument.Schema
