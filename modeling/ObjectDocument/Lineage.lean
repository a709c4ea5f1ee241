import ObjectDocument.Descriptor
import ObjectDocument.Schema.Check

/-!
# Lineage

What a type inherits from: its ancestors, every interface that it or an ancestor implements,
directly or through another interface, and what the type variables of each ancestor stand for.

An ancestor's variables are bound by the arguments that its subclass passes.  Such an argument may
be a variable of the subclass, which the next subclass binds in turn: `propagate` follows these
bindings down the chain.
-/

namespace ObjectDocument

/-- What the type variables of a type stand for. -/
abbrev Bindings := OrderedMap String GenericType

/-- The bindings of each ancestor of a type, root-most first. -/
abbrev Parameterization := List (TypeKey × Bindings)

namespace Schema

def interfacesOf (schema : Schema) (key : TypeKey) : List TypeKey :=
  ((schema.node? key).map fun node => node.interfaceKeys).getD []

def declaredSuperclass? (schema : Schema) (key : TypeKey) : Option GenericType :=
  (schema.node? key).bind (·.superclass)

def superclassChain (schema : Schema) (visited : List TypeKey) :
    Nat → Option TypeKey → List TypeKey
  | 0, _ => []
  | _, none => []
  | steps + 1, some key =>
    if key = .object ∨ schema.kind? key = some .enumType ∨ key ∈ visited then []
    else key :: superclassChain schema (key :: visited) steps (schema.superclassOf? key)

def ancestors (schema : Schema) (key : TypeKey) : List TypeKey :=
  schema.superclassChain [] schema.size (schema.superclassOf? key)

def implementsCount (schema : Schema) : Nat :=
  (schema.nodes.flatMap fun node => node.interfaceKeys).length

/-- The interfaces found so far and those that `pending` leads to, each interface before those that
it extends, in a number of steps. -/
def collectInterfaces (schema : Schema) :
    Nat → (found pending : List TypeKey) → List TypeKey
  | 0, found, _ => found
  | _, found, [] => found
  | steps + 1, found, key :: pending =>
    if key ∈ found then collectInterfaces schema steps found pending
    else collectInterfaces schema steps (found ++ [key]) (schema.interfacesOf key ++ pending)

/-- Every interface that one of the types implements, each once.  A step either takes a pending
interface off or puts what it extends in its place, which happens once for each, so the steps are
no more than the pending interfaces and those that types name together. -/
def interfaceClosure (schema : Schema) (keys : List TypeKey) : List TypeKey :=
  let pending := keys.flatMap schema.interfacesOf
  schema.collectInterfaces (pending.length + schema.implementsCount) [] pending

/-- Ancestors are decided by the kinds and superclasses of types and by their number. -/
theorem ancestors_congr {schema other : Schema} (hkind : schema.kind? = other.kind?)
    (hsuperclass : schema.superclassOf? = other.superclassOf?) (hsize : schema.size = other.size)
    (key : TypeKey) : schema.ancestors key = other.ancestors key := by
  have hchain (visited : List TypeKey) (steps : Nat) (start : Option TypeKey) :
      schema.superclassChain visited steps start = other.superclassChain visited steps start := by
    induction steps generalizing visited start with
    | zero => rfl
    | succ steps ih => cases start <;> simp [superclassChain, ih, hkind, hsuperclass]
  simp [ancestors, hchain, hsuperclass, hsize]

theorem interfaceClosure_congr {schema other : Schema}
    (hinterfaces : schema.interfacesOf = other.interfacesOf)
    (hcount : schema.implementsCount = other.implementsCount) (keys : List TypeKey) :
    schema.interfaceClosure keys = other.interfaceClosure keys := by
  have hcollect (steps : Nat) (found pending : List TypeKey) :
      schema.collectInterfaces steps found pending =
        other.collectInterfaces steps found pending := by
    induction steps generalizing found pending with
    | zero => rfl
    | succ steps ih => cases pending <;> simp [collectInterfaces, ih, hinterfaces]
  simp [interfaceClosure, hcollect, hinterfaces, hcount]

/-- What the parameters of a type stand for, given the arguments of a reference to it.  Of a
repeated parameter the last argument counts. -/
def bindArgs (schema : Schema) (base : TypeKey) (args : List GenericType) : Bindings :=
  OrderedMap.ofEntries (((schema.paramsOf base).map (·.name)).zip args)

/-- The bindings that each reference to a superclass makes, root-most first, in a number of
steps. -/
def directBindings (schema : Schema) : Nat → TypeKey → Parameterization
  | 0, _ => []
  | steps + 1, key =>
    match schema.declaredSuperclass? key with
    | some (.applied base args) =>
      if base = .object then []
      else directBindings schema steps base ++ [(base, schema.bindArgs base args)]
    | _ => []

end Schema

/-- What a declared type stands for, given the bindings of each nearer type in turn.  A variable is
replaced as long as the next type binds it. -/
def GenericType.chase : List Bindings → GenericType → GenericType
  | bindings :: nearer, .var name =>
    match bindings.get? name with
    | some binding => chase nearer binding
    | none => .var name
  | _, declared => declared

def Parameterization.propagate : Parameterization → Parameterization
  | [] => []
  | (key, bindings) :: nearer =>
    (key, bindings.map fun (name, binding) => (name, binding.chase (nearer.map (·.2)))) ::
      propagate nearer

structure Lineage where
  typeKey : TypeKey
  /-- The ancestor classes, nearest first, without the root. -/
  classes : List TypeKey
  /-- Every interface of the type and its ancestors, each once. -/
  interfaces : List TypeKey
  parameterization : Parameterization
  /-- The metadata of the type, completed by its ancestors and then by its interfaces. -/
  metadata : Metadata
deriving DecidableEq, Repr

namespace Lineage

def ofNode (schema : Schema) (node : TypeNode) : Lineage :=
  let classes := schema.ancestors node.key
  let interfaces := schema.interfaceClosure (node.key :: classes)
  let inherited := (classes ++ interfaces).filterMap schema.node?
  { typeKey := node.key
    classes, interfaces
    parameterization := (schema.directBindings schema.size node.key).propagate
    metadata := inherited.foldl (fun metadata other => metadata.inherit other.metadata)
      node.metadata }

def resolveVariable? (lineage : Lineage) (declaring : TypeKey) (name : String) :
    Option GenericType :=
  (lineage.parameterization.lookup declaring).bind (OrderedMap.get? name)

/-- The types whose members an entity has, root-most first, each with the number of parent links to
its part of an instance. -/
def levels (lineage : Lineage) : List (TypeKey × Nat) :=
  (lineage.classes.zipIdx 1).reverse ++ [(lineage.typeKey, 0)]

/-- The descriptor of a member declared on an ancestor.  If its type is a variable that is bound,
the binding takes the place of the base type of `suggested`, or of all of it if the binding has
arguments. -/
def memberType (lineage : Lineage) (schema : Schema) (declaring : TypeKey)
    (suggested : TypeDescriptor) (declared : GenericType) : TypeDescriptor :=
  match declared.variableName?.bind (lineage.resolveVariable? declaring) with
  | some (.applied base []) => suggested.withBase schema base
  | some (.applied base (arg :: args)) =>
    TypeDescriptor.describe schema declaring (.applied base (arg :: args))
  | some (.array _ erased) => suggested.withBase schema erased
  | some (.var _) | none => suggested

end Lineage

end ObjectDocument
