import ObjectDocument.Schema.Basic

/-!
# Type descriptors

A descriptor is what is known of a property's type when no type variable is left in it: a base type
and descriptors of its arguments.  A primitive is described by its scalar, so that both have the
same descriptor.
-/

namespace ObjectDocument

/-- A base type with descriptors of its arguments. -/
inductive TypeDescriptor where
  | mk (base : TypeKey) (params : List TypeDescriptor)
deriving Repr, Inhabited

namespace TypeDescriptor

def base : TypeDescriptor → TypeKey
  | mk base _ => base

def params : TypeDescriptor → List TypeDescriptor
  | mk _ params => params

mutual
def decEq : (a b : TypeDescriptor) → Decidable (a = b)
  | mk base params, mk base' params' =>
    if h : base = base' then
      match decEqList params params' with
      | isTrue h' => isTrue (by rw [h, h'])
      | isFalse h' => isFalse fun e => h' (by injection e)
    else isFalse fun e => h (by injection e)

def decEqList : (as bs : List TypeDescriptor) → Decidable (as = bs)
  | [], [] => isTrue rfl
  | a :: as, b :: bs =>
    match decEq a b, decEqList as bs with
    | isTrue h, isTrue h' => isTrue (by rw [h, h'])
    | isFalse h, _ => isFalse fun e => h (by injection e)
    | _, isFalse h => isFalse fun e => h (by injection e)
  | [], _ :: _ | _ :: _, [] => isFalse (by intro h; cases h)
end

instance : DecidableEq TypeDescriptor := decEq

def build (schema : Schema) (base : TypeKey) (params : List TypeDescriptor) : TypeDescriptor :=
  mk (schema.boxed base) params

mutual
/-- The descriptor of a type as declared on `owner`.  Variables and arrays are erased. -/
def describe (schema : Schema) (owner : TypeKey) : GenericType → TypeDescriptor
  | .applied base args => build schema base (describeList schema owner args)
  | .var name => build schema (schema.erasure owner (.var name)) []
  | .array component erased => build schema (schema.erasure owner (.array component erased)) []

def describeList (schema : Schema) (owner : TypeKey) : List GenericType → List TypeDescriptor
  | [] => []
  | declared :: rest => describe schema owner declared :: describeList schema owner rest
end

def withBase (descriptor : TypeDescriptor) (schema : Schema) (base : TypeKey) : TypeDescriptor :=
  build schema base descriptor.params

def paramBase (descriptor : TypeDescriptor) (index : Nat) : TypeKey :=
  (descriptor.params[index]?.map base).getD .object

mutual
def text (schema : Schema) : TypeDescriptor → String
  | mk base [] => schema.name base
  | mk base (param :: params) =>
    schema.name base ++ "<" ++ text schema param ++ textAfter schema params ++ ">"

def textAfter (schema : Schema) : List TypeDescriptor → String
  | [] => ""
  | param :: params => ", " ++ text schema param ++ textAfter schema params
end

end TypeDescriptor

end ObjectDocument
