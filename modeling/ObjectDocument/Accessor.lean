import ObjectDocument.Instance

/-!
# Accessors

How the value of a property is read from an instance and written into it.  An accessor first follows
a number of parent links, because the members of an ancestor lie in a part of their own.  An array
accessor also brings every element to the representation of the element type: a value before it is
written, and what was read after it is read.
-/

namespace ObjectDocument

-- Powers are those of `Nat` and `Int` themselves, whatever algebra is at hand.  Exponents that are
-- numerals have their type written for the same reason.
attribute [local instance (high)] instPowNat

/-- The representation that the elements of an array are brought to. -/
inductive ElementKind where
  | boolean
  | int32
  | int64
  | double
  | string
  | any
deriving DecidableEq, Repr

def ElementKind.text : ElementKind → String
  | .boolean => "Bool"
  | .int32 => "Int32"
  | .int64 => "Int64"
  | .double => "Double"
  | .string => "String"
  | .any => "Any"

def ElementKind.coerce? (kind : ElementKind) (value : Bson) : Option Bson :=
  match kind, value with
  | _, .null => some .null
  | .any, value => some value
  | .boolean, .boolean b => some (.boolean b)
  | .string, .string text => some (.string text)
  | .int32, value =>
    value.toInt?.bind fun n =>
      if -2 ^ (31 : Nat) ≤ n ∧ n < 2 ^ (31 : Nat) then some (.int32 (Int32.ofInt n)) else none
  | .int64, value => value.toInt?.map fun n => .int64 (Int64.ofInt n)
  | .double, value => value.toDouble?.map .double
  | _, _ => none

def ElementKind.coerce (kind : ElementKind) (value : Bson) : Except MappingError Bson :=
  match kind.coerce? value with
  | some coerced => .ok coerced
  | none => .error (.unexpected (kind.text ++ " element") value)

/-- Brings the elements of an array to a representation.  A missing array stays missing. -/
def ElementKind.coerceArray (kind : ElementKind) : Bson → Except MappingError Bson
  | .array items => Bson.array <$> items.mapM kind.coerce
  | .null => .ok .null
  | value => .error (.unexpected "array" value)

/-- How the value of a property is reached. -/
inductive Accessor where
  | field (field : String) (depth : Nat)
  | method (getter setter : String) (depth : Nat)
  | array (field : String) (depth : Nat) (element : ElementKind)
deriving DecidableEq, Repr

namespace Accessor

def depth : Accessor → Nat
  | .field _ depth => depth
  | .method _ _ depth => depth
  | .array _ depth _ => depth

variable [ValueTypes]

def readField (name : String) (part : Part) : Except MappingError Bson :=
  (part.readField? name).getD (.error (.notFound ("field " ++ name)))

def writeField (name : String) (value : Bson) (part : Part) : Part × Except MappingError Unit :=
  (part.writeField? name value).getD (part, .error (.notFound ("field " ++ name)))

def callGetter (getter : String) (part : Part) : Except MappingError Bson :=
  (part.callGetter? getter).getD (.error (.notFound ("method " ++ getter)))

def callSetter (setter : String) (value : Bson) (part : Part) : Part × Except MappingError Unit :=
  (part.callSetter? setter value).getD (part, .error (.notFound ("method " ++ setter)))

def updatePart (object : Instance) (depth : Nat) (update : Part → Part × Except MappingError Unit) :
    Instance × Except MappingError Unit :=
  match object.part depth with
  | .ok part =>
    let (part, outcome) := update part
    (object.setPart depth part, outcome)
  | .error cause => (object, .error cause)

def get (accessor : Accessor) (object : Instance) : Except MappingError Bson :=
  match accessor with
  | .field name depth => object.part depth >>= readField name
  | .method getter _ depth => object.part depth >>= callGetter getter
  | .array name depth element => object.part depth >>= readField name >>= element.coerceArray

/-- Writes a value into an instance.  The instance after it is there whether the value was taken or
not. -/
def set (accessor : Accessor) (object : Instance) (value : Bson) :
    Instance × Except MappingError Unit :=
  match accessor with
  | .field name depth => updatePart object depth (writeField name value)
  | .method _ setter depth => updatePart object depth (callSetter setter value)
  | .array name depth element =>
    match element.coerceArray value with
    | .ok coerced => updatePart object depth (writeField name coerced)
    | .error cause => (object, .error cause)

end Accessor

end ObjectDocument
