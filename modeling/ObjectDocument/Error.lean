import ObjectDocument.Bson.Basic
import ObjectDocument.GenericType
import ObjectDocument.TypeExpr.Parser
import ObjectDocument.Validation.Violation

/-!
# Errors

Every way in which an operation fails, as its cause.  The wording of all of them is in the
functions named `text`, so what a caller reads follows from what happened.
-/

namespace ObjectDocument

inductive ConversionFault where
  | unexpected (expected : String) (found : Bson.Sort)
  | length (expected found : Nat)
deriving DecidableEq, Repr

def ConversionFault.text : ConversionFault → String
  | .unexpected expected found => "expected " ++ expected ++ ", found " ++ found.name
  | .length expected found =>
    "expected " ++ toString expected ++ " elements, found " ++ toString found

structure ArityFault where
  type : String
  expected : Nat
  found : Nat
deriving DecidableEq, Repr

def ArityFault.text (fault : ArityFault) : String :=
  fault.type ++ " expects " ++ toString fault.expected ++ " type arguments, found " ++
    toString fault.found

inductive HierarchyFault where
  | unnamedSuperclass
  | interfaceExtends
  | superclassKind (superclass : String)
  | notInterface (declared : GenericType)
  | arity (fault : ArityFault)
  | fieldArity (field : String) (fault : ArityFault)
  | cyclic (ancestor : String)
deriving DecidableEq, Repr

def HierarchyFault.text : HierarchyFault → String
  | .unnamedSuperclass => "the superclass must be a named class"
  | .interfaceExtends => "interfaces cannot extend a class"
  | .superclassKind superclass => "superclass " ++ superclass ++ " is not a class"
  | .notInterface declared => declared.describe ++ " is not an interface"
  | .arity fault => fault.text
  | .fieldArity field fault => "field " ++ field ++ ": " ++ fault.text
  | .cyclic ancestor => "cyclic superclass chain through " ++ ancestor

inductive SchemaFault where
  | expression (source : String) (fault : TypeExpr.Fault)
  | duplicate (type : String)
  | builtin (type : String)
  | variableArguments (name : String)
  | variableBound (parameter type : String)
  | hierarchy (type : String) (fault : HierarchyFault)
deriving DecidableEq, Repr

def SchemaFault.text : SchemaFault → String
  | .expression source fault => fault.text ++ " in type expression '" ++ source ++ "'"
  | .duplicate type => "type " ++ type ++ " is defined more than once"
  | .builtin type => "type " ++ type ++ " shadows a built-in type"
  | .variableArguments name => "type variable " ++ name ++ " cannot take type arguments"
  | .variableBound parameter type =>
    "type parameter " ++ parameter ++ " of " ++ type ++ " is bounded by a bare type variable"
  | .hierarchy type fault => type ++ ": " ++ fault.text

inductive PropertyPart where
  | name
  | mappedName
  | type
  | accessor
  | nonemptyMappedName
deriving DecidableEq, Repr

def PropertyPart.text : PropertyPart → String
  | .name => "name"
  | .mappedName => "mapped name"
  | .type => "type"
  | .accessor => "accessor"
  | .nonemptyMappedName => "non-empty mapped name"

inductive ModelFault where
  | notMappable
  | noDiscriminatorKey
  | noDiscriminator
  | emptyCollection
  | unnamedProperty
  | incomplete (property : Option String) (part : PropertyPart)
  | repeatedProperty (property : String)
deriving DecidableEq, Repr

def ModelFault.text : ModelFault → String
  | .notMappable => "only classes and interfaces can be mapped"
  | .noDiscriminatorKey => "the discriminator is enabled but no discriminator key is set"
  | .noDiscriminator => "the discriminator is enabled but no discriminator value is set"
  | .emptyCollection => "the collection name is empty"
  | .unnamedProperty => "property has no name"
  | .incomplete property part => "property " ++ property.getD "<unnamed>" ++ " has no " ++ part.text
  | .repeatedProperty property => "property " ++ property ++ " is discovered more than once"

inductive MappingError where
  /-- A property, named with its type, could not be read or written on an instance. -/
  | mapping (property : String) (cause : MappingError)
  | conversion (fault : ConversionFault)
  | invalidSchema (fault : SchemaFault)
  | invalidModel (type : String) (fault : ModelFault)
  | validation (failure : ValidationFailure)
  | notFound (element : String)
  /-- A model was asked for while its own making had not come to a model yet. -/
  | cyclicMapping (type : String)
  /-- A text or a value is not of the form that it is stored in. -/
  | serialization (reason : String)
deriving DecidableEq, Repr

def MappingError.text : MappingError → String
  | .mapping property cause => "Mapping failure on " ++ property ++ ": " ++ cause.text
  | .conversion fault => "Conversion error: " ++ fault.text
  | .invalidSchema fault => "Invalid schema: " ++ fault.text
  | .invalidModel type fault => "Invalid entity model for " ++ type ++ ": " ++ fault.text
  | .validation failure => failure.render
  | .notFound element => "No such element: " ++ element
  | .cyclicMapping type => "Cyclic mapping detected while building " ++ type
  | .serialization reason => "Serialization error: " ++ reason

inductive MappingError.OfValue : MappingError → Prop where
  | conversion (fault : ConversionFault) : OfValue (.conversion fault)
  | serialization (reason : String) : OfValue (.serialization reason)

def MappingError.unexpected (expected : String) (found : Bson) : MappingError :=
  .conversion (.unexpected expected found.sort)

def TypeExpr.parse (source : String) : Except MappingError TypeExpr :=
  (TypeExpr.read source.toList).mapError fun fault => .invalidSchema (.expression source fault)

end ObjectDocument
