import ObjectDocument.Convention.Basic
import ObjectDocument.Text.Casing

/-!
# Properties from methods

A getter and a setter of one name are a property.  The name of the property is that of the method
without `get`, `set` or `is`, and with its first character in lower case.  The methods of a type are
grouped by this name, and a group is a property if it is one getter and one setter and nothing else.
-/

namespace ObjectDocument

def stripStart? (start text : List Char) : Option (List Char) :=
  if start.isPrefixOf text then some (text.drop start.length) else none

def propertyOfMethod? (method : String) : Option String :=
  let text := method.toList
  let stripped := (stripStart? "get".toList text).or <|
    (stripStart? "set".toList text).or <| stripStart? "is".toList text
  match stripped with
  | some (c :: rest) => some (String.ofList (Text.lowerChar c ++ rest))
  | _ => none

namespace DeclaredMethod

def startsWith (method : DeclaredMethod) (start : String) : Bool :=
  start.toList.isPrefixOf method.name.toList

def isGetter (method : DeclaredMethod) : Bool :=
  (method.startsWith "get" || method.startsWith "is") && method.shape = .getter

def isSetter (method : DeclaredMethod) : Bool :=
  method.startsWith "set" && method.shape = .setter

/-- The getter and the setter of a group of methods that is nothing else. -/
def pair? (methods : List DeclaredMethod) : Option (DeclaredMethod × DeclaredMethod) :=
  if methods.length = 2 then
    match methods.find? isGetter, methods.find? isSetter with
    | some getter, some setter => some (getter, setter)
    | _, _ => none
  else none

/-- The methods grouped by the names of their properties, in the order of the first of each. -/
def groups (methods : List DeclaredMethod) : List (String × List DeclaredMethod) :=
  (methods.filterMap fun method => propertyOfMethod? method.name).eraseDups.map fun name =>
    (name, methods.filter fun method => propertyOfMethod? method.name = some name)

/-- The property of a getter and a setter declared on a type, which lies a number of parent links
deep.  A getter without a type makes none. -/
def draft? (context : Context) (lineage : Lineage) (declaring : TypeKey) (depth : Nat)
    (name : String) (getter setter : DeclaredMethod) : Option PropertyDraft :=
  getter.declared.map fun declared =>
    let suggested := TypeDescriptor.describe context.schema declaring declared
    let metadata := getter.metadata.union setter.metadata
    { name := some name
      mappedName := some (PropertyDraft.mappedNameOf context.settings name metadata)
      type := some (lineage.memberType context.schema declaring suggested declared)
      metadata
      accessor := some (.method getter.name setter.name depth)
      declaringType := some declaring }

end DeclaredMethod

namespace Lineage

def methodGroups (lineage : Lineage) (schema : Schema) :
    List ((TypeKey × Nat) × String × List DeclaredMethod) :=
  lineage.levels.flatMap fun level =>
    (DeclaredMethod.groups (((schema.node? level.1).map (·.methods)).getD [])).map (level, ·)

def methodDrafts (lineage : Lineage) (context : Context) : List PropertyDraft :=
  (lineage.methodGroups context.schema).filterMap fun ((declaring, depth), name, methods) => do
    let (getter, setter) ← DeclaredMethod.pair? methods
    DeclaredMethod.draft? context lineage declaring depth name getter setter

def methodRecords (lineage : Lineage) (schema : Schema) : List LogRecord :=
  (lineage.methodGroups schema).filterMap fun ((declaring, _), name, methods) =>
    match DeclaredMethod.pair? methods with
    | some _ => none
    | none =>
      some ⟨.trace, "skipping methods of " ++ name ++ " on " ++ schema.name declaring ++
        ": no single getter/setter pair"⟩

end Lineage

def Convention.methodDiscovery : Convention where
  name := "MethodDiscovery"
  apply context := do
    let draft ← get
    DraftM.tellAll (draft.lineage.methodRecords context.schema)
    set (draft.addProperties (draft.lineage.methodDrafts context))

end ObjectDocument
