import ObjectDocument.Consult
import ObjectDocument.Text.Split

/-!
# Paths

A query names properties by their logical names, along a path with dots, and documents store them
under their mapped names.  A path is followed through the models that it crosses, one segment after
another.  A segment that names a property is replaced by its mapped name; positions in an array,
keys of a map, and everything below a type without a model stay as they are.
-/

namespace ObjectDocument

namespace Path

/-- Whether a segment is a position in an array: it begins with a dollar sign or is a number. -/
def isPositional (segment : List Char) : Bool :=
  match segment with
  | [] => false
  | '$' :: _ => true
  | segment => segment.all Char.isDigit

inductive Cursor where
  /-- At an entity, of which the next segment names a property. -/
  | entity (model : EntityModel)
  | map (values : Option EntityModel)
  /-- Below the types with models. -/
  | below

def Cursor.ofModel : Option EntityModel → Cursor
  | some model => .entity model
  | none => .below

structure Target where
  logical : String
  /-- The segments, with every property under its mapped name. -/
  segments : List (List Char)
  /-- The last property that the path names. -/
  property : Option PropertyDescriptor

/-- The path with every property under its mapped name. -/
def Target.mapped (target : Target) : String :=
  String.ofList (Text.joinWith '.' target.segments)

/-- The property that a segment names, by its logical or else by its mapped name. -/
def findProperty? (model : EntityModel) (segment : String) : Option PropertyDescriptor :=
  (model.property? segment).or (model.propertyByMappedName? segment)

/-- Follows the segments of a path, and gives them with every property under its mapped name,
together with the last property that they name. -/
def follow (path : String) (cursor : Cursor) (last : Option PropertyDescriptor) :
    List (List Char) → ConsultM (List (List Char) × Option PropertyDescriptor)
  | [] => return ([], last)
  | segment :: rest =>
    if isPositional segment then do
      let (segments, last) ← follow path cursor last rest
      return (segment :: segments, last)
    else
      match cursor with
      | .entity model =>
        match findProperty? model (String.ofList segment) with
        | none =>
          throw (.notFound ("property " ++ String.ofList segment ++ " of path " ++ path ++ " on " ++
            model.name))
        | some property => do
          let element ← ConsultM.request property.normalizedType
          let next := if property.isMap then .map element else Cursor.ofModel element
          let (segments, last) ← follow path next (some property) rest
          return (property.mappedName.toList :: segments, last)
      | .map values => do
        let (segments, last) ← follow path (Cursor.ofModel values) last rest
        return (segment :: segments, last)
      | .below => do
        let (segments, last) ← follow path .below last rest
        return (segment :: segments, last)

def resolve (model : EntityModel) (path : String) : ConsultM Target := do
  let (segments, property) ←
    follow path (.entity model) none (Text.splitAt '.' path.toList)
  return { logical := path, segments, property }

end Path

/-! ## Filters -/

namespace Filter

def isOperator (key : String) : Bool :=
  key.toList.head? = some '$'

mutual
/-- The entries of a filter with every property under its mapped name.  The key of an operator stays
and its operand is treated alike; a path is mapped and its value stays. -/
def mapEntries (model : EntityModel) :
    List (String × Bson) → ConsultM (List (String × Bson))
  | [] => return []
  | (key, value) :: rest => do
    let entry ←
      if isOperator key then (key, ·) <$> mapOperand model value
      else do
        let target ← Path.resolve model key
        pure (target.mapped, value)
    let entries ← mapEntries model rest
    return entry :: entries

def mapOperand (model : EntityModel) : Bson → ConsultM Bson
  | .document entries => do
    let mapped ← mapEntries model entries
    return .document (OrderedMap.ofEntries mapped)
  | .array items => Bson.array <$> mapItems model items
  | value => return value

def mapItems (model : EntityModel) : List Bson → ConsultM (List Bson)
  | [] => return []
  | item :: rest => do
    let mapped ← mapOperand model item
    let items ← mapItems model rest
    return mapped :: items
end

def mapped (model : EntityModel) (filter : Document) : ConsultM Document := do
  let entries ← mapEntries model filter
  return OrderedMap.ofEntries entries

end Filter

end ObjectDocument
