/-!
# Markers

The pieces of mapping metadata that a declaration attaches to a type or a member.  A name that is
left out, or is empty, leaves the choice to the next rule of naming.
-/

namespace ObjectDocument

structure EntityMarker where
  collection : Option String := none
  discriminator : Option String := none
  discriminatorKey : Option String := none
  useDiscriminator : Bool := true
deriving DecidableEq, Repr, Inhabited

structure ReferenceMarker where
  name : Option String := none
  /-- Whether the entity is loaded when it is first used. -/
  lazy : Bool := false
  /-- Whether its identity alone is stored. -/
  idOnly : Bool := false
deriving DecidableEq, Repr, Inhabited

inductive Marker where
  | entity (settings : EntityMarker)
  | embedded
  | id
  | property (name : Option String)
  | reference (settings : ReferenceMarker)
  | version (name : Option String)
  /-- A property that is not stored. -/
  | transient
  | tag (name : String)
deriving DecidableEq, Repr

/-- What a marker is, less its settings. -/
inductive MarkerKind where
  | entity
  | embedded
  | id
  | property
  | reference
  | version
  | transient
  | tag (name : String)
deriving DecidableEq, Repr

def Marker.kind : Marker → MarkerKind
  | .entity _ => .entity
  | .embedded => .embedded
  | .id => .id
  | .property _ => .property
  | .reference _ => .reference
  | .version _ => .version
  | .transient => .transient
  | .tag name => .tag name

def Marker.explicitName (marker : Marker) : Option String :=
  let name :=
    match marker with
    | .property name | .version name => name
    | .reference settings => settings.name
    | _ => none
  name.filter (· ≠ "")

namespace MarkerKind

def text : MarkerKind → String
  | .entity => "Entity"
  | .embedded => "Embedded"
  | .id => "Id"
  | .property => "Property"
  | .reference => "Reference"
  | .version => "Version"
  | .transient => "Transient"
  | .tag name => "Tag(" ++ name ++ ")"

def rank : MarkerKind → Nat
  | .entity => 0
  | .embedded => 1
  | .id => 2
  | .property => 3
  | .reference => 4
  | .version => 5
  | .transient => 6
  | .tag _ => 7

/-- Whether a kind stands before another or is the same; tags stand in the order of their names. -/
def le (a b : MarkerKind) : Bool :=
  match a, b with
  | .tag name, .tag other => name ≤ other
  | _, _ => a.rank ≤ b.rank

def sort (kinds : List MarkerKind) : List MarkerKind :=
  kinds.mergeSort le

end MarkerKind

end ObjectDocument
