import ObjectDocument.Marker

/-!
# Metadata

The markers of one type or member, in the order in which they were attached.  A lookup finds
the first marker of a kind, so what is attached first decides.  There are two ways of adding the
markers of another: `union` adds each one that is not there, `inherit` each one whose kind is
not there.
-/

namespace ObjectDocument

structure Metadata where
  markers : List Marker := []
deriving DecidableEq, Repr, Inhabited

namespace Metadata

def empty : Metadata := ⟨[]⟩

def push (metadata : Metadata) (marker : Marker) : Metadata :=
  if marker ∈ metadata.markers then metadata
  else ⟨metadata.markers ++ [marker]⟩

def get? (metadata : Metadata) (kind : MarkerKind) : Option Marker :=
  metadata.markers.find? (·.kind = kind)

def has (metadata : Metadata) (kind : MarkerKind) : Bool :=
  (metadata.get? kind).isSome

def union (metadata other : Metadata) : Metadata :=
  other.markers.foldl push metadata

/-- Adds a marker, unless there is one of its kind. -/
def inheritOne (metadata : Metadata) (marker : Marker) : Metadata :=
  if metadata.has marker.kind then metadata
  else ⟨metadata.markers ++ [marker]⟩

def inherit (metadata other : Metadata) : Metadata :=
  other.markers.foldl inheritOne metadata

def ofList (markers : List Marker) : Metadata :=
  markers.foldl push empty

def size (metadata : Metadata) : Nat :=
  metadata.markers.length

def entity? (metadata : Metadata) : Option EntityMarker :=
  match metadata.get? .entity with
  | some (.entity settings) => some settings
  | _ => none

def reference? (metadata : Metadata) : Option ReferenceMarker :=
  match metadata.get? .reference with
  | some (.reference settings) => some settings
  | _ => none

end Metadata

end ObjectDocument
