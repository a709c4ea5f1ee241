import ObjectDocument.Metadata

/-!
# Lookups in merged metadata

Markers are added by one of two rules: unless they are there (`push`), or unless there is one of
their kind (`inheritOne`).  A lookup does not tell them apart: in either case it finds the first
marker of a kind in what was there, and otherwise the first in what is added (`get?_union`,
`get?_inherit`).
-/

namespace ObjectDocument.Metadata

variable {metadata other : Metadata} {marker : Marker} {kind : MarkerKind}

theorem get?_append (markers : List Marker) (kind : MarkerKind) :
    (⟨metadata.markers ++ markers⟩ : Metadata).get? kind =
      (metadata.get? kind).or (markers.find? (·.kind = kind)) :=
  List.find?_append

theorem get?_or_of_mem (h : ∃ found ∈ metadata.markers, found.kind = marker.kind) :
    (metadata.get? kind).or ([marker].find? (·.kind = kind)) = metadata.get? kind := by
  cases hfound : metadata.get? kind with
  | some found => rfl
  | none =>
      obtain ⟨found, hmem, hkind⟩ := h
      have hother : marker.kind ≠ kind := fun heq =>
        List.find?_eq_none.1 hfound found hmem (decide_eq_true (hkind.trans heq))
      rw [Option.none_or, List.find?_cons_of_neg (by simpa using hother), List.find?_nil]

theorem get?_push (metadata : Metadata) (marker : Marker) (kind : MarkerKind) :
    (metadata.push marker).get? kind =
      (metadata.get? kind).or ([marker].find? (·.kind = kind)) := by
  unfold push
  by_cases hmem : marker ∈ metadata.markers
  · rw [if_pos hmem, get?_or_of_mem ⟨marker, hmem, rfl⟩]
  · rw [if_neg hmem, get?_append]

theorem get?_inheritOne (metadata : Metadata) (marker : Marker) (kind : MarkerKind) :
    (metadata.inheritOne marker).get? kind =
      (metadata.get? kind).or ([marker].find? (·.kind = kind)) := by
  unfold inheritOne
  by_cases hhas : metadata.has marker.kind
  · have hfound : ∃ found ∈ metadata.markers, found.kind = marker.kind := by
      simpa [has, get?] using hhas
    rw [if_pos hhas, get?_or_of_mem hfound]
  · rw [if_neg hhas, get?_append]

/-- Whatever the rule by which markers are added, the first of a kind is found. -/
theorem get?_foldl {add : Metadata → Marker → Metadata}
    (hadd : ∀ metadata marker kind, (add metadata marker).get? kind =
      (metadata.get? kind).or ([marker].find? (·.kind = kind)))
    (markers : List Marker) (metadata : Metadata) (kind : MarkerKind) :
    (markers.foldl add metadata).get? kind =
      (metadata.get? kind).or (markers.find? (·.kind = kind)) := by
  induction markers generalizing metadata with
  | nil => rw [List.foldl_nil, List.find?_nil, Option.or_none]
  | cons marker markers ih =>
      rw [List.foldl_cons, ih, hadd, Option.or_assoc, ← List.find?_append, List.singleton_append]

theorem get?_union (metadata other : Metadata) (kind : MarkerKind) :
    (metadata.union other).get? kind = (metadata.get? kind).or (other.get? kind) :=
  get?_foldl get?_push other.markers metadata kind

theorem get?_inherit (metadata other : Metadata) (kind : MarkerKind) :
    (metadata.inherit other).get? kind = (metadata.get? kind).or (other.get? kind) :=
  get?_foldl get?_inheritOne other.markers metadata kind

theorem has_union_iff :
    (metadata.union other).has kind ↔ metadata.has kind ∨ other.has kind := by
  rw [has, get?_union, Option.isSome_or, Bool.or_eq_true]
  rfl

theorem get?_foldl_inherit (others : List Metadata) (metadata : Metadata) (kind : MarkerKind) :
    (others.foldl inherit metadata).get? kind =
      (metadata :: others).findSome? (·.get? kind) := by
  induction others generalizing metadata with
  | nil => cases h : metadata.get? kind <;> simp [h]
  | cons other others ih =>
      rw [List.foldl_cons, ih, List.findSome?_cons, List.findSome?_cons, List.findSome?_cons,
        get?_inherit]
      cases metadata.get? kind <;> rfl

theorem get?_entity (metadata : Metadata) :
    metadata.get? .entity = metadata.entity?.map Marker.entity := by
  unfold entity?
  cases hfound : metadata.get? .entity with
  | none => rfl
  | some marker =>
      have hkind : marker.kind = .entity := by simpa using List.find?_some hfound
      cases marker <;> first | rfl | cases hkind

end ObjectDocument.Metadata
