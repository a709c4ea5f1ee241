import Mathlib.Data.List.Induction
import Mathlib.Data.List.Nodup
import ObjectDocument.Proofs.Metadata

/-!
# The algebra of merged metadata

`push` and `inheritOne` are one rule with two keys: a marker is added behind the others, unless one
of the same key is there (`AddsBy`).  The key is the marker itself for `union`, and its kind for
`inherit`.  What a marker adds depends on the keys before it alone, so adding is associative and
idempotent under either key, and never adds a marker that is there.

What two markers of one kind do to each other shows in no law: the two ways of merging agree in what
is found (`laws_of_built`), although `union` keeps both and `inherit` the first.
-/

theorem List.eraseDups_eq_self_of_nodup {α : Type} [BEq α] [LawfulBEq α] {as : List α}
    (h : as.Nodup) : as.eraseDups = as := by
  induction as with
  | nil => rfl
  | cons a as ih =>
      obtain ⟨hnotin, hnodup⟩ := List.nodup_cons.1 h
      have hkept : as.filter (fun b => !b == a) = as := by
        refine List.filter_eq_self.2 fun b hb => ?_
        have hne : b ≠ a := fun heq => hnotin (heq ▸ hb)
        simpa using hne
      rw [List.eraseDups_cons, hkept, ih hnodup]

theorem List.eraseDups_concat {α : Type} [DecidableEq α] (as : List α) (a : α) :
    (as ++ [a]).eraseDups = if a ∈ as then as.eraseDups else as.eraseDups ++ [a] := by
  rw [List.eraseDups_append, List.removeAll]
  by_cases h : a ∈ as
  · rw [if_pos h, List.filter_cons_of_neg (by simpa using h), List.filter_nil, List.eraseDups_nil,
      List.append_nil]
  · rw [if_neg h, List.filter_cons_of_pos (by simpa using h), List.filter_nil, List.eraseDups_cons,
      List.filter_nil, List.eraseDups_nil]

namespace ObjectDocument.Metadata

variable {β : Type} {key : Marker → β} {add : Metadata → Marker → Metadata}
  {metadata other : Metadata} {marker : Marker} {markers : List Marker}

structure AddsBy (key : Marker → β) (add : Metadata → Marker → Metadata) : Prop where
  of_mem : ∀ {metadata : Metadata} {marker : Marker},
    key marker ∈ metadata.markers.map key → add metadata marker = metadata
  of_not_mem : ∀ {metadata : Metadata} {marker : Marker},
    key marker ∉ metadata.markers.map key → add metadata marker = ⟨metadata.markers ++ [marker]⟩

theorem addsBy_push : AddsBy id push where
  of_mem := fun h => if_pos (by simpa using h)
  of_not_mem := fun h => if_neg (by simpa using h)

theorem has_iff_mem_kinds {kind : MarkerKind} :
    metadata.has kind ↔ kind ∈ metadata.markers.map Marker.kind := by
  simp [has, get?]

theorem addsBy_inheritOne : AddsBy Marker.kind inheritOne where
  of_mem := fun h => if_pos (has_iff_mem_kinds.2 h)
  of_not_mem := fun h => if_neg (has_iff_mem_kinds.not.2 h)

namespace AddsBy

theorem mem_keys_add (adds : AddsBy key add) {k : β} :
    k ∈ (add metadata marker).markers.map key ↔
      k ∈ metadata.markers.map key ∨ k = key marker := by
  by_cases h : key marker ∈ metadata.markers.map key
  · rw [adds.of_mem h]
    exact ⟨.inl, fun hk => hk.elim id fun heq => heq ▸ h⟩
  · rw [adds.of_not_mem h, List.map_append, List.mem_append, List.map_singleton,
      List.mem_singleton]

theorem mem_keys_foldl (adds : AddsBy key add) {k : β} :
    k ∈ (markers.foldl add metadata).markers.map key ↔
      k ∈ metadata.markers.map key ∨ k ∈ markers.map key := by
  induction markers using List.reverseRecOn with
  | nil => simp
  | append_singleton markers marker ih =>
      rw [List.foldl_concat, adds.mem_keys_add, ih, or_assoc, List.map_append, List.mem_append,
        List.map_singleton, List.mem_singleton]

theorem foldl_of_forall_mem (adds : AddsBy key add)
    (h : ∀ marker ∈ markers, key marker ∈ metadata.markers.map key) :
    markers.foldl add metadata = metadata := by
  induction markers with
  | nil => rfl
  | cons marker markers ih =>
      obtain ⟨hmarker, hmarkers⟩ := List.forall_mem_cons.1 h
      rw [List.foldl_cons, adds.of_mem hmarker, ih hmarkers]

theorem foldl_self (adds : AddsBy key add) : metadata.markers.foldl add metadata = metadata :=
  adds.foldl_of_forall_mem fun _ h => List.mem_map_of_mem h

/-- What is added first to the second metadata and then to the first is what is added in turn. -/
theorem foldl_assoc (adds : AddsBy key add) :
    markers.foldl add (other.markers.foldl add metadata) =
      (markers.foldl add other).markers.foldl add metadata := by
  induction markers using List.reverseRecOn with
  | nil => rfl
  | append_singleton markers marker ih =>
      rw [List.foldl_concat, List.foldl_concat, ih]
      by_cases h : key marker ∈ (markers.foldl add other).markers.map key
      · rw [adds.of_mem h, adds.of_mem (adds.mem_keys_foldl.2 (.inr h))]
      · rw [adds.of_not_mem h, List.foldl_concat]

theorem nodup_add (adds : AddsBy key add) (h : metadata.markers.Nodup) :
    (add metadata marker).markers.Nodup := by
  by_cases hkey : key marker ∈ metadata.markers.map key
  · rw [adds.of_mem hkey]
    exact h
  · rw [adds.of_not_mem hkey]
    -- A marker that is there would have its key there.
    exact List.nodup_append.2 ⟨h, List.nodup_singleton marker, fun found hfound other hother =>
      fun heq => hkey (List.mem_map_of_mem (List.mem_singleton.1 hother ▸ heq ▸ hfound))⟩

theorem nodup_foldl (adds : AddsBy key add) (h : metadata.markers.Nodup) :
    (markers.foldl add metadata).markers.Nodup := by
  induction markers using List.reverseRecOn with
  | nil => exact h
  | append_singleton markers marker ih =>
      rw [List.foldl_concat]
      exact adds.nodup_add ih

end AddsBy

/-- What is added by `push` is what stands first among all markers. -/
theorem markers_foldl_push (h : metadata.markers.Nodup) :
    (markers.foldl push metadata).markers = (metadata.markers ++ markers).eraseDups := by
  induction markers using List.reverseRecOn with
  | nil => rw [List.foldl_nil, List.append_nil, List.eraseDups_eq_self_of_nodup h]
  | append_singleton markers marker ih =>
      have hmem : marker ∈ (markers.foldl push metadata).markers ↔
          marker ∈ metadata.markers ++ markers := by
        rw [ih, List.mem_eraseDups]
      rw [List.foldl_concat, ← List.append_assoc, List.eraseDups_concat, ← ih]
      by_cases hmarker : marker ∈ metadata.markers ++ markers
      · rw [if_pos hmarker, addsBy_push.of_mem (by simpa using hmem.2 hmarker)]
      · rw [if_neg hmarker, addsBy_push.of_not_mem (by simpa using mt hmem.1 hmarker)]

inductive Built : Metadata → Prop where
  | empty : Built empty
  | push {metadata : Metadata} (marker : Marker) (h : Built metadata) :
    Built (metadata.push marker)
  | union {metadata other : Metadata} (h : Built metadata) (hother : Built other) :
    Built (metadata.union other)
  | inherit {metadata other : Metadata} (h : Built metadata) (hother : Built other) :
    Built (metadata.inherit other)

theorem Built.nodup (built : metadata.Built) : metadata.markers.Nodup := by
  induction built with
  | empty => exact List.nodup_nil
  | push marker _ ih => exact addsBy_push.nodup_add ih
  | union _ _ ih _ => exact addsBy_push.nodup_foldl ih
  | inherit _ _ ih _ => exact addsBy_inheritOne.nodup_foldl ih

/-- Merging is a lawful algebra.  No marker is there twice.  Both ways of merging find the first
marker of a kind, and both are associative and idempotent.  A union has the markers of both sides,
each where it stands first. -/
theorem laws_of_built (built : metadata.Built) (second third : Metadata) (kind : MarkerKind) :
    metadata.markers.Nodup ∧
    ((metadata.union second).get? kind = (metadata.get? kind).or (second.get? kind) ∧
      (metadata.inherit second).get? kind = (metadata.get? kind).or (second.get? kind)) ∧
    ((metadata.union second).union third = metadata.union (second.union third) ∧
      metadata.union metadata = metadata) ∧
    ((metadata.inherit second).inherit third = metadata.inherit (second.inherit third) ∧
      metadata.inherit metadata = metadata) ∧
    (∀ marker, marker ∈ (metadata.union second).markers ↔
      marker ∈ metadata.markers ∨ marker ∈ second.markers) ∧
    (metadata.union second).markers = (metadata.markers ++ second.markers).eraseDups := by
  have hunion : (metadata.union second).markers =
      (metadata.markers ++ second.markers).eraseDups := markers_foldl_push built.nodup
  refine ⟨built.nodup, ⟨get?_union .., get?_inherit ..⟩, ⟨addsBy_push.foldl_assoc,
    addsBy_push.foldl_self⟩, ⟨addsBy_inheritOne.foldl_assoc, addsBy_inheritOne.foldl_self⟩,
    fun marker => ?_, hunion⟩
  rw [hunion, List.mem_eraseDups, List.mem_append]

def renamed : Metadata :=
  (empty.push (.property "total")).push (.property "sum") |>.push (.version none)

/-- A union keeps both names, and inheriting them once more changes nothing. -/
theorem laws_of_built_renamed :
    renamed.Built ∧ renamed.markers.Nodup ∧
      (renamed.union ⟨[.id, .property "sum"]⟩).markers =
        [.property "total", .property "sum", .version none, .id] ∧
      renamed.inherit renamed = renamed := by
  have built : renamed.Built := .push _ (.push _ (.push _ .empty))
  obtain ⟨hnodup, -, -, ⟨-, hinherit⟩, -, hunion⟩ :=
    laws_of_built built ⟨[.id, .property "sum"]⟩ empty .property
  exact ⟨built, hnodup, hunion.trans (by decide), hinherit⟩

end ObjectDocument.Metadata
