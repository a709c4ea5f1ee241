import ObjectDocument.Accessor
import ObjectDocument.Proofs.Instance.Slots
import ObjectDocument.Proofs.Value.Normal

/-!
# Accessors of fields

An accessor of a field reads the slot of a name and puts another slot in its place.  An array
accessor does the same with elements brought to their representation.
-/

namespace ObjectDocument

namespace Accessor

/-- The accessor reads and writes the field of a name. -/
inductive IsField (name : String) : Accessor → Prop where
  | field {depth} : IsField name (.field name depth)
  | array {depth element} : IsField name (.array name depth element)

/-- What an accessor makes of a value that it has read, or is about to write. -/
def adapt : Accessor → Bson → Except MappingError Bson
  | .array _ _ element => element.coerceArray
  | _ => .ok

variable [ValueTypes] {accessor : Accessor} {object : Instance} {depth : Nat} {name : String}
  {slot new : Slot} {value adapted : Bson}

theorem part_readField (object : Instance) (depth : Nat) (name : String) :
    object.part depth >>= readField name = object.readSlot depth name := by
  unfold Instance.readSlot Instance.part Instance.slot? Instance.noSlot
  cases hpart : object.parts[depth]? with
  | none =>
      rw [if_neg (by simpa using hpart)]
      rfl
  | some part =>
      rw [if_pos (List.getElem?_eq_some_iff.1 hpart).1, Option.bind_some]
      change readField name part = _
      unfold readField Part.readField? Slots.read?
      cases part.fields.lookup name <;> rfl

theorem updatePart_writeField (object : Instance) (depth : Nat) (name : String) (value : Bson) :
    updatePart object depth (writeField name value) = object.writeSlot depth name value := by
  unfold Instance.writeSlot updatePart Instance.part Instance.slot? Instance.noSlot
  cases hpart : object.parts[depth]? with
  | none =>
      rw [if_neg (by simpa using hpart)]
      rfl
  | some part =>
      rw [if_pos (List.getElem?_eq_some_iff.1 hpart).1, Option.bind_some]
      change (object.setPart depth (writeField name value part).1,
        (writeField name value part).2) = _
      rw [writeField, Part.writeField?, Slots.write?_eq, Option.map_map]
      cases part.fields.lookup name with
      | none => exact congrArg (·, _) (Instance.setPart_eq_self hpart)
      | some slot => exact congrArg (·, _) (Instance.putSlot_eq_setPart hpart).symm

namespace IsField

/-- What the slot of the name holds is read and then adapted to the accessor. -/
theorem get_eq_bind (h : accessor.IsField name) (object : Instance) :
    accessor.get object = object.readSlot accessor.depth name >>= accessor.adapt := by
  cases h with
  | @field depth =>
      change object.part depth >>= readField name = object.readSlot depth name >>= Except.ok
      rw [part_readField]
      cases object.readSlot depth name <;> rfl
  | @array depth element =>
      change object.part depth >>= readField name >>= element.coerceArray = _
      rw [part_readField]
      rfl

theorem get_eq (h : accessor.IsField name)
    (hslot : object.slot? accessor.depth name = some slot) :
    accessor.get object = slot.read >>= accessor.adapt := by
  rw [h.get_eq_bind, Instance.readSlot_of_some hslot]

theorem exists_slot (h : accessor.IsField name) (hget : accessor.get object = .ok value) :
    ∃ slot, object.slot? accessor.depth name = some slot := by
  rw [h.get_eq_bind] at hget
  cases hslot : object.slot? accessor.depth name with
  | none =>
      rw [Instance.readSlot_of_none hslot] at hget
      cases hget
  | some slot => exact ⟨slot, rfl⟩

theorem get_congr (h : accessor.IsField name) {other : Instance}
    (hslot : object.slot? accessor.depth name = other.slot? accessor.depth name)
    (hparts : object.parts.length = other.parts.length) :
    accessor.get object = accessor.get other := by
  rw [h.get_eq_bind, h.get_eq_bind, Instance.readSlot, Instance.readSlot, hslot, Instance.noSlot,
    Instance.noSlot, hparts]

theorem set_of_adapt (h : accessor.IsField name) (hadapt : accessor.adapt value = .ok adapted) :
    accessor.set object value = object.writeSlot accessor.depth name adapted := by
  cases h with
  | field =>
      cases hadapt
      exact updatePart_writeField ..
  | array =>
      simp only [adapt] at hadapt
      simp only [set, hadapt]
      exact updatePart_writeField ..

theorem set_of_adapt_error (h : accessor.IsField name) {cause : MappingError}
    (hadapt : accessor.adapt value = .error cause) :
    accessor.set object value = (object, .error cause) := by
  cases h with
  | field => cases hadapt
  | array =>
      simp only [adapt] at hadapt
      simp only [set, hadapt]

theorem set_eq (h : accessor.IsField name)
    (hslot : object.slot? accessor.depth name = some slot)
    (hadapt : accessor.adapt value = .ok adapted) (hwrite : slot.write adapted = (new, .ok ())) :
    accessor.set object value = (object.putSlot accessor.depth name new, .ok ()) := by
  rw [h.set_of_adapt hadapt, Instance.writeSlot_of_some hslot, hwrite]

/-- A write is taken if there is a slot of the name that takes the adapted value. -/
theorem set_eq_ok_iff (h : accessor.IsField name) {changed : Instance} :
    accessor.set object value = (changed, .ok ()) ↔
      ∃ slot adapted new, object.slot? accessor.depth name = some slot ∧
        accessor.adapt value = .ok adapted ∧ slot.write adapted = (new, .ok ()) ∧
        object.putSlot accessor.depth name new = changed := by
  constructor
  · intro hset
    cases hadapt : accessor.adapt value with
    | error cause =>
        rw [h.set_of_adapt_error hadapt] at hset
        cases hset
    | ok adapted =>
        rw [h.set_of_adapt hadapt] at hset
        cases hslot : object.slot? accessor.depth name with
        | none =>
            rw [Instance.writeSlot_of_none hslot] at hset
            cases hset
        | some slot =>
            rw [Instance.writeSlot_of_some hslot] at hset
            obtain ⟨hchanged, htaken⟩ := Prod.mk.inj hset
            exact ⟨slot, adapted, _, rfl, rfl, Prod.ext rfl htaken, hchanged⟩
  · rintro ⟨slot, adapted, new, hslot, hadapt, hwrite, rfl⟩
    exact h.set_eq hslot hadapt hwrite

/-- A write that is refused changes nothing: a slot keeps what it holds. -/
theorem set_eq_self_of_error (h : accessor.IsField name) {cause : MappingError}
    (hset : (accessor.set object value).2 = .error cause) :
    (accessor.set object value).1 = object := by
  cases hadapt : accessor.adapt value with
  | error cause => rw [h.set_of_adapt_error hadapt]
  | ok adapted =>
      rw [h.set_of_adapt hadapt] at hset ⊢
      cases hslot : object.slot? accessor.depth name with
      | none => rw [Instance.writeSlot_of_none hslot]
      | some slot =>
          rw [Instance.writeSlot_of_some hslot] at hset ⊢
          obtain ⟨-, hkept⟩ := Slot.write_eq_error_iff.1 (Prod.ext rfl hset)
          exact (congrArg _ hkept).trans (Instance.putSlot_eq_self hslot)

end IsField

end Accessor

end ObjectDocument
