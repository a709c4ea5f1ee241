import ObjectDocument.Proofs.Accessor.Elements
import ObjectDocument.Proofs.Accessor.Fields

/-!
# Representations of elements and slots

An array accessor brings every element to a representation before the slot reads it.  For the slots
that hold the elements as they are declared this makes no difference: what the slot takes, and what
it makes of that, is the same with the representation as without
(`Accessor.array_agrees_with_field`).
-/

namespace ObjectDocument

def Bson.items : Bson → List Bson
  | .array items => items
  | _ => []

namespace SlotType

/-- The other type holds arrays of values of the type. -/
inductive IsArrayOf (type : SlotType) : SlotType → Prop where
  | list : IsArrayOf type (.list type)
  | fixed {length : Nat} : IsArrayOf type (.fixed length type)

theorem IsArrayOf.holdsArray {type array : SlotType} {element : TypeKey} (h : type.IsArrayOf array)
    (represents : type.Represents element) : array.HoldsArray element := by
  cases h <;> exact represents

def isOption : SlotType → Bool
  | .option _ => true
  | _ => false

end SlotType

namespace ElementKind

variable {kind : ElementKind} {b coerced : Bson} {α : Type} {label wide : String}

/-- Coercing a value makes no difference to what reads it. -/
def Transparent (kind : ElementKind) (read : Bson → Except MappingError α) (b : Bson) : Prop :=
  ∀ a, (∃ coerced, kind.coerce b = .ok coerced ∧ read coerced = .ok a) ↔ read b = .ok a

theorem transparent_of_eq {read : Bson → Except MappingError α} (h : kind.coerce b = .ok b) :
    kind.Transparent read b := by
  intro a
  simp [h]

/-- A number that is written out in a wider range is read from there as before. -/
theorem transparent_readInt {wideLow wideHigh low high : Int} {write : Int → Bson}
    {make : Int → α} (hcoerce : b ≠ .null → kind.coerce b = readInt wide wideLow wideHigh write b)
    (hwrite : ∀ n, wideLow ≤ n → n < wideHigh → (write n).toInt? = some n)
    (hlow : wideLow ≤ low) (hhigh : high ≤ wideHigh) :
    kind.Transparent (readInt label low high make) b := by
  by_cases hnull : b = .null
  · exact transparent_of_eq (hnull ▸ coerce_null kind)
  · intro a
    simp only [hcoerce hnull, readInt_eq_ok_iff]
    constructor
    · rintro ⟨_, ⟨n, hn, hwideLow, hwideHigh, rfl⟩, m, hm, hmake⟩
      obtain rfl : n = m := Option.some.inj ((hwrite n hwideLow hwideHigh).symm.trans hm)
      exact ⟨n, hn, hmake⟩
    · rintro ⟨n, hn, hnlow, hnhigh, hmake⟩
      have hwideLow : wideLow ≤ n := hlow.trans hnlow
      have hwideHigh : n < wideHigh := hnhigh.trans_le hhigh
      exact ⟨_, ⟨n, hn, hwideLow, hwideHigh, rfl⟩, n, hwrite n hwideLow hwideHigh, hnlow, hnhigh,
        hmake⟩

theorem transparent_readInt_int32 {low high : Int} {make : Int → α} (hlow : -2 ^ 31 ≤ low)
    (hhigh : high ≤ 2 ^ 31) : ElementKind.int32.Transparent (readInt label low high make) b :=
  transparent_readInt coerce_int32_eq_readInt
    (fun _ hlow hhigh => congrArg some (Int32.toInt_ofInt_of_le hlow hhigh)) hlow hhigh

theorem transparent_readInt_int64 {low high : Int} {make : Int → α} (hlow : -2 ^ 63 ≤ low)
    (hhigh : high ≤ 2 ^ 63) : ElementKind.int64.Transparent (readInt label low high make) b :=
  transparent_readInt coerce_int64_eq_readInt
    (fun _ hlow hhigh => congrArg some (Int64.toInt_ofInt_of_le hlow hhigh)) hlow hhigh

theorem transparent_readDouble {make : Double → α} :
    ElementKind.double.Transparent (readDouble label make) b := by
  by_cases hnull : b = .null
  · exact transparent_of_eq (hnull ▸ coerce_null _)
  · intro a
    simp only [coerce_double_eq_readDouble hnull, readDouble_eq_ok_iff]
    constructor
    · rintro ⟨_, ⟨d, hd, rfl⟩, e, he, hmake⟩
      obtain rfl : d = e := Option.some.inj he
      exact ⟨d, hd, hmake⟩
    · rintro ⟨d, hd, hmake⟩
      exact ⟨_, ⟨d, hd, rfl⟩, d, rfl, hmake⟩

theorem transparent_of_refused {read : Bson → Except MappingError α}
    (hcoerce : ∀ coerced, kind.coerce b ≠ .ok coerced) (hread : ∀ a, read b ≠ .ok a) :
    kind.Transparent read b :=
  fun a => ⟨fun ⟨coerced, h, _⟩ => absurd h (hcoerce coerced), fun h => absurd h (hread a)⟩

variable {type : SlotType}

theorem isMissing_coerce_kind (h : type.scalar?.isSome) (hnull : b ≠ .null)
    (hcoerce : type.kind.coerce b = .ok coerced) : coerced.isMissing = false := by
  induction type with
  | option type ih => exact ih h hcoerce
  | byte | int16 | int32 =>
      obtain ⟨_, -, -, -, rfl⟩ :=
        readInt_eq_ok_iff.1 ((coerce_int32_eq_readInt hnull).symm.trans hcoerce)
      rfl
  | int64 =>
      obtain ⟨_, -, -, -, rfl⟩ :=
        readInt_eq_ok_iff.1 ((coerce_int64_eq_readInt hnull).symm.trans hcoerce)
      rfl
  | single | double =>
      obtain ⟨_, -, rfl⟩ :=
        readDouble_eq_ok_iff.1 ((coerce_double_eq_readDouble hnull).symm.trans hcoerce)
      rfl
  | boolean | character | string =>
      cases b with
      | null => exact absurd rfl hnull
      | boolean | string => cases hcoerce <;> rfl
      | _ => cases hcoerce
  | _ => cases h

/-- The representation of a scalar makes no difference to a slot of that scalar, nor to one whose
value may be missing, unless the element is one that only the slot takes for missing. -/
theorem transparent_kind [ValueTypes] (h : type.scalar?.isSome)
    (hb : type.isOption → b ≠ .undefined) :
    type.kind.Transparent type.ofBson b := by
  induction type with
  | byte | int16 | int32 => exact transparent_readInt_int32 (by decide) (by decide)
  | int64 => exact transparent_readInt_int64 (by decide) (by decide)
  | single | double => exact transparent_readDouble
  | boolean =>
      cases b with
      | null | boolean => exact transparent_of_eq rfl
      | _ => exact transparent_of_refused nofun nofun
  | character | string =>
      cases b with
      | null | string => exact transparent_of_eq rfl
      | _ => exact transparent_of_refused nofun nofun
  | option type ih =>
      by_cases hnull : b = .null
      · exact transparent_of_eq (hnull ▸ coerce_null _)
      · have hundefined := hb rfl
        have hmissing : b.isMissing = false := by
          cases b <;> first | rfl | contradiction
        have hsomething : ∀ {coerced}, type.kind.coerce b = .ok coerced →
            coerced.isMissing = false := isMissing_coerce_kind h hnull
        intro value
        cases value with
        | none =>
            simp only [SlotType.ofBson_option_eq_ok_none_iff, hmissing, Bool.false_eq_true,
              iff_false]
            rintro ⟨coerced, hcoerced, hnone⟩
            rw [hsomething hcoerced] at hnone
            cases hnone
        | some value =>
            rw [SlotType.ofBson_option_eq_ok_some_iff, ← ih h (fun _ => hundefined) value]
            simp only [hmissing, true_and]
            refine exists_congr fun coerced => and_congr_right fun hcoerced => ?_
            rw [SlotType.ofBson_option_eq_ok_some_iff, hsomething hcoerced]
            simp
  | _ => cases h

/-- The slot type holds the elements of a declared type.  Where values of a scalar may be missing,
`undefined` is what only the slot takes for a missing one. -/
theorem transparent_ofBson [ValueTypes] {schema : Schema} {key : TypeKey}
    (h : type.Represents (schema.boxed key))
    (hb : type.isOption → schema.boxed key ∈ SlotType.scalars → b ≠ .undefined) :
    (schema.elementKind key).Transparent type.ofBson b := by
  by_cases hscalar : schema.boxed key ∈ SlotType.scalars
  · have hkind := h.resolve_right (not_not_intro hscalar)
    rw [Schema.elementKind_eq_kind hkind]
    exact transparent_kind (by simp [hkind]) fun hoption => hb hoption hscalar
  · rw [Schema.elementKind_eq_any hscalar]
    exact transparent_of_eq (coerce_any b)

/-- What makes no difference to the elements makes none to the items of an array. -/
theorem readItems_coerceArray_iff {read : Bson → Except MappingError α} {values : List α}
    (h : ∀ item ∈ b.items, kind.Transparent read item) :
    (∃ coerced, kind.coerceArray b = .ok coerced ∧ readItems read coerced = .ok values) ↔
      readItems read b = .ok values := by
  cases b with
  | array items =>
      have hitems : ∀ item ∈ items, kind.Transparent read item := h
      change _ ↔ items.mapM read = .ok values
      rw [← Except.mapM_mapM_eq_ok_iff hitems]
      constructor
      · rintro ⟨coerced, hcoerced, hread⟩
        obtain ⟨others, hothers, rfl⟩ := Except.map_eq_ok_iff.1 hcoerced
        exact ⟨others, hothers, hread⟩
      · rintro ⟨others, hothers, hread⟩
        exact ⟨.array others, Except.map_eq_ok_iff.2 ⟨others, hothers, rfl⟩, hread⟩
  | null =>
      constructor
      · rintro ⟨coerced, hcoerced, hread⟩
        cases hcoerced
        cases hread
      · intro hread
        cases hread
  | _ =>
      constructor
      · rintro ⟨coerced, hcoerced, -⟩
        cases hcoerced
      · intro hread
        cases hread

theorem coerceArray_ne_ok {item : Bson} (hitem : item ∈ b.items)
    (h : ∀ coerced, kind.coerce item ≠ .ok coerced) (coerced : Bson) :
    kind.coerceArray b ≠ .ok coerced := by
  cases b with
  | array items =>
      intro hcoerced
      obtain ⟨others, hothers, -⟩ := Except.map_eq_ok_iff.1 hcoerced
      obtain ⟨other, hother⟩ := Except.exists_of_mem_of_mapM hothers hitem
      exact h other hother
  | _ => cases hitem

theorem coerce_kind_undefined (h : type.scalar?.isSome) (coerced : Bson) :
    type.kind.coerce .undefined ≠ .ok coerced := by
  induction type with
  | option type ih => exact ih h
  | byte | int16 | int32 | int64 | single | double | boolean | character | string =>
      intro hcoerced
      cases hcoerced
  | _ => cases h

end ElementKind

/-- What makes no difference to the items of an array makes none to a slot of arrays. -/
theorem SlotType.IsArrayOf.write_coerceArray_iff [ValueTypes] {type : SlotType}
    {slot new : Slot} {kind : ElementKind} {value : Bson} (h : type.IsArrayOf slot.type)
    (hitems : ∀ item ∈ value.items, kind.Transparent type.ofBson item) :
    (∃ coerced, kind.coerceArray value = .ok coerced ∧ slot.write coerced = (new, .ok ())) ↔
      slot.write value = (new, .ok ()) := by
  have htype (held : slot.type.Carrier) :
      (∃ coerced, kind.coerceArray value = .ok coerced ∧ slot.type.ofBson coerced = .ok held) ↔
        slot.type.ofBson value = .ok held := by
    obtain ⟨arrayType, _⟩ := slot
    cases h with
    | list => exact ElementKind.readItems_coerceArray_iff hitems
    | fixed =>
        simp only [SlotType.ofBson_fixed_eq_ok_iff]
        exact ElementKind.readItems_coerceArray_iff hitems
  simp only [Slot.write_eq_ok_iff, Slot.ofBson, Except.map_eq_ok_iff, ← htype]
  constructor
  · rintro ⟨coerced, hcoerced, held, hheld, hnew⟩
    exact ⟨held, ⟨coerced, hcoerced, hheld⟩, hnew⟩
  · rintro ⟨held, ⟨coerced, hcoerced, hheld⟩, hnew⟩
    exact ⟨coerced, hcoerced, held, hheld, hnew⟩

namespace Accessor

/-- Let a slot hold arrays of a declared element type.  Whether it is read through an array accessor
with the representation of the element type or through an accessor of the field as it is, the same
is read.  What is written through the one is taken exactly if it is taken through the other, and
leaves the same instance.

This is so for all values if the slot holds the elements as they are declared.  Where scalars may be
missing, there is one value more that only the slot takes for a missing element: `undefined` has no
representation, and the array accessor refuses it. -/
theorem array_agrees_with_field [ValueTypes] {schema : Schema} {key : TypeKey}
    {object : Instance} {depth : Nat} {name : String} {slot : Slot} {type : SlotType}
    (hslot : object.slot? depth name = some slot) (harray : type.IsArrayOf slot.type)
    (represents : type.Represents (schema.boxed key)) :
    let array := Accessor.array name depth (schema.elementKind key)
    let field := Accessor.field name depth
    array.get object = field.get object ∧
      ∀ value : Bson,
        ((type.isOption → schema.boxed key ∈ SlotType.scalars → .undefined ∉ value.items) →
          ∀ changed, array.set object value = (changed, .ok ()) ↔
            field.set object value = (changed, .ok ())) ∧
        (type.isOption → schema.boxed key ∈ SlotType.scalars → .undefined ∈ value.items →
          ∀ changed, array.set object value ≠ (changed, .ok ())) := by
  intro array field
  have isArray : array.IsField name := .array
  have isField : field.IsField name := .field
  refine ⟨?_, fun value =>
    ⟨fun hdefined changed => ?_, fun _ hscalar hmem changed hset => ?_⟩⟩
  · rw [isArray.get_eq hslot, isField.get_eq hslot]
    cases hread : slot.read with
    | error cause => rfl
    | ok held => exact ElementKind.coerceArray_toBson (harray.holdsArray represents) hread
  · have hitems : ∀ item ∈ value.items,
        (schema.elementKind key).Transparent type.ofBson item := by
      intro item hitem
      exact ElementKind.transparent_ofBson represents fun hoption hscalar hundefined =>
        hdefined hoption hscalar (hundefined ▸ hitem)
    simp only [isArray.set_eq_ok_iff, isField.set_eq_ok_iff]
    constructor
    · rintro ⟨slot', coerced, new, hslot', hcoerced, hwrite, rfl⟩
      obtain rfl : slot = slot' := Option.some.inj (hslot.symm.trans hslot')
      exact ⟨slot, value, new, hslot, rfl,
        (harray.write_coerceArray_iff hitems).1 ⟨coerced, hcoerced, hwrite⟩, rfl⟩
    · rintro ⟨slot', _, new, hslot', hadapt, hwrite, rfl⟩
      obtain rfl : slot = slot' := Option.some.inj (hslot.symm.trans hslot')
      cases hadapt
      obtain ⟨coerced, hcoerced, hwrite⟩ := (harray.write_coerceArray_iff hitems).2 hwrite
      exact ⟨slot, coerced, new, hslot, hcoerced, hwrite, rfl⟩
  · obtain ⟨_, coerced, _, -, hcoerced, -, -⟩ := isArray.set_eq_ok_iff.1 hset
    have hkind := represents.resolve_right (not_not_intro hscalar)
    refine ElementKind.coerceArray_ne_ok hmem (fun coerced => ?_) coerced hcoerced
    rw [Schema.elementKind_eq_kind hkind]
    exact ElementKind.coerce_kind_undefined (by simp [hkind]) coerced

/-- A pair of primitive integers of 16 bits in the parent.  A floating point number is taken by both
accessors, and a number of 17 bits, which has a representation as an element, by none. -/
theorem array_agrees_with_field_pair :
    let key : TypeKey := ⟨11⟩
    let pair : (SlotType.fixed 2 .int16).Carrier := ⟨[(7 : Int16), (8 : Int16)], rfl⟩
    let slot : Slot := ⟨.fixed 2 .int16, pair⟩
    let object : Instance := ⟨[{ fields := [] }, { fields := [("bounds", slot)] }]⟩
    let array := Accessor.array "bounds" 1 (Schema.builtins.elementKind key)
    let field := Accessor.field "bounds" 1
    let mixed : Bson := .array [.double ⟨4611686018427387904⟩, .int64 3]
    object.slot? 1 "bounds" = some slot ∧ SlotType.IsArrayOf .int16 slot.type ∧
      SlotType.Represents .int16 (Schema.builtins.boxed key) ∧
      array.get object = field.get object ∧
      (∃ changed, array.set object mixed = (changed, .ok ()) ∧
        field.set object mixed = (changed, .ok ()) ∧
        array.get changed = .ok (.array [.int32 2, .int32 3])) ∧
      ∀ changed, array.set object (.array [.int32 65536, .int32 3]) ≠ (changed, .ok ()) := by
  intro key pair slot object array field mixed
  have hslot : object.slot? 1 "bounds" = some slot := rfl
  have harray : SlotType.IsArrayOf .int16 slot.type := .fixed
  have represents : SlotType.Represents .int16 (Schema.builtins.boxed key) := .inl rfl
  obtain ⟨hget, hset⟩ := array_agrees_with_field hslot harray represents
  have hplain (value : Bson) : SlotType.int16.isOption →
      Schema.builtins.boxed key ∈ SlotType.scalars → .undefined ∉ value.items := nofun
  refine ⟨hslot, harray, represents, hget, ⟨_, rfl, ?_, rfl⟩, fun changed htaken => ?_⟩
  · exact ((hset mixed).1 (hplain mixed) _).1 rfl
  · cases ((hset _).1 (hplain _) changed).1 htaken

end Accessor

end ObjectDocument
