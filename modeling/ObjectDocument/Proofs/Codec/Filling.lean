import ObjectDocument.Proofs.Instance.Slots
import ObjectDocument.Property

/-!
# Filling slots

What decoding does to an instance is to put new slots in the place of those of some properties.  If
the new slots have the types of the old ones and the names of the properties differ, then each
property has its new slot in the end, if there is one (`slot?_foldl_fill`), and all else is what it
was (`slotAt?_foldl_fill`, `layout_foldl_fill`, `bare_foldl_fill`).
-/

namespace ObjectDocument.PropertyDescriptor

variable [ValueTypes]

def slot? (property : PropertyDescriptor) (object : Instance) : Option Slot :=
  object.slot? property.accessor.depth property.name

def Owns (property : PropertyDescriptor) (object : Instance) (depth place : Nat) : Prop :=
  property.accessor.depth = depth ∧ object.place? depth property.name = some place

def putSlot (property : PropertyDescriptor) (object : Instance) (slot : Slot) : Instance :=
  object.putSlot property.accessor.depth property.name slot

/-- The instance with the new slot of a property, if it has one, in the place of its old one. -/
def fill (new : PropertyDescriptor → Option Slot) (object : Instance)
    (property : PropertyDescriptor) : Instance :=
  match new property with
  | some slot => property.putSlot object slot
  | none => object

/-- The new slot of a property, if it has one, is of the type of its old one. -/
def Fits (new : PropertyDescriptor → Option Slot) (object : Instance)
    (property : PropertyDescriptor) : Prop :=
  ∀ slot ∈ new property, ∃ old, property.slot? object = some old ∧ slot.type = old.type

variable {new : PropertyDescriptor → Option Slot} {object other : Instance}
  {property : PropertyDescriptor} {properties : List PropertyDescriptor}

theorem exists_slot_of_layout (h : object.layout = other.layout) {slot : Slot}
    (hslot : property.slot? object = some slot) :
    ∃ found, property.slot? other = some found ∧ found.type = slot.type := by
  have htypes := Instance.type_slot?_of_layout h property.accessor.depth property.name
  change (property.slot? object).map (·.type) = (property.slot? other).map (·.type) at htypes
  rw [hslot] at htypes
  exact Option.map_eq_some_iff.1 htypes.symm

theorem Fits.of_layout (fits : property.Fits new object) (h : object.layout = other.layout) :
    property.Fits new other := by
  intro slot hslot
  obtain ⟨old, hold, htype⟩ := fits slot hslot
  obtain ⟨found, hfound, hsame⟩ := exists_slot_of_layout h hold
  exact ⟨found, hfound, htype.trans hsame.symm⟩

/-! ### One property -/

theorem layout_fill (fits : property.Fits new object) :
    (fill new object property).layout = object.layout := by
  unfold fill
  cases hnew : new property with
  | none => rfl
  | some slot =>
      obtain ⟨old, hold, htype⟩ := fits slot hnew
      exact Instance.layout_putSlot hold htype

theorem slot?_fill_self (fits : property.Fits new object) :
    property.slot? (fill new object property) = (new property).or (property.slot? object) := by
  unfold fill
  cases hnew : new property with
  | none => rfl
  | some slot =>
      obtain ⟨old, hold, -⟩ := fits slot hnew
      exact Instance.slot?_putSlot_self hold

theorem slot?_fill_of_ne {later : PropertyDescriptor} (h : property.name ≠ later.name) :
    later.slot? (fill new object property) = later.slot? object := by
  unfold fill
  cases new property with
  | none => rfl
  | some slot => exact Instance.slot?_putSlot_of_ne h later.accessor.depth

theorem slotAt?_fill {depth place : Nat}
    (h : property.accessor.depth = depth → object.place? depth property.name ≠ some place) :
    (fill new object property).slotAt? depth place = object.slotAt? depth place := by
  unfold fill
  cases new property with
  | none => rfl
  | some slot => exact Instance.slotAt?_putSlot_of_ne fun hdepth => hdepth ▸ h hdepth

theorem bare_fill (new : PropertyDescriptor → Option Slot) (object : Instance)
    (property : PropertyDescriptor) : (fill new object property).bare = object.bare := by
  unfold fill
  cases new property with
  | none => rfl
  | some slot => exact Instance.bare_putSlot ..

/-! ### Several properties -/

theorem layout_foldl_fill (fits : ∀ property ∈ properties, property.Fits new object) :
    (properties.foldl (fill new) object).layout = object.layout := by
  induction properties generalizing object with
  | nil => rfl
  | cons property rest ih =>
      have hsame := layout_fill (fits property List.mem_cons_self)
      rw [List.foldl_cons, ih, hsame]
      exact fun later hlater => (fits later (List.mem_cons_of_mem _ hlater)).of_layout hsame.symm

theorem slot?_foldl_fill_of_notMem (h : property.name ∉ properties.map (·.name)) :
    property.slot? (properties.foldl (fill new) object) = property.slot? object := by
  induction properties generalizing object with
  | nil => rfl
  | cons first rest ih =>
      rw [List.map_cons, List.mem_cons, not_or] at h
      rw [List.foldl_cons, ih h.2, slot?_fill_of_ne (Ne.symm h.1)]

/-- Of properties whose names differ, each has its new slot, or else its old one. -/
theorem slot?_foldl_fill (hnames : (properties.map (·.name)).Nodup)
    (hproperty : property ∈ properties) (fits : property.Fits new object) :
    property.slot? (properties.foldl (fill new) object) =
      (new property).or (property.slot? object) := by
  induction properties generalizing object with
  | nil => cases hproperty
  | cons first rest ih =>
      rw [List.map_cons, List.nodup_cons] at hnames
      rw [List.foldl_cons]
      rcases List.mem_cons.1 hproperty with rfl | hproperty
      · rw [slot?_foldl_fill_of_notMem hnames.1, slot?_fill_self fits]
      · have hsame : property.slot? (fill new object first) = property.slot? object :=
          slot?_fill_of_ne fun heq => hnames.1 (heq ▸ List.mem_map_of_mem hproperty)
        rw [← hsame]
        refine ih hnames.2 hproperty fun slot hslot => ?_
        rw [hsame]
        exact fits slot hslot

theorem slotAt?_foldl_fill (fits : ∀ property ∈ properties, property.Fits new object)
    {depth place : Nat} (h : ∀ property ∈ properties, property.accessor.depth = depth →
      object.place? depth property.name ≠ some place) :
    (properties.foldl (fill new) object).slotAt? depth place = object.slotAt? depth place := by
  induction properties generalizing object with
  | nil => rfl
  | cons property rest ih =>
      have hsame := layout_fill (fits property List.mem_cons_self)
      rw [List.foldl_cons, ih, slotAt?_fill (h property List.mem_cons_self)]
      · exact fun later hlater => (fits later (List.mem_cons_of_mem _ hlater)).of_layout hsame.symm
      · intro later hlater
        rw [Instance.place?_of_layout hsame]
        exact h later (List.mem_cons_of_mem _ hlater)

theorem bare_foldl_fill (new : PropertyDescriptor → Option Slot) (object : Instance)
    (properties : List PropertyDescriptor) :
    (properties.foldl (fill new) object).bare = object.bare := by
  induction properties generalizing object with
  | nil => rfl
  | cons property rest ih => rw [List.foldl_cons, ih, bare_fill]

end ObjectDocument.PropertyDescriptor
