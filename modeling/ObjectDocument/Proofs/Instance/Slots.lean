import Mathlib.Data.List.Basic
import ObjectDocument.Instance
import ObjectDocument.Proofs.Outcome

/-!
# Slots of an instance

The slot of a name at a number of parent links is the first one of that name there.  Another slot in
its place is seen under that name there (`slot?_putSlot_self`) and nowhere else: not under another
name (`slot?_putSlot_of_ne`), in no other place, not even one of the same name
(`slotAt?_putSlot_of_ne`), and in nothing that is no field (`bare_putSlot`).
-/

namespace ObjectDocument

variable [ValueTypes]

namespace Slots

def layout (slots : Slots) : List (String × SlotType) :=
  slots.map fun entry => (entry.1, entry.2.type)

def place? (name : String) (slots : Slots) : Option Nat :=
  slots.findIdx? (·.1 = name)

def put (name : String) (slot : Slot) : Slots → Slots
  | [] => []
  | entry :: rest =>
    if entry.1 = name then (name, slot) :: rest else entry :: put name slot rest

variable {slots : Slots} {name other : String} {slot old new : Slot} {value : Bson}

theorem lookup_cons_self (rest : Slots) : List.lookup name ((name, slot) :: rest) = some slot := by
  rw [List.lookup_cons, beq_self_eq_true]

theorem lookup_cons_of_ne {entry : String × Slot} (h : entry.1 ≠ name) (rest : Slots) :
    List.lookup name (entry :: rest) = List.lookup name rest := by
  rw [List.lookup_cons, beq_false_of_ne h.symm]

theorem lookup_eq_none_iff : slots.lookup name = none ↔ name ∉ slots.map Prod.fst := by
  rw [List.lookup_eq_none_iff]
  constructor
  · intro h hname
    obtain ⟨entry, hentry, rfl⟩ := List.mem_map.1 hname
    simpa using h entry hentry
  · intro h entry hentry
    exact bne_iff_ne.2 fun heq => h (heq ▸ List.mem_map_of_mem hentry)

theorem write?_eq (slots : Slots) (name : String) (value : Bson) :
    slots.write? name value = (slots.lookup name).map fun slot =>
      (slots.put name (slot.write value).1, (slot.write value).2) := by
  induction slots with
  | nil => rfl
  | cons entry rest ih =>
      by_cases hname : entry.1 = name
      · obtain ⟨key, first⟩ := entry
        obtain rfl : key = name := hname
        simp only [write?, put, if_true, lookup_cons_self, Option.map_some]
      · rw [write?, if_neg hname, ih, lookup_cons_of_ne hname, Option.map_map]
        simp only [put, if_neg hname, Function.comp_def]

theorem lookup_put_self (h : slots.lookup name = some old) :
    (slots.put name slot).lookup name = some slot := by
  induction slots with
  | nil => cases h
  | cons entry rest ih =>
      by_cases hname : entry.1 = name
      · rw [put, if_pos hname]
        exact lookup_cons_self rest
      · rw [lookup_cons_of_ne hname] at h
        rw [put, if_neg hname, lookup_cons_of_ne hname]
        exact ih h

theorem lookup_put_of_ne (h : name ≠ other) (slots : Slots) :
    (slots.put name slot).lookup other = slots.lookup other := by
  induction slots with
  | nil => rfl
  | cons entry rest ih =>
      by_cases hname : entry.1 = name
      · rw [put, if_pos hname, lookup_cons_of_ne h, lookup_cons_of_ne (hname ▸ h)]
      · rw [put, if_neg hname]
        by_cases hother : entry.1 = other
        · rw [List.lookup_cons, List.lookup_cons, ih]
        · rw [lookup_cons_of_ne hother, lookup_cons_of_ne hother, ih]

theorem put_eq_self (h : slots.lookup name = some slot) : slots.put name slot = slots := by
  induction slots with
  | nil => rfl
  | cons entry rest ih =>
      by_cases hname : entry.1 = name
      · obtain ⟨key, first⟩ := entry
        obtain rfl : key = name := hname
        obtain rfl : first = slot := by rwa [lookup_cons_self, Option.some_inj] at h
        rw [put, if_pos rfl]
      · rw [lookup_cons_of_ne hname] at h
        rw [put, if_neg hname, ih h]

theorem layout_put (hslot : slots.lookup name = some old) (htype : slot.type = old.type) :
    (slots.put name slot).layout = slots.layout := by
  induction slots with
  | nil => rfl
  | cons entry rest ih =>
      by_cases hname : entry.1 = name
      · obtain ⟨key, first⟩ := entry
        obtain rfl : key = name := hname
        obtain rfl : first = old := by rwa [lookup_cons_self, Option.some_inj] at hslot
        rw [put, if_pos rfl, layout, layout, List.map_cons, List.map_cons, htype]
      · rw [lookup_cons_of_ne hname] at hslot
        rw [put, if_neg hname]
        exact congrArg (List.cons (entry.1, entry.2.type)) (ih hslot)

theorem getElem?_put_of_ne {place : Nat} (h : slots.place? name ≠ some place) :
    (slots.put name slot)[place]? = slots[place]? := by
  induction slots generalizing place with
  | nil => rfl
  | cons entry rest ih =>
      by_cases hname : entry.1 = name
      · rw [put, if_pos hname]
        cases place with
        | zero =>
            have hplace : place? name (entry :: rest) = some 0 := by
              simp [place?, List.findIdx?_cons, hname]
            exact absurd hplace h
        | succ place => rfl
      · rw [put, if_neg hname]
        cases place with
        | zero => rfl
        | succ place =>
            rw [List.getElem?_cons_succ, List.getElem?_cons_succ]
            refine ih fun hplace => h ?_
            simpa [place?, List.findIdx?_cons, hname] using hplace

theorem place?_layout (slots : Slots) :
    slots.layout.findIdx? (·.1 = name) = slots.place? name := by
  rw [layout, List.findIdx?_map]
  rfl

theorem lookup_layout (slots : Slots) :
    slots.layout.lookup name = (slots.lookup name).map (·.type) := by
  induction slots with
  | nil => rfl
  | cons entry rest ih =>
      change List.lookup name ((entry.1, entry.2.type) :: layout rest) = _
      rw [List.lookup_cons, List.lookup_cons, ih]
      cases name == entry.1 <;> rfl

end Slots

namespace Instance

def layout (object : Instance) : List (List (String × SlotType)) :=
  object.parts.map fun part => part.fields.layout

def slot? (object : Instance) (depth : Nat) (name : String) : Option Slot :=
  object.parts[depth]?.bind fun part => part.fields.lookup name

def place? (object : Instance) (depth : Nat) (name : String) : Option Nat :=
  object.parts[depth]?.bind fun part => part.fields.place? name

def slotAt? (object : Instance) (depth place : Nat) : Option (String × Slot) :=
  object.parts[depth]?.bind fun part => part.fields[place]?

def bare (object : Instance) : Instance :=
  ⟨object.parts.map fun part => { part with fields := [] }⟩

def putSlot (object : Instance) (depth : Nat) (name : String) (slot : Slot) : Instance :=
  ⟨object.parts.modify depth fun part => { part with fields := part.fields.put name slot }⟩

/-- What is wrong if there is no slot of a name at a depth: the parent links end before, or the part
that they lead to has no such field. -/
def noSlot (object : Instance) (depth : Nat) (name : String) : MappingError :=
  .notFound (if depth < object.parts.length then "field " ++ name
    else "parent at depth " ++ toString object.parts.length)

/-- What is written into a document for the slot that a name means. -/
def readSlot (object : Instance) (depth : Nat) (name : String) : Except MappingError Bson :=
  match object.slot? depth name with
  | some slot => slot.read
  | none => .error (object.noSlot depth name)

/-- The instance with what the slot that a name means makes of a value in the place of the slot. -/
def writeSlot (object : Instance) (depth : Nat) (name : String) (value : Bson) :
    Instance × Except MappingError Unit :=
  match object.slot? depth name with
  | some slot => (object.putSlot depth name (slot.write value).1, (slot.write value).2)
  | none => (object, .error (object.noSlot depth name))

variable {object source : Instance} {depth : Nat} {name : String} {slot old : Slot}

theorem slot?_eq_some_iff :
    object.slot? depth name = some slot ↔
      ∃ part, object.parts[depth]? = some part ∧ part.fields.lookup name = some slot :=
  Option.bind_eq_some_iff

theorem parts_putSlot_self (object : Instance) (depth : Nat) (name : String) (slot : Slot) :
    (object.putSlot depth name slot).parts[depth]? =
      object.parts[depth]?.map fun part => { part with fields := part.fields.put name slot } := by
  simp [putSlot]

theorem parts_putSlot_of_ne {other : Nat} (h : depth ≠ other) :
    (object.putSlot depth name slot).parts[other]? = object.parts[other]? := by
  simp [putSlot, h]

theorem putSlot_eq_setPart {part : Part} (h : object.parts[depth]? = some part) :
    object.putSlot depth name slot =
      object.setPart depth { part with fields := part.fields.put name slot } := by
  rw [putSlot, setPart, List.modify_eq_set_getElem?, h]
  rfl

theorem setPart_eq_self {part : Part} (h : object.parts[depth]? = some part) :
    object.setPart depth part = object := by
  obtain ⟨_, rfl⟩ := List.getElem?_eq_some_iff.1 h
  exact congrArg Instance.mk (List.set_getElem_self _)

theorem slot?_putSlot_self (h : object.slot? depth name = some old) :
    (object.putSlot depth name slot).slot? depth name = some slot := by
  obtain ⟨part, hpart, hold⟩ := slot?_eq_some_iff.1 h
  refine slot?_eq_some_iff.2 ⟨{ part with fields := part.fields.put name slot }, ?_,
    Slots.lookup_put_self hold⟩
  rw [parts_putSlot_self, hpart]
  rfl

theorem slot?_putSlot_of_ne {other : String} (h : name ≠ other) (other_depth : Nat) :
    (object.putSlot depth name slot).slot? other_depth other = object.slot? other_depth other := by
  unfold slot?
  by_cases hdepth : depth = other_depth
  · subst hdepth
    rw [parts_putSlot_self]
    cases object.parts[depth]? with
    | none => rfl
    | some part => exact Slots.lookup_put_of_ne h part.fields
  · rw [parts_putSlot_of_ne hdepth]

theorem putSlot_eq_self (h : object.slot? depth name = some slot) :
    object.putSlot depth name slot = object := by
  obtain ⟨part, hpart, hslot⟩ := slot?_eq_some_iff.1 h
  rw [putSlot_eq_setPart hpart, Slots.put_eq_self hslot]
  exact setPart_eq_self hpart

theorem readSlot_of_some (h : object.slot? depth name = some slot) :
    object.readSlot depth name = slot.read := by
  rw [readSlot, h]

theorem readSlot_of_none (h : object.slot? depth name = none) :
    object.readSlot depth name = .error (object.noSlot depth name) := by
  rw [readSlot, h]

theorem writeSlot_of_some (h : object.slot? depth name = some slot) (value : Bson) :
    object.writeSlot depth name value =
      (object.putSlot depth name (slot.write value).1, (slot.write value).2) := by
  rw [writeSlot, h]

theorem writeSlot_of_none (h : object.slot? depth name = none) (value : Bson) :
    object.writeSlot depth name value = (object, .error (object.noSlot depth name)) := by
  rw [writeSlot, h]

theorem slotAt?_putSlot_of_ne {other_depth place : Nat}
    (h : depth = other_depth → object.place? depth name ≠ some place) :
    (object.putSlot depth name slot).slotAt? other_depth place =
      object.slotAt? other_depth place := by
  unfold slotAt?
  by_cases hdepth : depth = other_depth
  · subst hdepth
    have hplace := h rfl
    unfold place? at hplace
    rw [parts_putSlot_self]
    cases hpart : object.parts[depth]? with
    | none => rfl
    | some part =>
        rw [hpart] at hplace
        exact Slots.getElem?_put_of_ne hplace
  · rw [parts_putSlot_of_ne hdepth]

theorem layout_putSlot (hslot : object.slot? depth name = some old) (htype : slot.type = old.type) :
    (object.putSlot depth name slot).layout = object.layout := by
  obtain ⟨part, hpart, hold⟩ := slot?_eq_some_iff.1 hslot
  refine List.ext_getElem? fun other => ?_
  rw [layout, layout, List.getElem?_map, List.getElem?_map]
  by_cases hdepth : depth = other
  · subst hdepth
    rw [parts_putSlot_self, hpart]
    exact congrArg some (Slots.layout_put hold htype)
  · rw [parts_putSlot_of_ne hdepth]

theorem bare_putSlot (object : Instance) (depth : Nat) (name : String) (slot : Slot) :
    (object.putSlot depth name slot).bare = object.bare := by
  refine congrArg Instance.mk (List.ext_getElem? fun other => ?_)
  rw [List.getElem?_map, List.getElem?_map]
  by_cases hdepth : depth = other
  · subst hdepth
    rw [parts_putSlot_self, Option.map_map]
    rfl
  · rw [parts_putSlot_of_ne hdepth]

section

variable {target : Instance} (h : source.layout = target.layout)

include h

theorem type_slot?_of_layout (depth : Nat) (name : String) :
    (source.slot? depth name).map (·.type) = (target.slot? depth name).map (·.type) := by
  have htypes (object : Instance) : (object.slot? depth name).map (·.type) =
      object.layout[depth]?.bind fun slots => slots.lookup name := by
    rw [slot?, layout, List.getElem?_map]
    cases object.parts[depth]? with
    | none => rfl
    | some part => exact (Slots.lookup_layout part.fields).symm
  rw [htypes, htypes, h]

theorem place?_of_layout (depth : Nat) (name : String) :
    source.place? depth name = target.place? depth name := by
  have hplaces (object : Instance) : object.place? depth name =
      object.layout[depth]?.bind fun slots => slots.findIdx? (·.1 = name) := by
    rw [place?, layout, List.getElem?_map]
    cases object.parts[depth]? with
    | none => rfl
    | some part => exact (Slots.place?_layout part.fields).symm
  rw [hplaces, hplaces, h]

end

end Instance

end ObjectDocument
