import ObjectDocument.Value.Convert

/-!
# Instances

An instance is a chain of parts: its own, then the part that holds the members of its parent type,
and so on.  A part has named field slots, and methods that read or write named cells.  A write goes
to the first slot of its name, and says what the part is after it as well as whether the value was
taken.
-/

namespace ObjectDocument

variable [ValueTypes]

/-- Named slots, of which the first of a name is the one that the name means. -/
abbrev Slots := List (String × Slot)

namespace Slots

def write? (name : String) (value : Bson) : Slots → Option (Slots × Except MappingError Unit)
  | [] => none
  | entry :: rest =>
    if entry.1 = name then
      let (slot, outcome) := entry.2.write value
      some ((name, slot) :: rest, outcome)
    else
      (write? name value rest).map fun (written, outcome) => (entry :: written, outcome)

def read? (name : String) (slots : Slots) : Option (Except MappingError Bson) :=
  (slots.lookup name).map Slot.read

end Slots

/-- The members of one type in an instance. -/
structure Part where
  fields : Slots := []
  /-- Slots that only methods reach. -/
  cells : Slots := []
  /-- The cell that each getter reads. -/
  getters : List (String × String) := []
  /-- The cell that each setter writes. -/
  setters : List (String × String) := []

namespace Part

def readField? (part : Part) (field : String) : Option (Except MappingError Bson) :=
  part.fields.read? field

def writeField? (part : Part) (field : String) (value : Bson) :
    Option (Part × Except MappingError Unit) :=
  (part.fields.write? field value).map fun (fields, outcome) => ({ part with fields }, outcome)

def callGetter? (part : Part) (method : String) : Option (Except MappingError Bson) :=
  part.getters.lookup method >>= part.cells.read?

def callSetter? (part : Part) (method : String) (value : Bson) :
    Option (Part × Except MappingError Unit) := do
  let cell ← part.setters.lookup method
  let (cells, outcome) ← part.cells.write? cell value
  return ({ part with cells }, outcome)

end Part

/-- The parts of an object, its own first and each followed by that of its parent type. -/
structure Instance where
  parts : List Part

namespace Instance

/-- The part that a number of parent links leads to. -/
def part (object : Instance) (depth : Nat) : Except MappingError Part :=
  match object.parts[depth]? with
  | some part => .ok part
  | none => .error (.notFound ("parent at depth " ++ toString object.parts.length))

def setPart (object : Instance) (depth : Nat) (part : Part) : Instance :=
  ⟨object.parts.set depth part⟩

end Instance

end ObjectDocument
