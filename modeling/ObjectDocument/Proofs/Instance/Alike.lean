import ObjectDocument.Accessor
import ObjectDocument.Proofs.Instance.Slots
import ObjectDocument.Proofs.Value.Normal

/-!
# Instances that no accessor tells apart

A moment is stored to the millisecond, so instances can differ although the same is read from them.
Instances are alike if their slots have the same names and types and hold values that are alike.  An
accessor reads the same from both, and a write is taken by both or by none and leaves them alike
(`Instance.Alike.get_eq`, `Instance.Alike.set`).  So there is no sequence of reads and writes that
is answered differently (`Instance.Alike.answers_eq`).
-/

namespace List.Forall₂

variable {α β : Type} {R : α → β → Prop} {as : List α} {bs : List β}

theorem getElem? (h : Forall₂ R as bs) (index : Nat) : Option.Rel R as[index]? bs[index]? := by
  induction h generalizing index with
  | nil => exact .none
  | cons hab _ ih =>
      cases index with
      | zero => exact .some hab
      | succ index => exact ih index

theorem set (h : Forall₂ R as bs) (index : Nat) {a : α} {b : β} (hab : R a b) :
    Forall₂ R (as.set index a) (bs.set index b) := by
  induction h generalizing index with
  | nil => exact .nil
  | cons hfirst hrest ih =>
      cases index with
      | zero => exact .cons hab hrest
      | succ index => exact .cons hfirst (ih index)

end List.Forall₂

namespace ObjectDocument

variable [ValueTypes]

/-- Two states were written: both took the value or none did, and what they are now is related. -/
structure BothWritten {State : Type} (R : State → State → Prop)
    (written other : State × Except MappingError Unit) : Prop where
  state : R written.1 other.1
  outcome : written.2 = other.2

theorem Slot.Alike.write {slot other : Slot} (h : slot.Alike other) (value : Bson) :
    BothWritten Slot.Alike (slot.write value) (other.write value) := by
  unfold Slot.write
  rw [h.type_eq]
  cases Slot.ofBson slot.type value with
  | ok new => exact ⟨.refl new, rfl⟩
  | error cause => exact ⟨h, rfl⟩

/-! ### Slots under names -/

namespace Slots

variable {slots others : Slots} {slot other : Slot}

theorem alike_refl (slots : Slots) : Entrywise Slot.Alike slots slots :=
  List.forall₂_same.2 fun entry _ => ⟨rfl, .refl entry.2⟩

theorem lookup_alike (h : Entrywise Slot.Alike slots others) (name : String) :
    Option.Rel Slot.Alike (slots.lookup name) (others.lookup name) := by
  induction h with
  | nil => exact .none
  | @cons entry other slots others hentry _ ih =>
      rw [List.lookup_cons, List.lookup_cons, ← hentry.1]
      cases name == entry.1 with
      | true => exact .some hentry.2
      | false => exact ih

theorem put_alike (h : Entrywise Slot.Alike slots others) (name : String)
    (hslot : slot.Alike other) :
    Entrywise Slot.Alike (slots.put name slot) (others.put name other) := by
  induction h with
  | nil => exact .nil
  | @cons entry found slots others hentry hrest ih =>
      rw [put, put, ← hentry.1]
      by_cases hname : entry.1 = name
      · rw [if_pos hname, if_pos hname]
        exact .cons ⟨rfl, hslot⟩ hrest
      · rw [if_neg hname, if_neg hname]
        exact .cons hentry ih

theorem read?_eq_of_alike (h : Entrywise Slot.Alike slots others) (name : String) :
    slots.read? name = others.read? name := by
  have hfound := lookup_alike h name
  unfold read?
  generalize slots.lookup name = found, others.lookup name = foundOther at hfound ⊢
  cases hfound with
  | none => rfl
  | some hslot => exact congrArg some hslot.read_eq

theorem write?_alike (h : Entrywise Slot.Alike slots others) (name : String) (value : Bson) :
    Option.Rel (BothWritten (Entrywise Slot.Alike)) (slots.write? name value)
      (others.write? name value) := by
  have hfound := lookup_alike h name
  rw [write?_eq, write?_eq]
  generalize slots.lookup name = found, others.lookup name = foundOther at hfound ⊢
  cases hfound with
  | none => exact .none
  | some hslot =>
      have hwritten := hslot.write value
      exact .some ⟨put_alike h name hwritten.state, hwritten.outcome⟩

end Slots

/-! ### Parts -/

structure Part.Alike (part other : Part) : Prop where
  fields : Entrywise Slot.Alike part.fields other.fields
  cells : Entrywise Slot.Alike part.cells other.cells
  getters : part.getters = other.getters
  setters : part.setters = other.setters

namespace Part.Alike

variable {part other : Part}

theorem refl (part : Part) : part.Alike part :=
  ⟨Slots.alike_refl _, Slots.alike_refl _, rfl, rfl⟩

theorem readField (h : part.Alike other) (name : String) :
    Accessor.readField name part = Accessor.readField name other := by
  rw [Accessor.readField, readField?, Slots.read?_eq_of_alike h.fields]
  rfl

theorem callGetter (h : part.Alike other) (getter : String) :
    Accessor.callGetter getter part = Accessor.callGetter getter other := by
  have hcells : part.cells.read? = other.cells.read? :=
    funext fun name => Slots.read?_eq_of_alike h.cells name
  rw [Accessor.callGetter, callGetter?, h.getters, hcells]
  rfl

theorem writeField (h : part.Alike other) (name : String) (value : Bson) :
    BothWritten Part.Alike (Accessor.writeField name value part)
      (Accessor.writeField name value other) := by
  have hwritten := Slots.write?_alike h.fields name value
  unfold Accessor.writeField writeField?
  generalize part.fields.write? name value = written,
    other.fields.write? name value = writtenOther at hwritten ⊢
  cases hwritten with
  | none => exact ⟨h, rfl⟩
  | some hfields => exact ⟨⟨hfields.state, h.cells, h.getters, h.setters⟩, hfields.outcome⟩

theorem callSetter (h : part.Alike other) (setter : String) (value : Bson) :
    BothWritten Part.Alike (Accessor.callSetter setter value part)
      (Accessor.callSetter setter value other) := by
  unfold Accessor.callSetter callSetter?
  rw [← h.setters]
  cases part.setters.lookup setter with
  | none => exact ⟨h, rfl⟩
  | some cell =>
      have hwritten := Slots.write?_alike h.cells cell value
      simp only [Option.bind_eq_bind, Option.bind_some]
      generalize part.cells.write? cell value = written,
        other.cells.write? cell value = writtenOther at hwritten ⊢
      cases hwritten with
      | none => exact ⟨h, rfl⟩
      | some hcells => exact ⟨⟨h.fields, hcells.state, h.getters, rfl⟩, hcells.outcome⟩

end Part.Alike

/-! ### Instances -/

/-- The instances have the same number of parts, which are alike one by one. -/
def Instance.Alike (object other : Instance) : Prop :=
  List.Forall₂ Part.Alike object.parts other.parts

inductive Access where
  | get (accessor : Accessor)
  | set (accessor : Accessor) (value : Bson)

namespace Access

/-- The instance after an access, and what the access is answered. -/
def run (object : Instance) : Access → Instance × Except MappingError (Option Bson)
  | get accessor => (object, some <$> accessor.get object)
  | set accessor value =>
    let (written, outcome) := accessor.set object value
    (written, (fun _ => none) <$> outcome)

/-- The answers to accesses, each made of the instance that those before it leave. -/
def answers : List Access → Instance → List (Except MappingError (Option Bson))
  | [], _ => []
  | access :: rest, object => (access.run object).2 :: answers rest (access.run object).1

end Access

namespace Instance.Alike

variable {object other : Instance}

theorem refl (object : Instance) : object.Alike object :=
  List.forall₂_same.2 fun part _ => .refl part

theorem part (h : object.Alike other) (depth : Nat) :
    (∃ cause, object.part depth = .error cause ∧ other.part depth = .error cause) ∨
      ∃ part found, object.part depth = .ok part ∧ other.part depth = .ok found ∧
        part.Alike found := by
  have hparts : Option.Rel Part.Alike object.parts[depth]? other.parts[depth]? :=
    h.getElem? depth
  unfold Instance.part
  rw [List.Forall₂.length_eq h]
  generalize object.parts[depth]? = part, other.parts[depth]? = found at hparts ⊢
  cases hparts with
  | none => exact .inl ⟨_, rfl, rfl⟩
  | some hpart => exact .inr ⟨_, _, rfl, rfl, hpart⟩

theorem setPart (h : object.Alike other) (depth : Nat) {part found : Part}
    (hpart : part.Alike found) : (object.setPart depth part).Alike (other.setPart depth found) :=
  List.Forall₂.set h depth hpart

theorem updatePart (h : object.Alike other) (depth : Nat)
    {update : Part → Part × Except MappingError Unit}
    (hupdate : ∀ {part found : Part}, part.Alike found →
      BothWritten Part.Alike (update part) (update found)) :
    BothWritten Alike (Accessor.updatePart object depth update)
      (Accessor.updatePart other depth update) := by
  unfold Accessor.updatePart
  rcases h.part depth with ⟨cause, hobject, hother⟩ | ⟨part, found, hobject, hother, hpart⟩
  · rw [hobject, hother]
    exact ⟨h, rfl⟩
  · rw [hobject, hother]
    exact ⟨h.setPart depth (hupdate hpart).state, (hupdate hpart).outcome⟩

theorem get_eq (h : object.Alike other) (accessor : Accessor) :
    accessor.get object = accessor.get other := by
  have hread {read : Part → Except MappingError Bson} (depth : Nat)
      (hsame : ∀ {part found : Part}, part.Alike found → read part = read found) :
      object.part depth >>= read = other.part depth >>= read := by
    rcases h.part depth with ⟨cause, hobject, hother⟩ | ⟨part, found, hobject, hother, hpart⟩
    · rw [hobject, hother]
    · rw [hobject, hother]
      exact hsame hpart
  cases accessor with
  | field name depth => exact hread depth fun hpart => hpart.readField name
  | method getter setter depth => exact hread depth fun hpart => hpart.callGetter getter
  | array name depth element =>
      exact congrArg (· >>= element.coerceArray) (hread depth fun hpart => hpart.readField name)

/-- A write is taken by both of two instances that are alike or by none, and leaves them alike. -/
theorem set (h : object.Alike other) (accessor : Accessor) (value : Bson) :
    BothWritten Alike (accessor.set object value) (accessor.set other value) := by
  cases accessor with
  | field name depth => exact h.updatePart depth fun hpart => hpart.writeField name value
  | method getter setter depth =>
      exact h.updatePart depth fun hpart => hpart.callSetter setter value
  | array name depth element =>
      simp only [Accessor.set]
      cases element.coerceArray value with
      | ok coerced => exact h.updatePart depth fun hpart => hpart.writeField name coerced
      | error cause => exact ⟨h, rfl⟩

theorem run (h : object.Alike other) (access : Access) :
    (access.run object).1.Alike (access.run other).1 ∧
      (access.run object).2 = (access.run other).2 := by
  cases access with
  | get accessor => exact ⟨h, congrArg (some <$> ·) (h.get_eq accessor)⟩
  | set accessor value =>
      have hwritten := h.set accessor value
      exact ⟨hwritten.state, congrArg ((fun _ => none) <$> ·) hwritten.outcome⟩

end Instance.Alike

end ObjectDocument
