import ObjectDocument.Model
import ObjectDocument.Codec
import ObjectDocument.Proofs.Codec.Filling
import ObjectDocument.Proofs.Draft.Fields
import ObjectDocument.Proofs.Mapper.History

/-!
# Decoding up to a failure

Decoding goes through the properties of a model and stops at the first one that refuses the value
that the document has for it.  Whether a property takes a value is decided by the instance as it was
before anything was written, for properties of different names do not touch each other's slots
(`EntityModel.decodeProperties_append`).  So the instance in the end has the new slots of the
properties before the first that refuses, and is else what it was (`Mapper.decodeInto_outcome`).
-/

namespace ObjectDocument

theorem EntityModel.nodup_before {first rest : List PropertyDescriptor}
    (h : ((first ++ rest).map (·.name)).Nodup) :
    (first.map (·.name)).Nodup ∧ ∀ later ∈ rest, later.name ∉ first.map (·.name) := by
  rw [List.map_append, List.nodup_append] at h
  exact ⟨h.1, fun later hlater hname =>
    h.2.2 _ hname _ (List.mem_map_of_mem hlater) rfl⟩

section

variable [ValueTypes]

namespace PropertyDescriptor

/-- The slot of the property takes the value, after its elements are brought to their
representation, and is another slot then. -/
def Takes (property : PropertyDescriptor) (object : Instance) (value : Bson) (new : Slot) : Prop :=
  ∃ adapted old, property.accessor.adapt value = .ok adapted ∧
    property.slot? object = some old ∧ old.write adapted = (new, .ok ())

/-- Why the property does not take the value. -/
inductive Refuses (property : PropertyDescriptor) (object : Instance) (value : Bson) :
    MappingError → Prop where
  /-- The value is no array, or an element has no such representation. -/
  | value {cause} (hadapt : property.accessor.adapt value = .error cause) :
      Refuses property object value cause
  /-- There are fewer parent links than the property is deep. -/
  | parent {adapted} (hadapt : property.accessor.adapt value = .ok adapted)
      (hdepth : object.parts.length ≤ property.accessor.depth) :
      Refuses property object value
        (.notFound ("parent at depth " ++ toString object.parts.length))
  /-- The part at this depth has no field of the name. -/
  | field {adapted} (hadapt : property.accessor.adapt value = .ok adapted)
      (hdepth : property.accessor.depth < object.parts.length)
      (hslot : property.slot? object = none) :
      Refuses property object value (.notFound ("field " ++ property.name))
  /-- The slot holds no such values. -/
  | slot {adapted old cause} (hadapt : property.accessor.adapt value = .ok adapted)
      (hslot : property.slot? object = some old) (hwrite : (old.write adapted).2 = .error cause) :
      Refuses property object value cause

variable {property : PropertyDescriptor} {object other : Instance} {value : Bson} {new : Slot}
  {document : Document}

theorem Takes.congr (hslot : property.slot? object = property.slot? other) :
    property.Takes object value new ↔ property.Takes other value new := by
  rw [Takes, Takes, hslot]

theorem Takes.unique {found : Slot} (h : property.Takes object value new)
    (hfound : property.Takes object value found) : found = new := by
  obtain ⟨adapted, old, hadapt, hslot, hwrite⟩ := h
  obtain ⟨other, slot, hother, hsame, hwritten⟩ := hfound
  obtain rfl : adapted = other := Except.ok.inj (hadapt.symm.trans hother)
  obtain rfl : old = slot := Option.some.inj (hslot.symm.trans hsame)
  exact (Prod.mk.inj (hwritten.symm.trans hwrite)).1

theorem Refuses.congr (hslot : property.slot? object = property.slot? other)
    (hparts : object.parts.length = other.parts.length) {cause : MappingError}
    (h : property.Refuses object value cause) : property.Refuses other value cause := by
  cases h with
  | value hadapt => exact .value hadapt
  | parent hadapt hdepth =>
      rw [hparts] at hdepth ⊢
      exact .parent hadapt hdepth
  | field hadapt hdepth hnone => exact .field hadapt (hparts ▸ hdepth) (hslot ▸ hnone)
  | slot hadapt hsome hwrite => exact .slot hadapt (hslot ▸ hsome) hwrite

theorem takes_or_refuses (property : PropertyDescriptor) (object : Instance) (value : Bson) :
    (∃ new, property.Takes object value new) ∨ ∃ cause, property.Refuses object value cause := by
  cases hadapt : property.accessor.adapt value with
  | error cause => exact .inr ⟨cause, .value hadapt⟩
  | ok adapted =>
      cases hslot : property.slot? object with
      | none =>
          rcases Nat.lt_or_ge property.accessor.depth object.parts.length with hdepth | hdepth
          · exact .inr ⟨_, .field hadapt hdepth hslot⟩
          · exact .inr ⟨_, .parent hadapt hdepth⟩
      | some old =>
          cases hwrite : (old.write adapted).2 with
          | error cause => exact .inr ⟨cause, .slot hadapt hslot hwrite⟩
          | ok => exact .inl ⟨_, adapted, old, hadapt, hslot, Prod.ext rfl hwrite⟩

theorem slot?_eq_none_of_depth (h : object.parts.length ≤ property.accessor.depth) :
    property.slot? object = none := by
  rw [slot?, Instance.slot?, List.getElem?_eq_none h]
  rfl

theorem write_of_takes (isField : property.accessor.IsField property.name)
    (h : property.Takes object value new) :
    property.write object value = (property.putSlot object new, .ok ()) := by
  obtain ⟨adapted, old, hadapt, hslot, hwrite⟩ := h
  rw [write, isField.set_eq hslot hadapt hwrite]
  rfl

theorem write_of_refuses (isField : property.accessor.IsField property.name)
    {cause : MappingError} (h : property.Refuses object value cause) :
    property.write object value = (object, .error (.mapping property.fullName cause)) := by
  have hrefused : (property.accessor.set object value).2 = .error cause := by
    cases h with
    | value hadapt => rw [isField.set_of_adapt_error hadapt]
    | parent hadapt hdepth =>
        have hnone : object.slot? property.accessor.depth property.name = none :=
          slot?_eq_none_of_depth hdepth
        rw [isField.set_of_adapt hadapt, Instance.writeSlot_of_none hnone, Instance.noSlot,
          if_neg (Nat.not_lt.2 hdepth)]
    | field hadapt hdepth hslot =>
        have hnone : object.slot? property.accessor.depth property.name = none := hslot
        rw [isField.set_of_adapt hadapt, Instance.writeSlot_of_none hnone, Instance.noSlot,
          if_pos hdepth]
    | slot hadapt hslot hwrite =>
        have hsome : object.slot? property.accessor.depth property.name = some _ := hslot
        rw [isField.set_of_adapt hadapt, Instance.writeSlot_of_some hsome]
        exact hwrite
  have hset : property.accessor.set object value = (object, .error cause) :=
    Prod.ext (isField.set_eq_self_of_error hrefused) hrefused
  rw [write, hset]
  rfl

theorem Refuses.not_takes {cause : MappingError} (h : property.Refuses object value cause) :
    ¬ property.Takes object value new := by
  rintro ⟨adapted, old, hadapt, hslot, hwrite⟩
  cases h with
  | value h => rw [hadapt] at h; cases h
  | parent _ hdepth => rw [slot?_eq_none_of_depth hdepth] at hslot; cases hslot
  | field _ _ hnone => rw [hnone] at hslot; cases hslot
  | slot h hsome hfailed =>
      rw [hadapt] at h
      rw [hslot] at hsome
      cases h
      cases hsome
      rw [hwrite] at hfailed
      cases hfailed

/-- The slot that takes the value of the document, if it has one that is taken. -/
def decoded? (document : Document) (object : Instance) (property : PropertyDescriptor) :
    Option Slot := do
  let value ← document.get? property.mappedName
  let adapted ← (property.accessor.adapt value).toOption
  let old ← property.slot? object
  (Slot.ofBson old.type adapted).toOption

/-- If the document has a value for the property, the property takes it. -/
def Accepts (property : PropertyDescriptor) (document : Document) (object : Instance) : Prop :=
  ∀ value, document.get? property.mappedName = some value → ∃ new, property.Takes object value new

/-- The property has taken the value of the document, or has its old slot if there is none. -/
structure Written (property : PropertyDescriptor) (document : Document)
    (object written : Instance) : Prop where
  taken : ∀ value, document.get? property.mappedName = some value →
    ∃ new, property.Takes object value new ∧ property.slot? written = some new
  kept : document.get? property.mappedName = none →
    property.slot? written = property.slot? object

theorem decoded?_of_takes (hentry : document.get? property.mappedName = some value)
    (h : property.Takes object value new) : decoded? document object property = some new := by
  obtain ⟨adapted, old, hadapt, hslot, hwrite⟩ := h
  simp [decoded?, hentry, hadapt, hslot, Slot.write_eq_ok_iff.1 hwrite, Except.toOption]

theorem decoded?_of_get?_eq_none (h : document.get? property.mappedName = none) :
    decoded? document object property = none := by
  simp [decoded?, h]

theorem fits_decoded? (document : Document) (object : Instance)
    (property : PropertyDescriptor) : property.Fits (decoded? document object) object := by
  intro new hnew
  obtain ⟨value, -, hnew⟩ := Option.bind_eq_some_iff.1 hnew
  obtain ⟨adapted, -, hnew⟩ := Option.bind_eq_some_iff.1 hnew
  obtain ⟨old, hold, hnew⟩ := Option.bind_eq_some_iff.1 hnew
  have hread := Except.toOption_eq_some_iff.1 hnew
  exact ⟨old, hold, Slot.type_of_write (Slot.write_eq_ok_iff.2 hread)⟩

end PropertyDescriptor

namespace EntityModel

open PropertyDescriptor

variable {document : Document} {source object : Instance} {property : PropertyDescriptor}
  {properties first rest : List PropertyDescriptor}

/-- A property whose slot is still that of the source is read from a document as from there. -/
theorem decodeProperties_cons (isField : property.accessor.IsField property.name)
    (hsame : property.slot? object = property.slot? source)
    (accepts : property.Accepts document source) (rest : List PropertyDescriptor) :
    decodeProperties document (property :: rest) object =
      decodeProperties document rest (fill (decoded? document source) object property) := by
  rw [decodeProperties, fill]
  cases hentry : document.get? property.mappedName with
  | none => rw [decoded?_of_get?_eq_none hentry]
  | some value =>
      obtain ⟨new, takes⟩ := accepts value hentry
      rw [decoded?_of_takes hentry takes]
      simp only [write_of_takes isField ((Takes.congr hsame).2 takes)]

/-- Properties that all take their values are read in turn, each as from the source. -/
theorem decodeProperties_append
    (isField : ∀ property ∈ first, property.accessor.IsField property.name)
    (hnames : (first.map (·.name)).Nodup)
    (hsame : ∀ property ∈ first, property.slot? object = property.slot? source)
    (accepts : ∀ property ∈ first, property.Accepts document source)
    (rest : List PropertyDescriptor) :
    decodeProperties document (first ++ rest) object =
      decodeProperties document rest (first.foldl (fill (decoded? document source)) object) := by
  induction first generalizing object with
  | nil => rfl
  | cons property others ih =>
      rw [List.map_cons, List.nodup_cons] at hnames
      rw [List.forall_mem_cons] at isField hsame accepts
      rw [List.cons_append, decodeProperties_cons isField.1 hsame.1 accepts.1,
        List.foldl_cons]
      refine ih isField.2 hnames.2 (fun later hlater => ?_) accepts.2
      -- Filling a slot is not seen under the names of the properties to come.
      have hne : property.name ≠ later.name := fun heq =>
        hnames.1 (heq ▸ List.mem_map_of_mem hlater)
      exact (slot?_fill_of_ne hne).trans (hsame.2 later hlater)

theorem decodeProperties_of_refuses (isField : property.accessor.IsField property.name)
    {value : Bson} (hentry : document.get? property.mappedName = some value)
    {cause : MappingError} (refuses : property.Refuses object value cause)
    (rest : List PropertyDescriptor) :
    decodeProperties document (property :: rest) object =
      (object, .error (.mapping property.fullName cause)) := by
  simp only [decodeProperties, hentry, write_of_refuses isField refuses]

/-- If not all properties accept a document, there is a first one that does not. -/
theorem exists_first_refusal (document : Document) (object : Instance)
    (properties : List PropertyDescriptor) :
    (∀ property ∈ properties, property.Accepts document object) ∨
      ∃ before property after value cause, properties = before ++ property :: after ∧
        (∀ earlier ∈ before, earlier.Accepts document object) ∧
        document.get? property.mappedName = some value ∧
        property.Refuses object value cause := by
  induction properties with
  | nil => exact .inl (List.forall_mem_nil _)
  | cons property rest ih =>
      by_cases accepts : property.Accepts document object
      · rcases ih with hall | ⟨before, later, after, value, cause, rfl, hbefore, hlater⟩
        · exact .inl (List.forall_mem_cons.2 ⟨accepts, hall⟩)
        · exact .inr ⟨property :: before, later, after, value, cause, rfl,
            List.forall_mem_cons.2 ⟨accepts, hbefore⟩, hlater⟩
      · obtain ⟨value, hrefused⟩ := not_forall.1 accepts
        obtain ⟨hentry, hnone⟩ := Classical.not_imp.1 hrefused
        obtain ⟨cause, refuses⟩ :=
          (takes_or_refuses property object value).resolve_left hnone
        exact .inr ⟨[], property, rest, value, cause, rfl, List.forall_mem_nil _, hentry, refuses⟩

theorem written_of_accepts (hnames : (properties.map (·.name)).Nodup)
    (hproperty : property ∈ properties) (accepts : property.Accepts document object) :
    property.Written document object
      (properties.foldl (fill (decoded? document object)) object) := by
  have hslot := slot?_foldl_fill hnames hproperty (fits_decoded? document object property)
  constructor
  · intro value hentry
    obtain ⟨new, takes⟩ := accepts value hentry
    rw [decoded?_of_takes hentry takes, Option.some_or] at hslot
    exact ⟨new, takes, hslot⟩
  · intro hentry
    rw [hslot, decoded?_of_get?_eq_none hentry, Option.none_or]

/-- Reading leaves the new slots of the properties before the first that does not accept the
document, which are all if none does. -/
theorem decodeProperties_outcome
    (isField : ∀ property ∈ properties, property.accessor.IsField property.name)
    (hnames : (properties.map (·.name)).Nodup) (document : Document) (object : Instance) :
    ((∀ property ∈ properties, property.Accepts document object) ∧
      decodeProperties document properties object =
        (properties.foldl (fill (decoded? document object)) object, .ok ())) ∨
    ∃ before property after value cause, properties = before ++ property :: after ∧
      (∀ earlier ∈ before, earlier.Accepts document object) ∧
      document.get? property.mappedName = some value ∧ property.Refuses object value cause ∧
      decodeProperties document properties object =
        (before.foldl (fill (decoded? document object)) object,
          .error (.mapping property.fullName cause)) := by
  rcases exists_first_refusal document object properties with
    hall | ⟨before, property, after, value, cause, rfl, hbefore, hentry, refuses⟩
  · have hread := decodeProperties_append isField hnames (fun _ _ => rfl) hall []
    rw [List.append_nil] at hread
    exact .inl ⟨hall, hread⟩
  · refine .inr ⟨before, property, after, value, cause, rfl, hbefore, hentry, refuses, ?_⟩
    rw [List.forall_mem_append, List.forall_mem_cons] at isField
    obtain ⟨hnodup, hnew⟩ := nodup_before hnames
    have hlayout : (before.foldl (fill (decoded? document object)) object).layout =
        object.layout :=
      layout_foldl_fill fun earlier _ => fits_decoded? document object earlier
    have hparts : object.parts.length =
        (before.foldl (fill (decoded? document object)) object).parts.length := by
      simpa [Instance.layout] using (congrArg List.length hlayout).symm
    rw [decodeProperties_append isField.1 hnodup (fun _ _ => rfl) hbefore,
      decodeProperties_of_refuses isField.2.1 hentry
        (refuses.congr (slot?_foldl_fill_of_notMem (hnew _ List.mem_cons_self)).symm hparts)]

/-- What is none of the properties' stays as it is when some of them are filled. -/
theorem frame_foldl_fill (hsubset : first ⊆ properties) (document : Document)
    (object : Instance) :
    let filled := first.foldl (fill (decoded? document object)) object
    (∀ depth place, (∀ property ∈ properties, ¬property.Owns object depth place) →
      filled.slotAt? depth place = object.slotAt? depth place) ∧
    filled.layout = object.layout ∧ filled.bare = object.bare := by
  have fits : ∀ property ∈ first, property.Fits (decoded? document object) object :=
    fun property _ => fits_decoded? document object property
  refine ⟨fun depth place hplace => slotAt?_foldl_fill fits ?_, layout_foldl_fill fits,
    bare_foldl_fill ..⟩
  exact fun property hproperty hdepth hfound =>
    hplace property (hsubset hproperty) ⟨hdepth, hfound⟩

end EntityModel

/-- Let the properties of a model be those of fields, and read a document into an instance of any
layout.  That succeeds exactly if every property takes the value that the document has for it, and
then each has taken it.  Otherwise the error is that of the first property that refuses its value,
with what is wrong: the properties before it have taken theirs, and it and those after it have the
slots that they had.  In either case nothing that is no property's has changed. -/
theorem Mapper.decodeInto_outcome {mapper : Mapper} (finds : mapper.FindsFields)
    {earlier : List TypeKey} {key : TypeKey} {model : EntityModel}
    (hmodel : mapper.answerAfter earlier key = .ok (some model)) (document : Document)
    (object : Instance) :
    let (written, outcome) := model.decodeInto document object
    (outcome = .ok () ↔ ∀ property ∈ model.properties, property.Accepts document object) ∧
    (outcome = .ok () → ∀ property ∈ model.properties,
      property.Written document object written) ∧
    (∀ error, outcome = .error error →
      ∃ before property after value cause, model.properties = before ++ property :: after ∧
        document.get? property.mappedName = some value ∧ property.Refuses object value cause ∧
        error = .mapping property.fullName cause ∧
        (∀ earlier ∈ before, earlier.Written document object written) ∧
        ∀ later ∈ property :: after, later.slot? written = later.slot? object) ∧
    (∀ depth place, (∀ property ∈ model.properties, ¬property.Owns object depth place) →
      written.slotAt? depth place = object.slotAt? depth place) ∧
    written.layout = object.layout ∧ written.bare = object.bare := by
  have fromFields := fromFields_of_makes finds (makes_of_answerAfter hmodel)
  have hnames := fromFields.names
  rcases EntityModel.decodeProperties_outcome
    (fun property hproperty => (fromFields.property property hproperty).isField)
    hnames document object with
    ⟨hall, hread⟩ | ⟨before, property, after, value, cause, hsplit, hbefore, hentry, refuses, hread⟩
  · rw [EntityModel.decodeInto, hread]
    refine ⟨⟨fun _ => hall, fun _ => rfl⟩, fun _ property hproperty =>
      EntityModel.written_of_accepts hnames hproperty (hall property hproperty),
      fun error herror => ?_,
      EntityModel.frame_foldl_fill (List.Subset.refl _) document object⟩
    cases herror
  · have hmem : property ∈ model.properties := by simp [hsplit]
    have hsubset : before ⊆ model.properties := fun earlier hearlier => by simp [hsplit, hearlier]
    rw [EntityModel.decodeInto, hread]
    refine ⟨⟨fun hok => ?_, fun hall => ?_⟩, fun hok => ?_, fun error herror => ?_,
      EntityModel.frame_foldl_fill hsubset document object⟩
    · cases hok
    · obtain ⟨new, takes⟩ := hall property hmem value hentry
      exact absurd takes refuses.not_takes
    · cases hok
    · cases herror
      obtain ⟨hnodup, hnew⟩ := EntityModel.nodup_before (hsplit ▸ hnames)
      exact ⟨before, property, after, value, cause, hsplit, hentry, refuses, rfl,
        fun earlier hearlier => EntityModel.written_of_accepts hnodup hearlier
          (hbefore earlier hearlier), fun later hlater =>
        PropertyDescriptor.slot?_foldl_fill_of_notMem (hnew later hlater)⟩

end

def Declarations.saving : Declarations :=
  .ofList [
    { name := "Account", fields := [
      { name := "number", type := "i64", metadata := ⟨[.id]⟩ },
      { name := "deposits", type := "[i16]" },
      { name := "note", type := "String" }] },
    { name := "Savings", superclass := some "Account", fields := [
      { name := "rate", type := "f64", metadata := ⟨[.property (some "interest")]⟩ }] }]

def Instance.savings (rate : Double) (number : Int64) (deposits : List Int16)
    (note : Option String) : Instance :=
  ⟨[{ fields := [("rate", ⟨.double, rate⟩), ("draft", ⟨.string, note.getD "none"⟩)] },
    { fields := [("number", ⟨.int64, number⟩), ("deposits", ⟨.list .int16, deposits⟩),
        ("note", ⟨.option .string, note⟩)] }]⟩

/-- A document with an array of which the second element is no number is read into savings: the
number is taken, and everything from the deposits on stays. -/
theorem Declarations.decodeInto_outcome_savings :
    let mapper := Mapper.standard ⟨saving.schema, {}⟩
    let object := Instance.savings ⟨0⟩ 0 [] (some "kept")
    let document : Document := [("interest", .double ⟨4612811918334230528⟩), ("_id", .int32 7),
      ("deposits", .array [.int32 3, .string "four"]), ("note", .string "new")]
    mapper.FindsFields ∧ ∃ model, mapper.answerAfter [] ⟨26⟩ = .ok (some model) ∧
      (∀ property ∈ model.properties, ¬property.Owns object 0 1) ∧
      ∃ written, model.decodeInto document object =
          (written, .error (.mapping "Savings.deposits"
            (.unexpected "Int32 element" (.string "four")))) ∧
        (∃ before property after, model.properties = before ++ property :: after ∧
          property.fullName = "Savings.deposits" ∧
          (∀ earlier ∈ before, earlier.Written document object written) ∧
          ∀ later ∈ property :: after, later.slot? written = later.slot? object) ∧
        written.slotAt? 0 1 = object.slotAt? 0 1 := by
  intro mapper object document
  have hfinds : mapper.FindsFields := Mapper.findsFields_standard rfl
  have hmodel : (mapper.answerAfter [] ⟨26⟩).toOption.join.any fun model =>
      (∀ property ∈ model.properties,
        ¬(property.accessor.depth = 0 ∧ object.place? 0 property.name = some 1)) ∧
      (model.decodeInto document object).2 = .error (.mapping "Savings.deposits"
        (.unexpected "Int32 element" (.string "four"))) := by
    decide +kernel
  obtain ⟨model, hmodel, hchecks⟩ := ModelAnswer.exists_of_any hmodel
  obtain ⟨hunowned, hfailed⟩ := of_decide_eq_true hchecks
  have houtcome := Mapper.decodeInto_outcome hfinds hmodel document object
  cases hread : model.decodeInto document object with
  | mk written outcome =>
    rw [hread] at hfailed houtcome
    obtain ⟨-, -, hstops, hkeeps, -⟩ := houtcome
    obtain ⟨before, property, after, value, cause, hsplit, -, -, herror, hbefore, hafter⟩ :=
      hstops _ hfailed
    exact ⟨hfinds, model, hmodel, hunowned, written, hfailed ▸ hread,
      ⟨before, property, after, hsplit, (MappingError.mapping.inj herror).1.symm, hbefore, hafter⟩,
      hkeeps 0 1 hunowned⟩

end ObjectDocument
