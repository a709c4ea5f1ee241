import ObjectDocument.Proofs.Accessor.Elements
import ObjectDocument.Proofs.Codec.Decoding
import ObjectDocument.Proofs.Codec.Keys

/-!
# Decoding what was encoded

A property that was found from a field shows the slot of its name.  Encoding puts what the slot
holds under the mapped name of the property, and a slot of the same type takes that and holds what
is written the same.  So every property accepts the document, and the target then shows the values
of the source in the slots of which a value was stored, and is else what it was
(`Mapper.decodeInto_encode`).
-/

namespace ObjectDocument

section

variable [ValueTypes]

/-! ### What slots hold -/

namespace Instance

/-- Every slot holds what was read from a document value. -/
def WasRead (object : Instance) : Prop :=
  ∀ part ∈ object.parts, ∀ entry ∈ part.fields, entry.2.WasRead

theorem WasRead.slot {object : Instance} (h : object.WasRead) {depth : Nat} {name : String}
    {slot : Slot} (hslot : object.slot? depth name = some slot) : slot.WasRead := by
  obtain ⟨part, hpart, hslot⟩ := slot?_eq_some_iff.1 hslot
  obtain ⟨first, last, hfields, -⟩ := List.lookup_eq_some_iff.1 hslot
  exact h part (List.mem_of_getElem? hpart) (name, slot) (by simp [hfields])

end Instance

/-! ### Properties that show slots -/

namespace PropertyDescriptor

/-- If the property is an array, its slot holds an array of its elements. -/
def HoldsArray (property : PropertyDescriptor) (object : Instance) : Prop :=
  property.isArray → ∀ slot ∈ property.slot? object, slot.type.HoldsArray property.normalizedType

instance (property : PropertyDescriptor) (object : Instance) :
    Decidable (property.HoldsArray object) :=
  inferInstanceAs (Decidable (_ → ∀ _ ∈ _, _))

variable {property : PropertyDescriptor} {schema : Schema} {source object other : Instance}
  {slot : Slot} {value : Bson}

theorem read_eq_ok_iff :
    property.read object = .ok value ↔ property.accessor.get object = .ok value := by
  rw [read]
  cases property.accessor.get object <;> simp [Except.mapError]

theorem FromField.read_congr (h : property.FromField schema)
    (hslot : property.slot? object = property.slot? other)
    (hparts : object.parts.length = other.parts.length) :
    property.read object = property.read other := by
  rw [read, read, h.isField.get_congr hslot hparts]

theorem FromField.adapt_read (h : property.FromField schema) (harray : property.HoldsArray source)
    (hslot : property.slot? source = some slot) {other : Slot} (htype : other.type = slot.type)
    (hread : other.read = .ok value) : property.accessor.adapt value = .ok value := by
  cases haccessor : property.accessor with
  | field => rfl
  | method => rfl
  | array name depth element =>
      obtain ⟨hisArray, component, hcomponent, rfl⟩ := h.array haccessor
      have hholds := harray hisArray slot hslot
      rw [← hcomponent, ← htype] at hholds
      exact ElementKind.coerceArray_toBson hholds hread

theorem FromField.read_eq (h : property.FromField schema) (harray : property.HoldsArray source)
    (hslot : property.slot? source = some slot) {other : Slot} (htype : other.type = slot.type)
    (hread : other.read = .ok value) (hother : property.slot? object = some other) :
    property.read object = .ok value := by
  rw [read_eq_ok_iff, h.isField.get_eq hother, hread]
  exact h.adapt_read harray hslot htype hread

/-- What a property reads from one instance, the slot of another takes, and then the property reads
it there. -/
theorem FromField.exists_takes [LawfulValueTypes] (h : property.FromField schema)
    (harray : property.HoldsArray source) (hread : source.WasRead)
    (hlayout : source.layout = object.layout) (hvalue : property.read source = .ok value) :
    ∃ new, property.Takes object value new ∧
      ∀ {written : Instance}, property.slot? written = some new →
        property.read written = .ok value := by
  obtain ⟨slot, hslot⟩ := h.isField.exists_slot (read_eq_ok_iff.1 hvalue)
  obtain ⟨held, again, hheld, hagain, halike, -⟩ := (hread.slot hslot).exists_again
  obtain rfl : held = value :=
    Except.ok.inj ((h.read_eq harray hslot rfl hheld hslot).symm.trans hvalue)
  obtain ⟨other, hother, htype⟩ := exists_slot_of_layout hlayout hslot
  exact ⟨again, ⟨held, other, h.adapt_read harray hslot rfl hheld, hother, hagain other htype⟩,
    fun hwritten => h.read_eq harray hslot halike.type_eq (halike.read_eq ▸ hheld) hwritten⟩

end PropertyDescriptor

/-! ### What a document says -/

namespace EntityModel

variable {model : EntityModel} {settings : Settings} {object : Instance}
  {properties : List PropertyDescriptor} {property : PropertyDescriptor} {document : Document}

theorem get?_storedEntries {entries : Document}
    (hnames : (properties.map (·.mappedName)).Nodup)
    (h : storedEntries settings object properties = .ok entries) :
    (∀ key ∈ entries.map (·.1), key ∈ properties.map (·.mappedName)) ∧
      ∀ property ∈ properties, ∃ value, property.read object = .ok value ∧
        entries.get? property.mappedName = if stores settings value then some value else none := by
  induction properties generalizing entries with
  | nil =>
      cases h
      simp
  | cons property rest ih =>
      rw [List.map_cons, List.nodup_cons] at hnames
      obtain ⟨value, hvalue, h⟩ := Except.bind_eq_ok_iff.1 h
      obtain ⟨others, hothers, h⟩ := Except.bind_eq_ok_iff.1 h
      obtain ⟨hkeys, hentries⟩ := ih hnames.2 hothers
      have hnew : property.mappedName ∉ others.map (·.1) := fun hkey => hnames.1 (hkeys _ hkey)
      by_cases hstores : stores settings value
      · rw [if_pos hstores] at h
        cases h
        refine ⟨fun key hkey => ?_, fun other hother => ?_⟩
        · exact (List.mem_cons.1 hkey).elim (fun heq => heq ▸ List.mem_cons_self) fun hkey =>
            List.mem_cons_of_mem _ (hkeys key hkey)
        · rcases List.mem_cons.1 hother with rfl | hother
          · exact ⟨value, hvalue, by rw [OrderedMap.get?, if_pos rfl, if_pos hstores]⟩
          · have hne : property.mappedName ≠ other.mappedName := fun heq =>
              hnames.1 (heq ▸ List.mem_map_of_mem hother)
            rw [OrderedMap.get?, if_neg hne]
            exact hentries other hother
      · rw [if_neg hstores] at h
        cases h
        refine ⟨fun key hkey => List.mem_cons_of_mem _ (hkeys key hkey), fun other hother => ?_⟩
        rcases List.mem_cons.1 hother with rfl | hother
        · exact ⟨value, hvalue, by rw [OrderedMap.get?_eq_none_iff.2 hnew, if_neg hstores]⟩
        · exact hentries other hother

/-- Where the keys of documents differ, an encoded document says of each property whether its value
is stored, and which it is. -/
theorem KeysDiffer.get?_encode (differ : model.KeysDiffer)
    (h : model.encode settings object = .ok document) (hproperty : property ∈ model.properties) :
    ∃ value, property.read object = .ok value ∧
      document.get? property.mappedName = if stores settings value then some value else none := by
  have hnodup := differ.nodup_documentKeys
  rw [encode_eq, encodeProperties_of_nodup hnodup] at h
  obtain ⟨entries, hentries, rfl⟩ := Except.map_eq_ok_iff.1 h
  have hkey : property.mappedName ∉ model.discriminatorEntries.map (·.1) := fun hkey =>
    List.disjoint_of_nodup_append hnodup hkey (List.mem_map_of_mem hproperty)
  rw [OrderedMap.get?_append_of_notMem hkey]
  exact (get?_storedEntries differ.1 hentries).2 property hproperty

end EntityModel

/-- Decoding undoes encoding.  Let the properties of a model be those of fields and the keys of its
documents differ, and let two instances have the same layout.  What is encoded of one is decoded
into the other: each property then has the value of the source if it was stored and what it had
before if it was not, and nothing that is no property's has changed. -/
theorem Mapper.decodeInto_encode [LawfulValueTypes] {mapper : Mapper} (finds : mapper.FindsFields)
    {earlier : List TypeKey} {key : TypeKey} {model : EntityModel}
    (hmodel : mapper.answerAfter earlier key = .ok (some model)) (differ : model.KeysDiffer)
    (settings : Settings) {source target : Instance} (hlayout : source.layout = target.layout)
    (hread : source.WasRead) (harrays : ∀ property ∈ model.properties, property.HoldsArray source)
    {document : Document} (hencode : model.encode settings source = .ok document) :
    ∃ written, model.decodeInto document target = (written, .ok ()) ∧
      (∀ property ∈ model.properties, ∃ value, property.read source = .ok value ∧
        property.read written =
          if EntityModel.stores settings value then .ok value else property.read target) ∧
      (∀ depth place, (∀ property ∈ model.properties, ¬property.Owns target depth place) →
        written.slotAt? depth place = target.slotAt? depth place) ∧
      written.layout = target.layout ∧ written.bare = target.bare := by
  have fromFields := fromFields_of_makes finds (makes_of_answerAfter hmodel)
  have accepts : ∀ property ∈ model.properties, property.Accepts document target := by
    intro property hproperty value hentry
    obtain ⟨held, hheld, hstored⟩ := differ.get?_encode hencode hproperty
    by_cases hstores : EntityModel.stores settings held
    · rw [if_pos hstores, hentry] at hstored
      obtain rfl : value = held := Option.some.inj hstored
      obtain ⟨new, takes, -⟩ := (fromFields.property property hproperty).exists_takes
        (harrays property hproperty) hread hlayout hheld
      exact ⟨new, takes⟩
    · rw [if_neg hstores, hentry] at hstored
      cases hstored
  have hdecode := EntityModel.decodeProperties_append
    (fun property hproperty => (fromFields.property property hproperty).isField)
    fromFields.names (fun _ _ => rfl) accepts []
  rw [List.append_nil] at hdecode
  obtain ⟨hplaces, hsame, hbare⟩ :=
    EntityModel.frame_foldl_fill (List.Subset.refl model.properties) document target
  refine ⟨_, hdecode, fun property hproperty => ?_, hplaces, hsame, hbare⟩
  have fromField := fromFields.property property hproperty
  have hwritten :=
    EntityModel.written_of_accepts fromFields.names hproperty (accepts property hproperty)
  obtain ⟨value, hvalue, hstored⟩ := differ.get?_encode hencode hproperty
  refine ⟨value, hvalue, ?_⟩
  by_cases hstores : EntityModel.stores settings value
  · rw [if_pos hstores] at hstored ⊢
    obtain ⟨new, takes, hreads⟩ :=
      fromField.exists_takes (harrays property hproperty) hread hlayout hvalue
    obtain ⟨found, htaken, hfound⟩ := hwritten.taken value hstored
    obtain rfl : found = new := takes.unique htaken
    exact hreads hfound
  · rw [if_neg hstores] at hstored ⊢
    refine fromField.read_congr (hwritten.kept hstored) ?_
    simpa [Instance.layout] using congrArg List.length hsame

end

/-- What is encoded of an instance without a note is decoded into one with a note, which keeps
it. -/
theorem Declarations.decodeInto_encode_savings :
    let mapper := Mapper.standard ⟨saving.schema, {}⟩
    let source := Instance.savings ⟨4612811918334230528⟩ 7 [3, -1] none
    let target := Instance.savings ⟨0⟩ 0 [] (some "kept")
    mapper.FindsFields ∧ source.layout = target.layout ∧ source.WasRead ∧
      ∃ model document written, mapper.answerAfter [] ⟨26⟩ = .ok (some model) ∧
        model.KeysDiffer ∧ (∀ property ∈ model.properties, property.HoldsArray source) ∧
        model.encode {} source = .ok document ∧
        model.decodeInto document target = (written, .ok ()) ∧
        ∀ property ∈ model.properties, ∃ value, property.read source = .ok value ∧
          property.read written =
            if EntityModel.stores {} value then .ok value else property.read target := by
  intro mapper source target
  have hfinds : mapper.FindsFields := Mapper.findsFields_standard rfl
  have hlayout : source.layout = target.layout := rfl
  have hread : source.WasRead := by
    intro part hpart entry hentry
    simp only [source, Instance.savings, List.mem_cons, List.not_mem_nil, or_false] at hpart
    rcases hpart with rfl | rfl
    · simp only [List.mem_cons, List.not_mem_nil, or_false] at hentry
      rcases hentry with rfl | rfl
      · exact ⟨.double ⟨4612811918334230528⟩, rfl⟩
      · exact ⟨.string "none", rfl⟩
    · simp only [List.mem_cons, List.not_mem_nil, or_false] at hentry
      rcases hentry with rfl | rfl | rfl
      · exact ⟨.int64 7, rfl⟩
      · exact ⟨.array [.int32 3, .int32 (-1)], rfl⟩
      · exact ⟨.null, rfl⟩
  have hmodel : (mapper.answerAfter [] ⟨26⟩).toOption.join.any fun model =>
      model.KeysDiffer ∧ (∀ property ∈ model.properties, property.HoldsArray source) ∧
        (model.encode {} source).toOption.isSome := by
    decide +kernel
  obtain ⟨model, hmodel, hchecks⟩ := ModelAnswer.exists_of_any hmodel
  obtain ⟨differ, harrays, hencodes⟩ := of_decide_eq_true hchecks
  cases hencode : model.encode {} source with
  | error cause =>
      rw [hencode] at hencodes
      cases hencodes
  | ok document =>
      obtain ⟨written, hdecode, hproperties, -⟩ :=
        Mapper.decodeInto_encode hfinds hmodel differ {} hlayout hread harrays hencode
      exact ⟨hfinds, hlayout, hread, model, document, written, hmodel, differ, harrays, hencode,
        hdecode, hproperties⟩

end ObjectDocument
