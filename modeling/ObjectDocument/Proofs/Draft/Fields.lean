import ObjectDocument.Proofs.Accessor.Fields
import ObjectDocument.Proofs.Draft.Names
import ObjectDocument.Proofs.Mapper.Completed

/-!
# Properties found from fields

A property that was found from a field is read from and written to the field of its name, and its
elements have the representation of its element type, whatever other settings a mapper has
(`Mapper.fromFields_of_makes`).
-/

namespace ObjectDocument

theorem DeclaredField.accessor_cases (schema : Schema) (depth : Nat) (type : TypeDescriptor)
    (name : String) :
    accessor schema depth type name = .field name depth ∨
      ∃ component, schema.componentOf? type.base = some component ∧
        accessor schema depth type name = .array name depth (schema.elementKind component) := by
  unfold accessor
  cases schema.componentOf? type.base with
  | none => exact .inl rfl
  | some component =>
      by_cases hbyte : schema.boxed component = .byte
      · exact .inl (if_pos hbyte)
      · exact .inr ⟨component, rfl, if_neg hbyte⟩

/-- The property reads and writes the field of its name, and as an array if it is one of anything
but bytes. -/
structure PropertyDescriptor.FromField (schema : Schema) (property : PropertyDescriptor) :
    Prop where
  isField : property.accessor.IsField property.name
  array : ∀ {field depth element}, property.accessor = .array field depth element →
    property.isArray ∧ ∃ component, schema.boxed component = property.normalizedType ∧
      element = schema.elementKind component

structure EntityModel.FromFields (schema : Schema) (model : EntityModel) : Prop where
  names : (model.properties.map (·.name)).Nodup
  property : ∀ property ∈ model.properties, property.FromField schema

namespace PropertyDraft

variable {draft : PropertyDraft} {schema : Schema} {owner : TypeKey} {entity : String}
  {property : PropertyDescriptor}

theorem finish_type (h : draft.finish schema owner entity = .ok property) :
    draft.type = some property.type ∧ draft.accessor = some property.accessor ∧
      property.normalizedType = property.type.normalized schema ∧
      property.isArray = schema.isArray property.type.base := by
  unfold finish at h
  obtain ⟨name, -, h⟩ := Except.bind_eq_ok_iff.1 h
  obtain ⟨mappedName, -, h⟩ := Except.bind_eq_ok_iff.1 h
  obtain ⟨type, htype, h⟩ := Except.bind_eq_ok_iff.1 h
  obtain ⟨accessor, haccessor, h⟩ := Except.bind_eq_ok_iff.1 h
  by_cases hempty : mappedName = ""
  · rw [if_pos hempty] at h
    cases h
  · rw [if_neg hempty] at h
    cases h
    exact ⟨require_eq_ok_iff.1 htype, require_eq_ok_iff.1 haccessor, rfl, rfl⟩

def FromField (schema : Schema) (draft : PropertyDraft) : Prop :=
  ∃ name type depth, draft.name = some name ∧ draft.type = some type ∧
    draft.accessor = some (DeclaredField.accessor schema depth type name)

theorem FromField.finish (h : draft.FromField schema)
    (hfinish : draft.finish schema owner entity = .ok property) : property.FromField schema := by
  obtain ⟨name, type, depth, hname, htype, haccessor⟩ := h
  obtain ⟨hname', -, -⟩ := finish_ok hfinish
  obtain ⟨htype', haccessor', hnormalized, hisArray⟩ := finish_type hfinish
  obtain rfl : name = property.name := Option.some.inj (hname.symm.trans hname')
  obtain rfl : type = property.type := Option.some.inj (htype.symm.trans htype')
  have haccessor : property.accessor = _ := Option.some.inj (haccessor'.symm.trans haccessor)
  rcases DeclaredField.accessor_cases schema depth property.type property.name with
    hfield | ⟨component, hcomponent, harray⟩
  · rw [hfield] at haccessor
    exact ⟨haccessor ▸ .field, fun harray => by rw [haccessor] at harray; cases harray⟩
  · rw [harray] at haccessor
    rw [Schema.isArray, hcomponent] at hisArray
    rw [TypeDescriptor.normalized, hcomponent] at hnormalized
    refine ⟨haccessor ▸ .array, fun harray => ?_⟩
    rw [haccessor] at harray
    cases harray
    exact ⟨hisArray, component, hnormalized.symm, rfl⟩

end PropertyDraft

theorem Lineage.fromField_of_mem_fieldDrafts {lineage : Lineage} {context : Context}
    {draft : PropertyDraft} (h : draft ∈ lineage.fieldDrafts context) :
    draft.FromField context.schema := by
  obtain ⟨level, -, h⟩ := List.mem_flatMap.1 h
  obtain ⟨field, -, rfl⟩ := List.mem_map.1 h
  exact ⟨_, _, _, rfl, rfl, rfl⟩

namespace ModelDraft

variable {draft : ModelDraft} {context : Context}

theorem properties_start {key : TypeKey} {exchange : Exchange}
    (h : (start context key).run.Yields exchange (.ok draft)) : draft.properties = [] := by
  -- The model of the superclass is asked for if there is one, and nothing else depends on that.
  have hlinked {node : TypeNode} {exchange : Exchange} {superclass : ConsultM (Option EntityModel)}
      (h : (superclass >>= fun superclass =>
        (Lineage.ofNode context.schema node).interfaces.mapM ConsultM.request >>= fun models =>
          pure (ofNode context.schema node superclass (models.filterMap id))).run.Yields exchange
        (.ok draft)) : draft.properties = [] := by
    rcases ConsultM.yields_bind_iff.1 h with ⟨_, _, _, rfl, -, h⟩ | ⟨_, _, hfailed⟩
    · rcases ConsultM.yields_bind_iff.1 h with ⟨_, _, _, rfl, -, h⟩ | ⟨_, _, hfailed⟩
      · obtain ⟨-, hdraft⟩ := ConsultM.yields_pure_iff.1 h
        rw [Except.ok.inj hdraft]
        rfl
      · cases hfailed
    · cases hfailed
  unfold start at h
  rcases ConsultM.yields_bind_iff.1 h with ⟨_, _, node, rfl, -, h⟩ | ⟨_, _, hfailed⟩
  · by_cases hmappable : context.schema.isMappable key
    · rw [if_pos hmappable] at h
      simp only at h
      split at h
      · exact hlinked h
      · exact hlinked h
    · rw [if_neg hmappable] at h
      rcases ConsultM.yields_bind_iff.1 h with ⟨_, _, _, rfl, hthrow, -⟩ | ⟨_, _, hfailed⟩
      · cases (ConsultM.yields_throw_iff.1 hthrow).2
      · cases hfailed
  · cases hfailed

def FromFields (schema : Schema) (draft : ModelDraft) : Prop :=
  ∀ property ∈ draft.properties, property.FromField schema

theorem FromFields.outcome (h : draft.FromFields context.schema) {model : EntityModel}
    (houtcome : draft.outcome context = .ok model) : model.FromFields context.schema := by
  obtain ⟨-, -, properties, hproperties, rfl⟩ := outcome_eq_ok_iff.1 houtcome
  obtain ⟨hdrafts, hnodup, -⟩ := finishProperties_ok hproperties
  refine ⟨hnodup, fun property hproperty => ?_⟩
  obtain ⟨found, hfound, hfinish⟩ := hdrafts property hproperty
  exact (h found hfound).finish hfinish

end ModelDraft

namespace Convention

/-- What holds of a draft, and is kept by passes that ask for nothing, holds after all of them. -/
theorem keeps_applyAll {context : Context} {holds : ModelDraft → Prop}
    {conventions : List Convention}
    (keeps : ∀ convention ∈ conventions, ∃ change, convention.Silent context change ∧
      ∀ draft, holds draft → holds (change draft))
    {draft : ModelDraft} (hdraft : holds draft) {exchange : Exchange}
    {outcome : Except MappingError Unit × ModelDraft}
    (h : ((applyAll context conventions).run.run draft).Yields exchange outcome) :
    holds outcome.2 := by
  induction conventions generalizing draft with
  | nil =>
      obtain ⟨-, rfl⟩ := DraftM.yields_pure_iff.1 h
      exact hdraft
  | cons convention rest ih =>
      obtain ⟨change, silent, hchange⟩ := keeps convention List.mem_cons_self
      exact ih (fun other hother => keeps other (List.mem_cons_of_mem _ hother))
        (hchange draft hdraft) (yields_applyAll_cons silent h)

theorem keeps_fromFields_fieldDiscovery (context : Context) :
    ∃ change, fieldDiscovery.Silent context change ∧
      ∀ draft, draft.FromFields context.schema → (change draft).FromFields context.schema := by
  refine ⟨_, silent_fieldDiscovery context, fun draft h property hproperty => ?_⟩
  rcases List.mem_append.1 hproperty with hproperty | hproperty
  · exact h property hproperty
  · exact Lineage.fromField_of_mem_fieldDrafts hproperty

theorem keeps_fromFields_entityDefaults (context : Context) :
    ∃ change, entityDefaults.Silent context change ∧
      ∀ draft, draft.FromFields context.schema → (change draft).FromFields context.schema :=
  ⟨_, silent_entityDefaults context, fun _ h property hproperty =>
    h property (List.mem_of_mem_filter hproperty)⟩

end Convention

namespace Mapper

variable {mapper : Mapper} {model : EntityModel}

/-- The mapper finds properties from fields, and nothing changes them but to drop some. -/
def FindsFields (mapper : Mapper) : Prop :=
  ∀ convention ∈ mapper.options.conventions,
    convention = .fieldDiscovery ∨ convention = .entityDefaults

theorem findsFields_standard {context : Context}
    (h : context.settings.propertyDiscovery = .fields) : (Mapper.standard context).FindsFields := by
  intro convention hconvention
  have hstandard : convention ∈ Convention.standard context.settings.propertyDiscovery :=
    hconvention
  rw [h] at hstandard
  simpa [Convention.standard] using hstandard

/-- The properties of every model of a mapper that finds fields are those of fields. -/
theorem fromFields_of_makes (finds : mapper.FindsFields) (h : mapper.Makes model) :
    model.FromFields mapper.schema := by
  obtain ⟨key, begins, draft, exchange, made, hstart, hcomplete, hmodel⟩ := h
  have hempty : draft.FromFields mapper.schema := fun property hproperty => by
    rw [ModelDraft.properties_start hstart] at hproperty
    cases hproperty
  have keeps : ∀ convention ∈ mapper.options.conventions,
      ∃ change, convention.Silent mapper.context change ∧ ∀ draft,
        draft.FromFields mapper.schema → (change draft).FromFields mapper.schema := by
    intro convention hconvention
    rcases finds convention hconvention with rfl | rfl
    · exact Convention.keeps_fromFields_fieldDiscovery mapper.context
    · exact Convention.keeps_fromFields_entityDefaults mapper.context
  rw [complete] at hcomplete
  rcases ConsultM.yields_bind_iff.1 hcomplete with ⟨_, _, ⟨outcome, settled⟩, rfl, happly, h⟩ |
    ⟨_, _, hfailed⟩
  · obtain ⟨_, happly, hvalue⟩ := ConsultM.yields_lift_iff.1 happly
    cases hvalue
    have hsettled : settled.FromFields mapper.schema :=
      Convention.keeps_applyAll keeps hempty happly
    cases outcome with
    | error cause => cases (ConsultM.yields_throw_iff.1 h).2
    | ok =>
        have hmade := hsettled.outcome (ModelDraft.yields_finish h).2.symm
        rw [hmodel]
        exact ⟨hmade.names, hmade.property⟩
  · cases hfailed

end Mapper

end ObjectDocument
