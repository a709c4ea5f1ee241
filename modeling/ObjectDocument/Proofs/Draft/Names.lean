import ObjectDocument.Proofs.Draft.Outline

/-!
# Names of the properties of a model

The logical names of a model differ, or it is not made.  The mapped names are the ones that
`PropertyDraft.mappedNameOf` gives, and nothing keeps two of them from being the same, or one of
them from being the key of the discriminator.
-/

namespace ObjectDocument

namespace PropertyDraft

variable {draft : PropertyDraft} {schema : Schema} {owner : TypeKey} {entity : String}
  {property : PropertyDescriptor}

theorem require_eq_ok_iff {α : Type} {part : PropertyPart} {given : Option α} {a : α} :
    draft.require entity part given = .ok a ↔ given = some a := by
  cases given <;> simp [require]

theorem finish_ok (h : draft.finish schema owner entity = .ok property) :
    draft.name = some property.name ∧ draft.mappedName = some property.mappedName ∧
      draft.metadata = property.metadata := by
  unfold finish at h
  obtain ⟨name, hname, h⟩ := Except.bind_eq_ok_iff.1 h
  obtain ⟨mappedName, hmapped, h⟩ := Except.bind_eq_ok_iff.1 h
  obtain ⟨type, -, h⟩ := Except.bind_eq_ok_iff.1 h
  obtain ⟨accessor, -, h⟩ := Except.bind_eq_ok_iff.1 h
  by_cases hempty : mappedName = ""
  · rw [if_pos hempty] at h
    cases h
  · rw [if_neg hempty] at h
    cases h
    exact ⟨require_eq_ok_iff.1 hname, require_eq_ok_iff.1 hmapped, rfl⟩

end PropertyDraft

/-- Properties are found with the mapped names that the settings give. -/
theorem Lineage.mappedName_of_mem_drafts {lineage : Lineage} {context : Context}
    {draft : PropertyDraft} (h : draft ∈ lineage.drafts context) :
    draft.mappedName = draft.name.map fun name =>
      PropertyDraft.mappedNameOf context.settings name draft.metadata := by
  unfold drafts at h
  cases hdiscovery : context.settings.propertyDiscovery with
  | fields =>
      rw [hdiscovery] at h
      obtain ⟨level, -, h⟩ := List.mem_flatMap.1 h
      obtain ⟨field, -, rfl⟩ := List.mem_map.1 h
      rfl
  | methods =>
      rw [hdiscovery] at h
      obtain ⟨⟨place, name, group⟩, -, h⟩ := List.mem_filterMap.1 h
      obtain ⟨⟨getter, setter⟩, -, h⟩ := Option.bind_eq_some_iff.1 h
      obtain ⟨declared, -, rfl⟩ := Option.map_eq_some_iff.1 h
      rfl

namespace ModelDraft

theorem finishProperties_cons_eq_ok_iff {context : Context} {owner : TypeKey} {entity : String}
    {names : List String} {draft : PropertyDraft} {rest : List PropertyDraft}
    {properties : List PropertyDescriptor} :
    finishProperties context owner entity names (draft :: rest) = .ok properties ↔
      ∃ property others, draft.finish context.schema owner entity = .ok property ∧
        property.name ∉ names ∧
        finishProperties context owner entity (property.name :: names) rest = .ok others ∧
        properties = property :: others := by
  rw [finishProperties, Except.bind_eq_ok_iff]
  constructor
  · rintro ⟨property, hproperty, h⟩
    by_cases hrepeated : property.name ∈ names
    · rw [if_pos hrepeated] at h
      cases h
    · rw [if_neg hrepeated] at h
      obtain ⟨others, hothers, h⟩ := Except.bind_eq_ok_iff.1 h
      cases h
      exact ⟨property, others, hproperty, hrepeated, hothers, rfl⟩
  · rintro ⟨property, others, hproperty, hrepeated, hothers, rfl⟩
    refine ⟨property, hproperty, ?_⟩
    rw [if_neg hrepeated]
    exact Except.bind_eq_ok_iff.2 ⟨others, hothers, rfl⟩

theorem finishProperties_ok {context : Context} {owner : TypeKey} {entity : String}
    {names : List String} {drafts : List PropertyDraft} {properties : List PropertyDescriptor}
    (h : finishProperties context owner entity names drafts = .ok properties) :
    (∀ property ∈ properties, ∃ draft ∈ drafts,
      draft.finish context.schema owner entity = .ok property) ∧
      (properties.map (·.name)).Nodup ∧ ∀ property ∈ properties, property.name ∉ names := by
  induction drafts generalizing names properties with
  | nil =>
      cases h
      simp
  | cons draft rest ih =>
      obtain ⟨property, others, hproperty, hrepeated, hothers, rfl⟩ :=
        finishProperties_cons_eq_ok_iff.1 h
      obtain ⟨hdrafts, hnodup, hnames⟩ := ih hothers
      refine ⟨fun other hother => ?_, ?_, fun other hother => ?_⟩
      · rcases List.mem_cons.1 hother with rfl | hother
        · exact ⟨draft, List.mem_cons_self, hproperty⟩
        · obtain ⟨found, hfound, hfinish⟩ := hdrafts other hother
          exact ⟨found, List.mem_cons_of_mem _ hfound, hfinish⟩
      · rw [List.map_cons, List.nodup_cons]
        refine ⟨fun hname => ?_, hnodup⟩
        obtain ⟨other, hother, heq⟩ := List.mem_map.1 hname
        exact hnames other hother (heq ▸ List.mem_cons_self)
      · rcases List.mem_cons.1 hother with rfl | hother
        · exact hrepeated
        · exact fun hname => hnames other hother (List.mem_cons_of_mem _ hname)

theorem exists_of_discriminatorFault? {draft : ModelDraft} (h : draft.discriminatorFault? = none)
    (henabled : draft.discriminatorEnabled) :
    ∃ key value, draft.discriminatorKey = some key ∧ draft.discriminator = some value := by
  unfold discriminatorFault? at h
  rw [if_pos henabled] at h
  cases hkey : draft.discriminatorKey with
  | none => simp [hkey, isBlank] at h
  | some key =>
      cases hvalue : draft.discriminator with
      | none =>
          simp only [hvalue, isBlank, Option.getD_none, decide_true, if_true] at h
          split at h <;> cases h
      | some value => exact ⟨key, value, rfl, rfl⟩

end ModelDraft

namespace Context

variable {context : Context} {key : TypeKey} {model : EntityModel}

theorem mappedName_outline (h : context.outline key = .ok model) {property : PropertyDescriptor}
    (hproperty : property ∈ model.properties) :
    property.mappedName =
      PropertyDraft.mappedNameOf context.settings property.name property.metadata := by
  obtain ⟨node, _, -, houtcome, -⟩ := exists_of_outline h
  obtain ⟨-, -, properties, hproperties, rfl⟩ := ModelDraft.outcome_eq_ok_iff.1 houtcome
  obtain ⟨draft, hdraft, hfinish⟩ := (ModelDraft.finishProperties_ok hproperties).1 _ hproperty
  have hfound : draft ∈ (Lineage.ofNode context.schema node).drafts context :=
    (List.mem_filter.1 hdraft).1
  obtain ⟨hname, hmapped, hmetadata⟩ := PropertyDraft.finish_ok hfinish
  have hpolicy := Lineage.mappedName_of_mem_drafts hfound
  rw [hname, hmapped, hmetadata] at hpolicy
  exact Option.some.inj hpolicy

theorem names_nodup_outline (h : context.outline key = .ok model) :
    (model.properties.map (·.name)).Nodup := by
  obtain ⟨node, _, -, houtcome, -⟩ := exists_of_outline h
  obtain ⟨-, -, properties, hproperties, rfl⟩ := ModelDraft.outcome_eq_ok_iff.1 houtcome
  exact (ModelDraft.finishProperties_ok hproperties).2.1

theorem discriminatorEntry?_outline (h : context.outline key = .ok model)
    (henabled : model.discriminatorEnabled) :
    ∃ name value, model.discriminatorKey = some name ∧ model.discriminator = some value := by
  obtain ⟨node, _, -, houtcome, -⟩ := exists_of_outline h
  obtain ⟨hfault, -, properties, -, rfl⟩ := ModelDraft.outcome_eq_ok_iff.1 houtcome
  exact ModelDraft.exists_of_discriminatorFault? hfault henabled

end Context

end ObjectDocument
