import ObjectDocument.Proofs.Consult.Exchange
import ObjectDocument.Proofs.Outcome

/-!
# Outlines

The standard conventions ask for no models, so all of a model but its links is decided by the
declarations and the settings.  `Context.outline` is a model with nothing in the place of its links,
and a draft with links comes to the outline of its type with these links (`outcome_ofNode`).

What a model waits for is decided by the declarations too: `Schema.required` lists the types whose
models are asked for before a model is made (`yields_start`), and `EntityModel.references` the types
that it refers to.
-/

namespace ObjectDocument

def Mapper.standard (context : Context) : Mapper :=
  ⟨context.schema, .ofSettings context.settings⟩

namespace EntityModel

def contents (model : EntityModel) : EntityModel :=
  { model with serial := 0, superclass := none, interfaces := [] }

def withLinks (model : EntityModel) (superclass : Option EntityModel)
    (interfaces : List EntityModel) : EntityModel :=
  { model with superclass := superclass.map link, interfaces := interfaces.map link }

def references (model : EntityModel) : List TypeKey :=
  (model.properties.filter (·.metadata.has .reference)).map (·.normalizedType)

end EntityModel

/-- The properties that the standard conventions find for a type. -/
def Lineage.drafts (lineage : Lineage) (context : Context) : List PropertyDraft :=
  match context.settings.propertyDiscovery with
  | .fields => lineage.fieldDrafts context
  | .methods => lineage.methodDrafts context

namespace Schema

def parents (schema : Schema) (key : TypeKey) : List TypeKey :=
  (schema.ancestors key).take 1

def allInterfaces (schema : Schema) (key : TypeKey) : List TypeKey :=
  schema.interfaceClosure (key :: schema.ancestors key)

/-- The types whose models are asked for before the model of a type is made. -/
def required (schema : Schema) (key : TypeKey) : List TypeKey :=
  schema.parents key ++ schema.allInterfaces key

end Schema

theorem PropertyDraft.require_error {α : Type} {draft : PropertyDraft} {entity : String}
    {part : PropertyPart} {given : Option α} {cause : MappingError}
    (h : draft.require entity part given = .error cause) :
    ∃ fault, cause = .invalidModel entity fault := by
  cases given with
  | none =>
      cases h
      exact ⟨_, rfl⟩
  | some a => cases h

theorem PropertyDraft.finish_error {draft : PropertyDraft} {schema : Schema} {owner : TypeKey}
    {entity : String} {cause : MappingError}
    (h : draft.finish schema owner entity = .error cause) :
    ∃ fault, cause = .invalidModel entity fault := by
  unfold finish at h
  rcases Except.bind_eq_error_iff.1 h with h | ⟨name, -, h⟩
  · exact require_error h
  rcases Except.bind_eq_error_iff.1 h with h | ⟨mappedName, -, h⟩
  · exact require_error h
  rcases Except.bind_eq_error_iff.1 h with h | ⟨type, -, h⟩
  · exact require_error h
  rcases Except.bind_eq_error_iff.1 h with h | ⟨accessor, -, h⟩
  · exact require_error h
  by_cases hempty : mappedName = ""
  · rw [if_pos hempty] at h
    cases h
    exact ⟨_, rfl⟩
  · rw [if_neg hempty] at h
    cases h

namespace ModelDraft

def ofNode (schema : Schema) (node : TypeNode) (superclass : Option EntityModel)
    (interfaceModels : List EntityModel) : ModelDraft :=
  { name := node.name, isInterface := node.isInterface
    lineage := Lineage.ofNode schema node, superclass, interfaceModels }

def withLinks (draft : ModelDraft) (superclass : Option EntityModel)
    (interfaceModels : List EntityModel) : ModelDraft :=
  { draft with superclass, interfaceModels }

def settled (draft : ModelDraft) (context : Context) : ModelDraft :=
  let found := draft.addProperties (draft.lineage.drafts context)
  ((found.retain PropertyDraft.isStored).withKeys).withDiscriminator context

def modelOf (draft : ModelDraft) (context : Context) (properties : List PropertyDescriptor) :
    EntityModel :=
  { typeKey := draft.typeKey
    name := draft.name
    isInterface := draft.isInterface
    metadata := draft.metadata
    properties
    superclass := draft.superclass.map EntityModel.link
    interfaces := draft.interfaceModels.map EntityModel.link
    idIndex := place? properties draft.idProperty
    versionIndex := place? properties draft.versionProperty
    discriminatorEnabled := draft.discriminatorEnabled
    discriminatorKey := draft.discriminatorKey
    discriminator := draft.discriminator
    collection := draft.collectionName context.settings }

/-- What a draft comes to: a model, or the first thing that is wrong with it. -/
def outcome (draft : ModelDraft) (context : Context) : Except MappingError EntityModel :=
  match draft.discriminatorFault? with
  | some fault => .error (.invalidModel draft.name fault)
  | none =>
    if draft.collectionName context.settings = "" then
      .error (.invalidModel draft.name .emptyCollection)
    else
      (finishProperties context draft.typeKey draft.name [] draft.properties).map
        (draft.modelOf context)

theorem outcome_eq_ok_iff {draft : ModelDraft} {context : Context} {model : EntityModel} :
    draft.outcome context = .ok model ↔
      draft.discriminatorFault? = none ∧ draft.collectionName context.settings ≠ "" ∧
        ∃ properties, finishProperties context draft.typeKey draft.name [] draft.properties =
          .ok properties ∧ model = draft.modelOf context properties := by
  unfold outcome
  cases draft.discriminatorFault? with
  | some fault => simp
  | none =>
      by_cases hempty : draft.collectionName context.settings = ""
      · simp [hempty]
      · simp only [hempty, if_false, ne_eq, not_false_eq_true, true_and]
        cases finishProperties context draft.typeKey draft.name [] draft.properties with
        | error cause => simp [Except.map]
        | ok properties => simp [Except.map, eq_comm]

/-- What keeps properties from being made final is that one of them is not complete, or that a name
is repeated. -/
theorem finishProperties_error {context : Context} {owner : TypeKey} {entity : String}
    {names : List String} {drafts : List PropertyDraft} {cause : MappingError}
    (h : finishProperties context owner entity names drafts = .error cause) :
    ∃ fault, cause = .invalidModel entity fault := by
  induction drafts generalizing names with
  | nil => cases h
  | cons draft rest ih =>
      rw [finishProperties] at h
      rcases Except.bind_eq_error_iff.1 h with h | ⟨property, -, h⟩
      · exact PropertyDraft.finish_error h
      · by_cases hrepeated : property.name ∈ names
        · rw [if_pos hrepeated] at h
          cases h
          exact ⟨_, rfl⟩
        · rw [if_neg hrepeated] at h
          rcases Except.bind_eq_error_iff.1 h with h | ⟨others, -, h⟩
          · exact ih h
          · cases h

theorem outcome_error {draft : ModelDraft} {context : Context} {cause : MappingError}
    (h : draft.outcome context = .error cause) :
    ∃ fault, cause = .invalidModel draft.name fault := by
  unfold outcome at h
  cases hfault : draft.discriminatorFault? with
  | some fault =>
      rw [hfault] at h
      cases h
      exact ⟨fault, rfl⟩
  | none =>
      rw [hfault] at h
      by_cases hempty : draft.collectionName context.settings = ""
      · simp only [hempty, if_true] at h
        cases h
        exact ⟨_, rfl⟩
      · simp only [hempty, if_false] at h
        cases hproperties :
            finishProperties context draft.typeKey draft.name [] draft.properties with
        | ok properties =>
            rw [hproperties] at h
            cases h
        | error found =>
            rw [hproperties] at h
            cases h
            exact finishProperties_error hproperties

/-- Links decide nothing of an outcome but themselves. -/
theorem outcome_withLinks (draft : ModelDraft) (context : Context)
    (superclass : Option EntityModel) (interfaceModels : List EntityModel) :
    (draft.withLinks superclass interfaceModels).outcome context =
      (draft.outcome context).map fun model => model.withLinks superclass interfaceModels := by
  have hfault :
      (draft.withLinks superclass interfaceModels).discriminatorFault? =
        draft.discriminatorFault? := rfl
  have hcollection :
      (draft.withLinks superclass interfaceModels).collectionName context.settings =
        draft.collectionName context.settings := rfl
  unfold outcome
  rw [hfault, hcollection]
  cases draft.discriminatorFault? with
  | some fault => rfl
  | none =>
      by_cases hempty : draft.collectionName context.settings = ""
      · rw [if_pos hempty, if_pos hempty]
        rfl
      · simp only [hempty, if_false]
        change Except.map _
          (finishProperties context draft.typeKey draft.name [] draft.properties) = _
        cases finishProperties context draft.typeKey draft.name [] draft.properties <;> rfl

theorem yields_refuse {α : Type} {draft : ModelDraft} {fault : ModelFault} {exchange : Exchange}
    {outcome : Except MappingError α} (h : (draft.refuse fault).run.Yields exchange outcome) :
    exchange = [] ∧ outcome = .error (.invalidModel draft.name fault) := by
  rw [refuse, ConsultM.yields_bind_iff] at h
  rcases h with ⟨before, after, told, rfl, htell, hthrow⟩ | ⟨cause, htell, rfl⟩
  · obtain ⟨rfl, -⟩ := ConsultM.yields_tell_iff.1 htell
    exact ConsultM.yields_throw_iff.1 hthrow
  · cases (ConsultM.yields_tell_iff.1 htell).2

theorem yields_finish {draft : ModelDraft} {context : Context} {exchange : Exchange}
    {outcome : Except MappingError EntityModel}
    (h : (draft.finish context).run.Yields exchange outcome) :
    exchange = [] ∧ outcome = draft.outcome context := by
  simp only [finish] at h
  cases hfault : draft.discriminatorFault? with
  | some fault =>
      rw [hfault, ConsultM.yields_bind_iff] at h
      rcases h with ⟨_, _, _, _, hrefuse, _⟩ | ⟨cause, hrefuse, rfl⟩
      · cases (yields_refuse hrefuse).2
      · obtain ⟨rfl, hcause⟩ := yields_refuse hrefuse
        exact ⟨rfl, by simp [ModelDraft.outcome, hfault, Except.error.inj hcause]⟩
  | none =>
      rw [hfault] at h
      by_cases hempty : draft.collectionName context.settings = ""
      · rw [if_pos hempty, ConsultM.yields_bind_iff] at h
        rcases h with ⟨_, _, _, _, hrefuse, _⟩ | ⟨cause, hrefuse, rfl⟩
        · cases (yields_refuse hrefuse).2
        · obtain ⟨rfl, hcause⟩ := yields_refuse hrefuse
          exact ⟨rfl, by simp [ModelDraft.outcome, hfault, hempty, Except.error.inj hcause]⟩
      · rw [if_neg hempty, ConsultM.yields_bind_iff] at h
        rcases h with ⟨before, after, properties, rfl, hproperties, hmodel⟩ | ⟨cause, hfailed, rfl⟩
        · obtain ⟨rfl, hfound⟩ := ConsultM.yields_ofExcept_iff.1 hproperties
          obtain ⟨rfl, rfl⟩ := ConsultM.yields_pure_iff.1 hmodel
          exact ⟨rfl, by simp [ModelDraft.outcome, hfault, hempty, ← hfound, modelOf, Except.map]⟩
        · obtain ⟨rfl, hfound⟩ := ConsultM.yields_ofExcept_iff.1 hfailed
          exact ⟨rfl, by simp [ModelDraft.outcome, hfault, hempty, ← hfound, Except.map]⟩

end ModelDraft

namespace Convention

/-- A pass that asks for nothing and changes the draft in a fixed way. -/
def Silent (convention : Convention) (context : Context) (change : ModelDraft → ModelDraft) :
    Prop :=
  ∀ draft exchange outcome, ((convention.apply context).run.run draft).Yields exchange outcome →
    exchange = [] ∧ outcome = (.ok (), change draft)

theorem silent_fieldDiscovery (context : Context) :
    fieldDiscovery.Silent context fun draft =>
      draft.addProperties (draft.lineage.fieldDrafts context) :=
  fun _ _ _ h => DraftM.yields_modify_iff.1 h

theorem silent_methodDiscovery (context : Context) :
    methodDiscovery.Silent context fun draft =>
      draft.addProperties (draft.lineage.methodDrafts context) := by
  intro draft exchange outcome h
  rcases DraftM.yields_bind_iff.1 h with
    ⟨_, _, _, _, rfl, hget, h⟩ | ⟨_, _, hget, _⟩
  · obtain ⟨rfl, hdraft⟩ := DraftM.yields_get_iff.1 hget
    cases hdraft
    rcases DraftM.yields_bind_iff.1 h with ⟨_, _, _, _, rfl, htell, hset⟩ | ⟨_, _, htell, _⟩
    · obtain ⟨rfl, htold⟩ := DraftM.yields_tellAll htell
      cases htold
      exact DraftM.yields_set_iff.1 hset
    · cases (DraftM.yields_tellAll htell).2
  · cases (DraftM.yields_get_iff.1 hget).2

theorem silent_entityDefaults (context : Context) :
    entityDefaults.Silent context fun draft =>
      ((draft.retain PropertyDraft.isStored).withKeys).withDiscriminator context :=
  fun _ _ _ h => DraftM.yields_modify_iff.1 h

/-- Passes that ask for nothing change the draft one after another. -/
theorem yields_applyAll_cons {context : Context} {convention : Convention}
    {rest : List Convention} {change : ModelDraft → ModelDraft}
    (silent : convention.Silent context change) {draft : ModelDraft} {exchange : Exchange}
    {outcome : Except MappingError Unit × ModelDraft}
    (h : ((applyAll context (convention :: rest)).run.run draft).Yields exchange outcome) :
    ((applyAll context rest).run.run (change draft)).Yields exchange outcome := by
  rw [applyAll] at h
  rcases DraftM.yields_bind_iff.1 h with ⟨_, _, _, _, rfl, hget, h⟩ | ⟨_, _, hget, _⟩
  · obtain ⟨rfl, hdraft⟩ := DraftM.yields_get_iff.1 hget
    cases hdraft
    rcases DraftM.yields_bind_iff.1 h with ⟨_, _, _, _, rfl, htell, h⟩ | ⟨_, _, htell, _⟩
    · obtain ⟨rfl, htold⟩ := DraftM.yields_tellAll htell
      cases htold
      rcases DraftM.yields_bind_iff.1 h with ⟨_, _, _, _, rfl, happly, h⟩ | ⟨_, _, happly, _⟩
      · obtain ⟨rfl, happlied⟩ := silent _ _ _ happly
        cases happlied
        exact h
      · cases (silent _ _ _ happly).2
    · cases (DraftM.yields_tellAll htell).2
  · cases (DraftM.yields_get_iff.1 hget).2

theorem yields_applyAll_standard {context : Context} {draft : ModelDraft} {exchange : Exchange}
    {outcome : Except MappingError Unit × ModelDraft}
    (h : ((applyAll context (standard context.settings.propertyDiscovery)).run.run draft).Yields
      exchange outcome) :
    exchange = [] ∧ outcome = (.ok (), draft.settled context) := by
  unfold ModelDraft.settled Lineage.drafts
  cases hdiscovery : context.settings.propertyDiscovery with
  | fields =>
      rw [hdiscovery] at h
      have h := yields_applyAll_cons (silent_entityDefaults context)
        (yields_applyAll_cons (silent_fieldDiscovery context) h)
      exact DraftM.yields_pure_iff.1 h
  | methods =>
      rw [hdiscovery] at h
      have h := yields_applyAll_cons (silent_entityDefaults context)
        (yields_applyAll_cons (silent_methodDiscovery context) h)
      exact DraftM.yields_pure_iff.1 h

end Convention

theorem Mapper.yields_complete {context : Context} {draft : ModelDraft} {exchange : Exchange}
    {outcome : Except MappingError EntityModel}
    (h : ((Mapper.standard context).complete draft).run.Yields exchange outcome) :
    exchange = [] ∧ outcome = (draft.settled context).outcome context := by
  rw [complete] at h
  rcases ConsultM.yields_bind_iff.1 h with ⟨_, _, _, rfl, happly, h⟩ | ⟨_, happly, _⟩
  · obtain ⟨_, happly, hvalue⟩ := ConsultM.yields_lift_iff.1 happly
    cases hvalue
    obtain ⟨rfl, rfl⟩ := Convention.yields_applyAll_standard happly
    exact ModelDraft.yields_finish h
  · obtain ⟨_, _, hvalue⟩ := ConsultM.yields_lift_iff.1 happly
    cases hvalue

namespace Context

def outline (context : Context) (key : TypeKey) : Except MappingError EntityModel :=
  (context.schema.node key).bind fun node =>
    ((ModelDraft.ofNode context.schema node none []).settled context).outcome context

def outlineDraft (context : Context) (node : TypeNode) : ModelDraft :=
  (ModelDraft.ofNode context.schema node none []).settled context

theorem exists_of_outline {context : Context} {key : TypeKey} {model : EntityModel}
    (h : context.outline key = .ok model) :
    ∃ node properties, context.schema.node? key = some node ∧
      (context.outlineDraft node).outcome context = .ok model ∧
      model = (context.outlineDraft node).modelOf context properties := by
  unfold outline Schema.node at h
  cases hnode : context.schema.node? key with
  | none =>
      rw [hnode] at h
      cases h
  | some node =>
      rw [hnode] at h
      obtain ⟨-, -, properties, -, hmodel⟩ := ModelDraft.outcome_eq_ok_iff.1 h
      exact ⟨node, properties, rfl, h, hmodel⟩

theorem contents_outline {context : Context} {key : TypeKey} {model : EntityModel}
    (h : context.outline key = .ok model) : model.contents = model := by
  obtain ⟨node, properties, -, -, rfl⟩ := exists_of_outline h
  rfl

theorem typeKey_outline {context : Context} {key : TypeKey} {node : TypeNode}
    {model : EntityModel} (hnode : context.schema.node? key = some node)
    (h : context.outline key = .ok model) : model.typeKey = node.key := by
  obtain ⟨other, properties, hother, -, rfl⟩ := exists_of_outline h
  rw [hnode] at hother
  cases hother
  rfl

/-- What keeps a type from having an outline concerns the type alone. -/
theorem outline_error {context : Context} {key : TypeKey} {cause : MappingError}
    (h : context.outline key = .error cause) :
    (∃ missing, cause = .notFound missing) ∨
      ∃ entity fault, cause = .invalidModel entity fault := by
  unfold outline at h
  cases hnode : context.schema.node key with
  | error found =>
      rw [hnode] at h
      cases h
      unfold Schema.node at hnode
      cases hnode? : context.schema.node? key with
      | none =>
          rw [hnode?] at hnode
          cases hnode
          exact .inl ⟨_, rfl⟩
      | some node =>
          rw [hnode?] at hnode
          cases hnode
  | ok node =>
      rw [hnode] at h
      obtain ⟨fault, rfl⟩ := ModelDraft.outcome_error h
      exact .inr ⟨_, fault, rfl⟩

/-- A draft with links comes to the outline of its type with these links, or to the same error. -/
theorem outcome_ofNode {context : Context} {key : TypeKey} {node : TypeNode}
    (hnode : context.schema.node? key = some node) (superclass : Option EntityModel)
    (interfaceModels : List EntityModel) :
    ((ModelDraft.ofNode context.schema node superclass interfaceModels).settled context).outcome
        context =
      (context.outline key).map fun model => model.withLinks superclass interfaceModels := by
  have houtline : context.outline key =
      ((ModelDraft.ofNode context.schema node none []).settled context).outcome context := by
    simp only [outline, Schema.node, hnode]
    rfl
  rw [houtline, ← ModelDraft.outcome_withLinks]
  rfl

end Context

namespace ModelDraft

theorem start_eq {context : Context} {key : TypeKey} {node : TypeNode}
    (hnode : context.schema.node? key = some node) (hkey : node.key = key)
    (hmappable : context.schema.isMappable key) :
    ModelDraft.start context key = (do
      let up ← (context.schema.parents key).mapM ConsultM.request
      let across ← (context.schema.allInterfaces key).mapM ConsultM.request
      return .ofNode context.schema node (up.head?.bind id) (across.filterMap id)) := by
  subst hkey
  have hofExcept : ConsultM.ofExcept (.ok node) = pure node := rfl
  unfold start
  simp only [Schema.node, hnode, hofExcept, pure_bind, hmappable, Schema.parents, Lineage.ofNode]
  cases hclasses : context.schema.ancestors node.key with
  | nil => simp [Schema.allInterfaces, ofNode, Lineage.ofNode, hclasses]
  | cons parent classes => simp [Schema.allInterfaces, ofNode, Lineage.ofNode, hclasses]

/-- Starting a draft asks for what is required, in order, up to the first model that is refused. -/
theorem yields_start {context : Context} {key : TypeKey} {node : TypeNode}
    (hnode : context.schema.node? key = some node) (hkey : node.key = key)
    (hmappable : context.schema.isMappable key) {exchange : Exchange}
    {outcome : Except MappingError ModelDraft}
    (h : (ModelDraft.start context key).run.Yields exchange outcome) :
    (∃ up across : List (TypeKey × Option EntityModel),
      up.map (·.1) = context.schema.parents key ∧
      across.map (·.1) = context.schema.allInterfaces key ∧
      exchange = (up ++ across).map (fun entry => (entry.1, .ok entry.2)) ∧
      outcome = .ok (.ofNode context.schema node ((up.map (·.2)).head?.bind id)
        (across.filterMap (·.2)))) ∨
    ∃ (found : List (TypeKey × Option EntityModel)) (other : TypeKey) (cause : MappingError),
      found.map (·.1) ++ [other] <+: context.schema.required key ∧
      exchange = found.map (fun entry => (entry.1, .ok entry.2)) ++ [(other, .error cause)] ∧
      outcome = .error cause := by
  rw [start_eq hnode hkey hmappable, ConsultM.yields_bind_iff] at h
  rcases h with ⟨_, rest, _, rfl, hup, h⟩ | ⟨cause, hup, rfl⟩
  · obtain ⟨up, hkeys, rfl, hmodels⟩ | ⟨_, _, _, _, _, hfailed⟩ := ConsultM.yields_mapM_request hup
    · cases hmodels
      rw [ConsultM.yields_bind_iff] at h
      rcases h with ⟨_, _, _, rfl, hacross, h⟩ | ⟨cause, hacross, rfl⟩
      · obtain ⟨rfl, rfl⟩ := ConsultM.yields_pure_iff.1 h
        obtain ⟨across, hkeys', rfl, hmodels⟩ | ⟨_, _, _, _, _, hfailed⟩ :=
          ConsultM.yields_mapM_request hacross
        · cases hmodels
          refine .inl ⟨up, across, hkeys, hkeys', by simp, ?_⟩
          rw [List.filterMap_map]
          rfl
        · cases hfailed
      · obtain ⟨_, _, _, hmodels⟩ | ⟨found, other, _, hopened, rfl, hfailed⟩ :=
          ConsultM.yields_mapM_request hacross
        · cases hmodels
        · cases hfailed
          refine .inr ⟨up ++ found, other, cause, ?_, by simp, rfl⟩
          rw [Schema.required, List.map_append, hkeys, List.append_assoc]
          exact List.prefix_append_right_inj _ |>.2 hopened
    · cases hfailed
  · obtain ⟨_, _, _, hmodels⟩ | ⟨found, other, _, hopened, rfl, hfailed⟩ :=
      ConsultM.yields_mapM_request hup
    · cases hmodels
    · cases hfailed
      exact .inr ⟨found, other, cause, hopened.trans (List.prefix_append _ _), rfl, rfl⟩

end ModelDraft

end ObjectDocument
