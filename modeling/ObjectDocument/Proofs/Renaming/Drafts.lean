import ObjectDocument.Proofs.Renaming.Members

/-!
# Drafts under renamed type parameters

The standard conventions do two things: they find the properties of a type, and they settle the
rest, for which unstored properties are dropped.  `Mapper.run_complete` writes out what completing a
draft tells and comes to.  Of the lineage of a draft only the bindings depend on the names of type
parameters, and after the properties are found nothing reads them, so a draft is completed as before
if its stored properties stay (`Mapper.complete_rename`).
-/

namespace ObjectDocument

variable {context : Context} {renames : Renaming}

@[simp] theorem PropertyDraft.finish_rename {schema : Schema} (draft : PropertyDraft) :
    draft.finish (schema.rename renames) = draft.finish schema := by
  funext owner entity
  simp [finish, TypeDescriptor.normalized]

namespace ModelDraft

theorem finishProperties_rename :
    finishProperties (context.rename renames) = finishProperties context := by
  funext owner entity names drafts
  induction drafts generalizing names with
  | nil => rfl
  | cons draft rest ih => simp [finishProperties, Context.rename, ← ih]

def withBindings (draft : ModelDraft) (bindings : Parameterization) : ModelDraft :=
  { draft with lineage := { draft.lineage with parameterization := bindings } }

theorem finish_withBindings (draft : ModelDraft) (bindings : Parameterization) :
    (draft.withBindings bindings).finish (context.rename renames) = draft.finish context := by
  unfold finish
  rw [finishProperties_rename]
  rfl

theorem settled_withBindings {draft : ModelDraft} {bindings : Parameterization}
    (h : (draft.withBindings bindings).lineage.stored (context.rename renames) =
      draft.lineage.stored context) :
    (draft.withBindings bindings).settled (context.rename renames) =
      (draft.settled context).withBindings bindings := by
  have hretained : ((draft.withBindings bindings).addProperties
        ((draft.withBindings bindings).lineage.drafts (context.rename renames))).retain
          PropertyDraft.isStored =
      ((draft.addProperties (draft.lineage.drafts context)).retain
        PropertyDraft.isStored).withBindings bindings := by
    simp only [Lineage.stored] at h
    simp only [addProperties, retain, withBindings, List.filter_append] at h ⊢
    rw [h]
  have hchosen (found : ModelDraft) :
      (found.withBindings bindings).chosenDiscriminator (context.rename renames) =
        found.chosenDiscriminator context := by
    have hkey : (found.withBindings bindings).typeKey = found.typeKey := rfl
    rw [chosenDiscriminator, chosenDiscriminator, hkey, Context.rename, Schema.node?_rename]
    cases context.schema.node? found.typeKey <;> rfl
  have hdiscriminator (found : ModelDraft) :
      (found.withBindings bindings).withDiscriminator (context.rename renames) =
        (found.withDiscriminator context).withBindings bindings := by
    rw [withDiscriminator, hchosen]
    rfl
  rw [settled, settled, hretained, ← hdiscriminator]
  rfl

def discoveryRecords (draft : ModelDraft) (context : Context) : List LogRecord :=
  match context.settings.propertyDiscovery with
  | .fields => []
  | .methods => draft.lineage.methodRecords context.schema

end ModelDraft

namespace Convention

def Does (convention : Convention) (context : Context) (records : ModelDraft → List LogRecord)
    (change : ModelDraft → ModelDraft) : Prop :=
  ∀ draft, (convention.apply context).run.run draft =
    Consult.tellAll (records draft) >>= fun _ => pure (.ok (), change draft)

def record (convention : Convention) (draft : ModelDraft) : LogRecord :=
  ⟨.trace, "applying " ++ convention.name ++ " to " ++ draft.name⟩

theorem run_applyAll_cons {context : Context} {convention : Convention}
    {records : ModelDraft → List LogRecord} {change : ModelDraft → ModelDraft}
    (does : convention.Does context records change) (rest : List Convention)
    (draft : ModelDraft) :
    (applyAll context (convention :: rest)).run.run draft = (do
      Consult.tellAll [convention.record draft]
      Consult.tellAll (records draft)
      (applyAll context rest).run.run (change draft)) := by
  have happly : ((convention.apply context >>= fun _ => applyAll context rest).run).run draft = (do
      Consult.tellAll (records draft)
      (applyAll context rest).run.run (change draft)) := by
    rw [ExceptT.run_bind, StateT.run_bind, does draft, bind_assoc]
    rfl
  rw [← happly]
  rfl

theorem does_fieldDiscovery (context : Context) :
    fieldDiscovery.Does context (fun _ => []) fun draft =>
      draft.addProperties (draft.lineage.fieldDrafts context) :=
  fun _ => rfl

theorem does_methodDiscovery (context : Context) :
    methodDiscovery.Does context (fun draft => draft.lineage.methodRecords context.schema)
      fun draft => draft.addProperties (draft.lineage.methodDrafts context) := by
  intro draft
  have htell (records : List LogRecord) (next : DraftM Unit) :
      ((DraftM.tellAll records >>= fun _ => next).run).run draft =
        Consult.tellAll records >>= fun _ => next.run.run draft := by
    simp [DraftM.tellAll]
  exact htell (draft.lineage.methodRecords context.schema)
    (set (draft.addProperties (draft.lineage.methodDrafts context)))

theorem does_entityDefaults (context : Context) :
    entityDefaults.Does context (fun _ => []) fun draft =>
      ((draft.retain PropertyDraft.isStored).withKeys).withDiscriminator context :=
  fun _ => rfl

def discovery : PropertyDiscovery → Convention
  | .fields => fieldDiscovery
  | .methods => methodDiscovery

theorem does_discovery (context : Context) :
    (discovery context.settings.propertyDiscovery).Does context
      (fun draft => draft.discoveryRecords context)
      fun draft => draft.addProperties (draft.lineage.drafts context) := by
  unfold ModelDraft.discoveryRecords Lineage.drafts
  cases context.settings.propertyDiscovery with
  | fields => exact does_fieldDiscovery context
  | methods => exact does_methodDiscovery context

end Convention

/-- Completing a draft tells what the passes tell, and finishes the draft that they leave. -/
theorem Mapper.run_complete (context : Context) (draft : ModelDraft) :
    ((Mapper.standard context).complete draft).run = (do
      let found := draft.addProperties (draft.lineage.drafts context)
      Consult.tellAll [(Convention.discovery context.settings.propertyDiscovery).record draft]
      Consult.tellAll (draft.discoveryRecords context)
      Consult.tellAll [Convention.entityDefaults.record found]
      ((draft.settled context).finish context).run) := by
  have hconventions : (Mapper.standard context).options.conventions =
      [.discovery context.settings.propertyDiscovery, .entityDefaults] := by
    change Convention.standard context.settings.propertyDiscovery = _
    cases context.settings.propertyDiscovery <;> rfl
  have hrun := Convention.run_applyAll_cons (Convention.does_discovery context) [.entityDefaults]
    draft
  rw [Convention.run_applyAll_cons (Convention.does_entityDefaults context) []] at hrun
  rw [complete, hconventions, ExceptT.run_bind, ExceptT.run_lift]
  have hcontext : (Mapper.standard context).context = context := rfl
  rw [hcontext, hrun]
  simp only [map_eq_pure_bind, bind_assoc, pure_bind]
  rfl

theorem Mapper.complete_rename {draft : ModelDraft} {bindings : Parameterization}
    (corresponds : draft.lineage.Corresponds renames (draft.withBindings bindings).lineage)
    (h : (draft.withBindings bindings).lineage.stored (context.rename renames) =
      draft.lineage.stored context) :
    (Mapper.standard (context.rename renames)).complete (draft.withBindings bindings) =
      (Mapper.standard context).complete draft := by
  have hrecords : (draft.withBindings bindings).discoveryRecords (context.rename renames) =
      draft.discoveryRecords context := by
    unfold ModelDraft.discoveryRecords Context.rename
    cases context.settings.propertyDiscovery with
    | fields => rfl
    | methods => exact Lineage.methodRecords_rename corresponds
  refine ExceptT.ext ?_
  rw [Mapper.run_complete, Mapper.run_complete, ModelDraft.settled_withBindings h,
    ModelDraft.finish_withBindings, hrecords]
  rfl

end ObjectDocument
