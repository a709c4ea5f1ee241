import ObjectDocument.Proofs.Consult.Answer
import ObjectDocument.Proofs.Mapper.Repeated
import ObjectDocument.Proofs.Mapper.Termination
import ObjectDocument.Proofs.Validation.Breaches

/-!
# The verdict on a model

Once everything that a type requires has a model, and nothing is missing of its own, the rules have
the last word.  The models that are required may be kept (`Mapper.requiredModels_of_kept`), or may
be made on the way.  If no property is a reference, their verdict is decided by the properties of
the type: there is a model exactly if these agree with each other and with the constructor, and if
they do not, then the request fails with a violation for each way in which they do not
(`Declarations.verdict`).
-/

namespace ObjectDocument

namespace Mapper

/-- The models of all that a type requires, asked for one after another. -/
def requiredModels (mapper : Mapper) (key : TypeKey) : MapperM (List (Option EntityModel)) :=
  (mapper.schema.required key).mapM mapper.entityModel

section

variable {context : Context} {key : TypeKey} {node : TypeNode} {state : MapperState}

theorem requiredModels_of_kept {mapper : Mapper}
    (hmappable : ∀ other ∈ mapper.schema.required key, mapper.schema.isMappable other)
    (hkept : ∀ other ∈ mapper.schema.required key, (state.cached? other).isSome) :
    ((mapper.requiredModels key).run state).1.isOk := by
  have hrun (keys : List TypeKey) (h : keys ⊆ mapper.schema.required key) :
      ∃ models, (keys.mapM mapper.entityModel).run state = (.ok models, state) := by
    induction keys with
    | nil => exact ⟨[], rfl⟩
    | cons other keys ih =>
        obtain ⟨hother, hkeys⟩ := List.cons_subset.1 h
        obtain ⟨model, hmodel⟩ := Option.isSome_iff_exists.1 (hkept other hother)
        obtain ⟨models, hmodels⟩ := ih hkeys
        have hanswer : (mapper.entityModel other).run state = (.ok (some model), state) :=
          answerOnce_of_cached (hmappable other hother) hmodel _
        rw [List.mapM_cons, MapperM.run_bind_ok hanswer, MapperM.run_bind_ok hmodels]
        exact ⟨_, rfl⟩
  obtain ⟨models, hmodels⟩ := hrun _ (List.Subset.refl _)
  rw [requiredModels, hmodels]
  rfl

theorem exists_start (hnode : context.schema.node? key = some node) (hkey : node.key = key)
    (hmappable : context.schema.isMappable key)
    (hrequired : (((standard context).requiredModels key).run state).1.isOk) :
    ∃ draft started, (ModelDraft.start context key).run.answer (standard context).answer state =
      (.ok draft, started) := by
  rw [ModelDraft.start_eq hnode hkey hmappable]
  rw [requiredModels, show (standard context).schema.required key =
    context.schema.parents key ++ context.schema.allInterfaces key from rfl,
    List.mapM_append] at hrequired
  have hanswer (keys : List TypeKey) (state : MapperState) :
      (keys.mapM ConsultM.request : ConsultM _).run.answer (standard context).answer state =
        (keys.mapM (standard context).entityModel).run state :=
    congrArg (fun step : MapperM (List (Option EntityModel)) => step.run state)
      (ConsultM.answer_mapM_request keys (standard context).answer)
  cases hup : ((context.schema.parents key).mapM (standard context).entityModel).run state with
  | mk outcome between =>
  cases outcome with
  | error cause =>
      rw [MapperM.run_bind_error hup] at hrequired
      cases hrequired
  | ok up =>
      rw [MapperM.run_bind_ok hup] at hrequired
      rw [ConsultM.answer_bind_ok ((hanswer _ _).trans hup)]
      cases hacross : ((context.schema.allInterfaces key).mapM (standard context).entityModel).run
        between with
      | mk outcome started =>
      cases outcome with
      | error cause =>
          rw [MapperM.run_bind_error hacross] at hrequired
          cases hrequired
      | ok across =>
          rw [ConsultM.answer_bind_ok ((hanswer _ _).trans hacross)]
          exact ⟨_, _, rfl⟩

/-- Once a draft is started of a type that has an outline, the making of the model ends with its
check. -/
theorem make_of_start {request : Request} {draft : ModelDraft} {outline : EntityModel}
    {started : MapperState} (hnode : context.schema.node? key = some node) (hkey : node.key = key)
    (hmappable : context.schema.isMappable key) (houtline : context.outline key = .ok outline)
    (hstart : (ModelDraft.start context key).run.answer request state = (.ok draft, started)) :
    ∃ (model : EntityModel) (staged : MapperState), model.contents = outline ∧
      ((standard context).make request key).run state =
        (((Validator.standard.check context model).run.answer request staged).1.map fun _ => model,
          ((Validator.standard.check context model).run.answer request staged).2) := by
  obtain ⟨_, hstarts, -⟩ :=
    Serves.exists_yields_serves request (ModelDraft.start context key).run state
  rw [hstart] at hstarts
  obtain ⟨superclass, interfaceModels, rfl⟩ : ∃ superclass interfaceModels,
      draft = .ofNode context.schema node superclass interfaceModels := by
    rcases ModelDraft.yields_start hnode hkey hmappable hstarts with
      ⟨up, across, -, -, -, hdraft⟩ | ⟨_, _, _, _, _, hfailed⟩
    · cases hdraft
      exact ⟨_, _, rfl⟩
    · cases hfailed
  let draft := ModelDraft.ofNode context.schema node superclass interfaceModels
  obtain ⟨_, hcompletes, -⟩ :=
    Serves.exists_yields_serves request ((standard context).complete draft).run started
  cases hcomplete : ((standard context).complete draft).run.answer request started with
  | mk outcome completed =>
  rw [hcomplete] at hcompletes
  obtain ⟨-, rfl⟩ := yields_complete hcompletes
  rw [Context.outcome_ofNode hnode, houtline] at hcomplete
  let model : EntityModel :=
    { outline.withLinks superclass interfaceModels with serial := completed.serial }
  refine ⟨model, MapperState.stage model { completed with serial := completed.serial + 1 },
    Context.contents_outline houtline, ?_⟩
  have hmake : ((standard context).make request key).run state =
      ((standard context).build request draft).run started := make_ok hstart
  rw [hmake, build_made hcomplete]
  exact run_check_bind _ _

section

variable (coherent : context.schema.Coherent)
  (hboxed : ∀ key, context.schema.boxed (context.schema.boxed key) = context.schema.boxed key)
  (hnode : context.schema.node? key = some node)
  (unreferring : ∀ property ∈ context.properties node, ¬property.metadata.has .reference)

include coherent hboxed hnode unreferring

/-- The making of a model ends with the breaches of its type, if there are any. -/
theorem verdict_of_begins (structured : context.Structured node)
    (orderly : Orderly context.schema state) (begins : (standard context).Begins key state)
    (hrequired : (((standard context).requiredModels key).run (state.begin key)).1.isOk) :
    (context.breaches node = [] →
      ∃ model, ((standard context).answer key state).1 = .ok (some model)) ∧
    (context.breaches node ≠ [] →
      ∃ failure, ((standard context).answer key state).1 = .error (.validation failure) ∧
        failure.entity = node.name ∧ failure.fatal = context.breaches node) := by
  have hkey := coherent.key_eq hnode
  obtain ⟨outline, houtline⟩ := (Context.exists_outline_iff hnode).2 structured
  obtain ⟨draft, started, hstart⟩ := exists_start hnode hkey begins.1 hrequired
  rw [answer_within coherent orderly begins] at hstart
  obtain ⟨model, staged, hcontents, hmake⟩ := make_of_start hnode hkey begins.1 houtline hstart
  obtain ⟨hproperties, hname, htype⟩ := Context.eq_of_contents hnode (hcontents ▸ houtline)
  obtain ⟨_, hchecks, -⟩ := Serves.exists_yields_serves
    ((standard context).request (standard context).schema.size)
    (Validator.standard.check context model).run staged
  obtain ⟨violations, hfatal, houtcome⟩ := Context.yields_check (hkey ▸ hnode) hboxed hproperties
    hname htype (hproperties ▸ unreferring) hchecks
  rw [answer_eq_makeAndKeep begins]
  constructor
  · intro hnone
    rw [houtcome, if_pos hnone] at hmake
    exact ⟨model, congrArg Prod.fst (makeAndKeep_ok hmake)⟩
  · intro hsome
    rw [houtcome, if_neg hsome] at hmake
    exact ⟨_, congrArg Prod.fst (makeAndKeep_error hmake), rfl, hfatal⟩

theorem agrees_of_answerAfter {earlier : List TypeKey} {model : EntityModel}
    (h : (standard context).answerAfter earlier key = .ok (some model)) :
    context.Agrees node := by
  have resting := Resting.after coherent earlier
  have hpasses := (resting.answer coherent key).steady.passes _ (resting.kept_of_answer coherent h)
  obtain ⟨hproperties, hname, htype⟩ :=
    Context.eq_of_contents hnode (contents_of_answerAfter coherent h)
  exact Context.agrees_of_clears (coherent.key_eq hnode ▸ hnode) hboxed hproperties hname htype
    (hproperties ▸ unreferring) hpasses.clears

end

end

end Mapper

/-- Of a mappable type whose superclass and interfaces have models when its own is begun, from which
nothing is missing and whose properties are no references: there is a model exactly if the stored
properties agree with each other and with the constructor, and if they do not, then the request
fails with one fatal violation for each way in which they do not.  The identity and the version of a
model are the only properties that are marked so, the identity is stored under its own key, and
nothing is a property that is not to be stored. -/
theorem Declarations.verdict {declarations : Declarations} {schema : Schema}
    (h : declarations.build = .ok schema) (settings : Settings) {earlier : List TypeKey}
    {key : TypeKey} {node : TypeNode} (hnode : schema.node? key = some node)
    (hmappable : schema.isMappable key)
    (hrequired : (((Mapper.standard ⟨schema, settings⟩).requiredModels key).run
      (((Mapper.standard ⟨schema, settings⟩).after earlier).begin key)).1.isOk)
    (structured : (Context.mk schema settings).Structured node)
    (unreferring : ∀ property ∈ (Context.mk schema settings).properties node,
      ¬property.metadata.has .reference) :
    let context : Context := ⟨schema, settings⟩
    let answer := (Mapper.standard context).answerAfter earlier key
    ((∃ model, answer = .ok (some model)) ↔ context.Agrees node) ∧
    (¬context.Agrees node →
      ∃ failure, answer = .error (.validation failure) ∧ failure.entity = node.name ∧
        failure.fatal = context.breaches node) ∧
    ∀ model, answer = .ok (some model) →
      model.properties = context.properties node ∧
      (∀ property, model.idProperty? = some property ↔
        property ∈ model.properties ∧ property.metadata.has .id) ∧
      (∀ property, model.versionProperty? = some property ↔
        property ∈ model.properties ∧ property.metadata.has .version) ∧
      ∀ property ∈ model.properties,
        (property.metadata.has .id → property.mappedName = "_id") ∧
          ¬property.metadata.has .transient := by
  intro context answer
  have coherent : context.schema.Coherent := Declarations.coherent h
  have hboxed : ∀ key, context.schema.boxed (context.schema.boxed key) = context.schema.boxed key :=
    Declarations.boxed_boxed h
  let state := (Mapper.standard context).after earlier
  have resting : Resting context state := Resting.after coherent earlier
  have agrees {model : EntityModel} (hmodel : answer = .ok (some model)) : context.Agrees node :=
    Mapper.agrees_of_answerAfter coherent hboxed hnode unreferring hmodel
  have kept {model : EntityModel} (hcached : state.cached? key = some model) :
      answer = .ok (some model) :=
    congrArg Prod.fst (resting.answer_of_kept (resting.cached?_eq_some_iff.1 hcached))
  have made (hcached : state.cached? key = none) :=
    Mapper.verdict_of_begins coherent hboxed hnode unreferring structured
      ((Mapper.standard context).orderly_after earlier)
      ⟨hmappable, hcached, resting.notMem_begun⟩ hrequired
  refine ⟨⟨fun ⟨model, hmodel⟩ => agrees hmodel, fun hagrees => ?_⟩, fun hdisagrees => ?_,
    fun model hmodel => ?_⟩
  · cases hcached : state.cached? key with
    | some model => exact ⟨model, kept hcached⟩
    | none => exact (made hcached).1 (Context.breaches_eq_nil_iff.2 hagrees)
  · cases hcached : state.cached? key with
    | some model => exact absurd (agrees (kept hcached)) hdisagrees
    | none => exact (made hcached).2 fun hnone => hdisagrees (Context.breaches_eq_nil_iff.1 hnone)
  · have houtline := Mapper.contents_of_answerAfter coherent hmodel
    exact ⟨(Context.eq_of_contents hnode houtline).1, (agrees hmodel).keys hnode houtline⟩

def Declarations.audited : Declarations :=
  .ofList [
    { name := "Entity", fields := [{ name := "id", type := "i64", metadata := ⟨[.id]⟩ }] },
    { name := "Account", superclass := some "Entity", fields := [
        { name := "revision", type := "i32", metadata := ⟨[.version none]⟩ },
        { name := "cache", type := "String", metadata := ⟨[.transient]⟩ }],
      constructorParams := some ["id", "revision"] },
    { name := "Draft", superclass := some "Entity", fields := [
        { name := "number", type := "i64", metadata := ⟨[.version none]⟩ },
        { name := "title", type := "String", metadata := ⟨[.version none]⟩ },
        { name := "key", type := "i64", metadata := ⟨[.id, .transient]⟩ }],
      constructorParams := some ["id", "missing"] }]

/-- The first subclass has a model, with the inherited identity.  The request for the other fails
with one violation for each thing to complain about, in the order of the rules. -/
theorem Declarations.verdict_audited :
    let mapper := Mapper.standard ⟨audited.schema, {}⟩
    (∃ model property, mapper.answerAfter [] ⟨26⟩ = .ok (some model) ∧
      model.idProperty? = some property ∧ property.name = "id") ∧
    ∃ failure, mapper.answerAfter [⟨25⟩] ⟨27⟩ = .error (.validation failure) ∧
      failure.fatal.map (fun violation => (violation.rule, violation.property)) =
        [("ConstructorParameterNames", none), ("MultipleId", none), ("MultipleVersions", none),
          ("ContradictingMetadata", some "key"), ("VersionType", some "title")] := by
  intro mapper
  let context : Context := ⟨audited.schema, {}⟩
  have hbuild : audited.build = .ok audited.schema := build_eq_schema (by decide +kernel)
  constructor
  · have hchecks : (audited.schema.node? ⟨26⟩).any fun node =>
        context.Structured node ∧ context.Agrees node ∧
          (∀ property ∈ context.properties node, ¬property.metadata.has .reference) ∧
          ∃ property ∈ context.properties node, property.metadata.has .id ∧
            property.name = "id" := by
      decide +kernel
    obtain ⟨node, hnode, hchecks⟩ := (Option.any_eq_true _ _).1 hchecks
    obtain ⟨structured, agrees, unreferring, property, hproperty, hid, hname⟩ :=
      of_decide_eq_true hchecks
    have hrequired : ((mapper.requiredModels ⟨26⟩).run
        ((mapper.after []).begin ⟨26⟩)).1.isOk := by
      decide +kernel
    obtain ⟨hiff, -, hmodels⟩ := verdict hbuild {} hnode (by decide +kernel) hrequired structured
      unreferring
    obtain ⟨model, hmodel⟩ := hiff.2 agrees
    obtain ⟨hproperties, hidentity, -, -⟩ := hmodels model hmodel
    exact ⟨model, property, hmodel, (hidentity property).2 ⟨hproperties ▸ hproperty, hid⟩, hname⟩
  · have hchecks : (audited.schema.node? ⟨27⟩).any fun node =>
        context.Structured node ∧ ¬context.Agrees node ∧
          (∀ property ∈ context.properties node, ¬property.metadata.has .reference) ∧
          (context.breaches node).map (fun violation => (violation.rule, violation.property)) =
            [("ConstructorParameterNames", none), ("MultipleId", none), ("MultipleVersions", none),
              ("ContradictingMetadata", some "key"), ("VersionType", some "title")] := by
      decide +kernel
    obtain ⟨node, hnode, hchecks⟩ := (Option.any_eq_true _ _).1 hchecks
    obtain ⟨structured, disagrees, unreferring, hbreaches⟩ := of_decide_eq_true hchecks
    have hrequired : ((mapper.requiredModels ⟨27⟩).run
        ((mapper.after [⟨25⟩]).begin ⟨27⟩)).1.isOk :=
      Mapper.requiredModels_of_kept (by decide +kernel) (by decide +kernel)
    obtain ⟨-, hfails, -⟩ := verdict hbuild {} hnode (by decide +kernel) hrequired structured
      unreferring
    obtain ⟨failure, hfailure, -, hfatal⟩ := hfails disagrees
    exact ⟨failure, hfailure, hfatal ▸ hbreaches⟩

end ObjectDocument
