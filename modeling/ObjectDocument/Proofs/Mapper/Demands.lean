import ObjectDocument.Proofs.Mapper.Orderly
import ObjectDocument.Proofs.Schema.Built

/-!
# Demands

A demand is what a mapper is asked from outside: for the model of a type, for that of the type that
a name means, or for the models of all types.  Each comes down to requests for some types in turn,
of which the first that fails ends the demand.

The history of some demands lists every state that a mapper goes through.  Whatever conventions and
rules the mapper has, each state is orderly, and what is kept in one is kept in all that follow
(`Mapper.history_orderly`).
-/

namespace ObjectDocument

/-- What a mapper is asked from outside. -/
inductive Demand where
  | model (key : TypeKey)
  | named (name : String)
  | all
deriving DecidableEq, Repr

def Schema.mappableKeys (schema : Schema) : List TypeKey :=
  (schema.nodes.map (·.key)).filter schema.isMappable

namespace Demand

def keys (schema : Schema) : Demand → List TypeKey
  | model key => [key]
  | named name => (schema.lookup? name).toList
  | all => schema.mappableKeys

def key? (schema : Schema) : Demand → Option TypeKey
  | model key => some key
  | named name => schema.lookup? name
  | all => none

end Demand

namespace Mapper

def perform (mapper : Mapper) : Demand → MapperM (List EntityModel)
  | .model key => Option.toList <$> mapper.entityModel key
  | .named name => Option.toList <$> mapper.entityModelByName name
  | .all => mapper.mapAll

def afterAll (mapper : Mapper) (demands : List Demand) : MapperState :=
  demands.foldl (fun state demand => ((mapper.perform demand).run state).2) {}

def courseOf (mapper : Mapper) : List TypeKey → MapperState → List MapperState
  | [], _ => []
  | key :: rest, state =>
    mapper.course key state ++
      match mapper.answer key state with
      | (.ok _, next) => mapper.courseOf rest next
      | (.error _, _) => []

/-- The states that some demands go through, one after another. -/
def history (mapper : Mapper) : List Demand → MapperState → List MapperState
  | [], _ => []
  | demand :: rest, state =>
    mapper.courseOf (demand.keys mapper.schema) state ++
      mapper.history rest ((mapper.perform demand).run state).2

variable {mapper : Mapper} {state : MapperState}

theorem run_map_snd {α β : Type} (f : α → β) (step : MapperM α) (state : MapperState) :
    ((f <$> step).run state).2 = (step.run state).2 := by
  rw [ExceptT.run_map]
  rfl

theorem perform_eq (mapper : Mapper) (demand : Demand) (state : MapperState) :
    ((mapper.perform demand).run state).2 =
      (((demand.keys mapper.schema).mapM mapper.entityModel).run state).2 := by
  have hsingle (key : TypeKey) : [key].mapM mapper.entityModel =
      (fun found => [found]) <$> mapper.entityModel key := by simp
  cases demand with
  | model key => rw [perform, Demand.keys, run_map_snd, hsingle, run_map_snd]
  | named name =>
      rw [perform, run_map_snd, Demand.keys, entityModelByName]
      cases mapper.schema.lookup? name with
      | none => rfl
      | some key => rw [Option.toList_some, hsingle, run_map_snd]
  | all =>
      rw [perform, mapAll, bind_pure_comp, run_map_snd]
      rfl

/-- What requests in turn leave: the next goes on from a model, and an error ends them. -/
theorem run_mapM_cons (key : TypeKey) (rest : List TypeKey) (state : MapperState) :
    (((key :: rest).mapM mapper.entityModel).run state).2 =
      match mapper.answer key state with
      | (.ok _, next) => ((rest.mapM mapper.entityModel).run next).2
      | (.error _, next) => next := by
  have hrun : (mapper.entityModel key).run state = mapper.answer key state := rfl
  rw [List.mapM_cons]
  cases hanswer : mapper.answer key state with
  | mk answer next =>
  cases answer with
  | ok found =>
      rw [MapperM.run_bind_ok (hrun.trans hanswer), bind_pure_comp, run_map_snd]
  | error cause => rw [MapperM.run_bind_error (hrun.trans hanswer)]

theorem way_courseOf (mapper : Mapper) (keys : List TypeKey) (state : MapperState) :
    Way state (mapper.courseOf keys state) ((keys.mapM mapper.entityModel).run state).2 := by
  induction keys generalizing state with
  | nil => exact .nil state
  | cons key rest ih =>
      have hway : Way state (mapper.course key state) (mapper.answer key state).2 :=
        way_request mapper mapper.levels key state
      rw [run_mapM_cons, courseOf]
      cases hanswer : mapper.answer key state with
      | mk answer next =>
      rw [hanswer] at hway
      cases answer with
      | ok found => exact hway.append (ih next)
      | error cause => exact hway.append (.nil next)

theorem tidy_courseOf (keys : List TypeKey) (orderly : Orderly mapper.schema state) :
    Tidy mapper.schema state (mapper.courseOf keys state)
      ((keys.mapM mapper.entityModel).run state).2 := by
  induction keys generalizing state with
  | nil => exact .nil orderly
  | cons key rest ih =>
      have htidy : Tidy mapper.schema state (mapper.course key state) (mapper.answer key state).2 :=
        tidy_request mapper mapper.levels key state orderly
      rw [run_mapM_cons, courseOf]
      cases hanswer : mapper.answer key state with
      | mk answer next =>
      rw [hanswer] at htidy
      cases answer with
      | ok found => exact htidy.append (ih htidy.ends)
      | error cause => exact htidy.append (.nil htidy.ends)

/-- The history of some demands leads to what they leave. -/
theorem way_history (mapper : Mapper) (demands : List Demand) (state : MapperState) :
    Way state (mapper.history demands state)
      (demands.foldl (fun state demand => ((mapper.perform demand).run state).2) state) := by
  induction demands generalizing state with
  | nil => exact .nil state
  | cons demand rest ih =>
      have hway := way_courseOf mapper (demand.keys mapper.schema) state
      rw [← perform_eq] at hway
      exact hway.append (ih _)

theorem tidy_history (mapper : Mapper) (demands : List Demand) {state : MapperState}
    (orderly : Orderly mapper.schema state) :
    Tidy mapper.schema state (mapper.history demands state)
      (demands.foldl (fun state demand => ((mapper.perform demand).run state).2) state) := by
  induction demands generalizing state with
  | nil => exact .nil orderly
  | cons demand rest ih =>
      have htidy := tidy_courseOf (demand.keys mapper.schema) orderly
      rw [← perform_eq] at htidy
      exact htidy.append (ih htidy.ends)

theorem perform_of_key? {demand : Demand} {key : TypeKey} (h : demand.key? mapper.schema = some key)
    (state : MapperState) :
    (mapper.perform demand).run state = (Option.toList <$> mapper.entityModel key).run state := by
  cases demand with
  | model other => cases h; rfl
  | named name =>
      have hname : mapper.schema.lookup? name = some key := h
      rw [perform, entityModelByName, hname]
  | all => cases h

theorem error_of_map {α β : Type} {f : α → β} {step : MapperM α} {cause : MappingError}
    (h : ((f <$> step).run state).1 = .error cause) : (step.run state).1 = .error cause := by
  rw [ExceptT.run_map] at h
  change (f <$> (step.run state).1) = _ at h
  cases houtcome : (step.run state).1 with
  | ok value => rw [houtcome] at h; cases h
  | error other => rw [houtcome] at h; cases h; rfl

/-- Whatever conventions and rules a mapper has, and whatever was asked of it: each state that it
went through is one change after the one before.  In each of them only what is begun is staged and
nothing that is begun is kept, and what is kept is the answer to any request for it, now and in all
states that follow.  Between demands nothing is begun or staged, and nothing is kept of a type whose
model was refused to a demand for it. -/
theorem history_orderly (mapper : Mapper) (demands : List Demand) :
    Way {} (mapper.history demands {}) (mapper.afterAll demands) ∧
    (∀ state ∈ {} :: mapper.history demands {},
      (∀ key ∈ state.staged.map (·.1), key ∈ state.begun) ∧
      (∀ key ∈ state.begun, state.cached? key = none) ∧
      ∀ key model, state.cached? key = some model →
        ∀ levels, mapper.request (levels + 1) key state = (.ok (some model), state)) ∧
    ({} :: mapper.history demands {}).Pairwise (fun earlier later =>
      ∀ key model, earlier.cached? key = some model → later.cached? key = some model) ∧
    ((mapper.afterAll demands).begun = [] ∧ (mapper.afterAll demands).staged = []) ∧
    ∀ demand key cause, demand.key? mapper.schema = some key →
      ((mapper.perform demand).run (mapper.afterAll demands)).1 = .error cause →
        (mapper.afterAll (demands ++ [demand])).cached? key = none := by
  have way : Way {} (mapper.history demands {}) (mapper.afterAll demands) :=
    way_history mapper demands {}
  have tidy : Tidy mapper.schema {} (mapper.history demands {}) (mapper.afterAll demands) :=
    tidy_history mapper demands .initial
  have orderly : ∀ state ∈ {} :: mapper.history demands {}, Orderly mapper.schema state :=
    List.forall_mem_cons.2 ⟨.initial, tidy.orderly⟩
  have hmodels := way.pairwise (fun first second => first.trans second)
    (fun change => MapperState.Change.models change)
  refine ⟨way, fun state hstate => ?_, ?_, ⟨tidy.begun, tidy.ends.staged_eq_nil tidy.begun⟩, ?_⟩
  · have orderly := orderly state hstate
    refine ⟨orderly.staged_begun, fun key h => orderly.cached?_of_begun h,
      fun key model h levels => ?_⟩
    have hmappable := orderly.kept_mappable key (List.mem_map_of_mem (mem_of_lookup h))
    exact answerOnce_of_cached hmappable h _
  · refine hmodels.imp_of_mem fun {earlier later} _ hlater hbefore key model h => ?_
    exact (orderly later hlater).cached?_eq_some_iff.2 (hbefore.subset (mem_of_lookup h))
  · intro demand key cause hkey herror
    rw [perform_of_key? hkey] at herror
    have hrun : mapper.afterAll (demands ++ [demand]) =
        (mapper.answer key (mapper.afterAll demands)).2 := by
      rw [afterAll, List.foldl_append, List.foldl_cons, List.foldl_nil, perform_of_key? hkey,
        run_map_snd]
      rfl
    rw [hrun]
    exact tidy.ends.cached?_of_error (error_of_map herror)

end Mapper

def Declarations.knot : Declarations :=
  .ofList [
    { name := "Left", kind := .interfaceType, interfaces := ["Right"] },
    { name := "Right", kind := .interfaceType, interfaces := ["Left"] },
    { name := "Account", fields := [{ name := "id", type := "i64", metadata := ⟨[.id]⟩ }] }]

/-- The class is staged and kept at a demand for it.  A demand for one of the interfaces begins the
other as well, fails, and keeps nothing of either. -/
theorem Declarations.history_orderly_knot :
    let mapper := Mapper.standard ⟨knot.schema, {}⟩
    (∃ state ∈ mapper.history [.named "Account"] {}, state.staged.map (·.1) = [⟨27⟩]) ∧
    (∃ state ∈ mapper.history [.named "Account", .model ⟨25⟩] {}, state.begun = [⟨26⟩, ⟨25⟩]) ∧
    ((mapper.afterAll [.named "Account"]).cached? ⟨27⟩).isSome ∧
    ((mapper.perform (.model ⟨25⟩)).run (mapper.afterAll [.named "Account"])).1 =
      .error (.cyclicMapping "Left") ∧
    (mapper.afterAll [.named "Account", .model ⟨25⟩]).cached? ⟨25⟩ = none := by
  intro mapper
  have hcyclic : ((mapper.perform (.model ⟨25⟩)).run (mapper.afterAll [.named "Account"])).1 =
      .error (.cyclicMapping "Left") := by
    decide +kernel
  refine ⟨by decide +kernel, by decide +kernel, by decide +kernel, hcyclic, ?_⟩
  exact (Mapper.history_orderly mapper [.named "Account"]).2.2.2.2 (.model ⟨25⟩) ⟨25⟩ _ rfl hcyclic

end ObjectDocument
