import ObjectDocument.Options

/-!
# The mapper

A mapper makes the entity model of a type when it is first asked for, and keeps it.  Making a model
asks for others: those of its superclass and interfaces before it is made, and those of the types
that it refers to while it is checked.  Types may refer to each other, so a model is staged before
it is checked, and a request for a model that is staged is answered by it.  A request for a model
that is begun and not staged is an error.

A type is begun before anything else is asked for, so the types of nested requests differ, and there
are no more of them than types in the schema.  `request` is therefore given as many levels of
nesting as that and one more (`entityModel`), of which the last is never reached.
-/

namespace ObjectDocument

structure MapperState where
  /-- The models that are finished, in the order of their finishing. -/
  models : List (TypeKey × EntityModel) := []
  /-- The types whose models are begun and not finished. -/
  begun : List TypeKey := []
  /-- The models that are made and not checked yet. -/
  staged : List (TypeKey × EntityModel) := []
  /-- The number of models made so far. -/
  serial : Nat := 0
  /-- What was told, in order. -/
  journal : List LogRecord := []
deriving Repr

namespace MapperState

def cached? (state : MapperState) (key : TypeKey) : Option EntityModel :=
  state.models.lookup key

def follow? (state : MapperState) (link : ModelLink) : Option EntityModel :=
  ((state.cached? link.key).or (state.staged.lookup link.key)).filter (·.serial = link.serial)

def write (record : LogRecord) (state : MapperState) : MapperState :=
  { state with journal := state.journal ++ [record] }

def begin (key : TypeKey) (state : MapperState) : MapperState :=
  { state with begun := key :: state.begun }

def number (model : EntityModel) (state : MapperState) : EntityModel × MapperState :=
  ({ model with serial := state.serial }, { state with serial := state.serial + 1 })

def stage (model : EntityModel) (state : MapperState) : MapperState :=
  if model.typeKey ∈ state.begun then
    { state with staged := OrderedMap.insert model.typeKey model state.staged }
  else state

def finish (key : TypeKey) (state : MapperState) : MapperState :=
  { state with
    begun := state.begun.filter (· ≠ key)
    staged := state.staged.filter (·.1 ≠ key) }

def keep (key : TypeKey) (model : EntityModel) (state : MapperState) : MapperState :=
  { state with models := state.models ++ [(key, model)] }

end MapperState

abbrev MapperM := ExceptT MappingError (StateM MapperState)

abbrev Request := TypeKey → StateM MapperState ModelAnswer

def Consult.answer {α : Type} (consult : Consult α) (request : Request) : StateM MapperState α :=
  consult.run MapperState.write request

def ConsultM.answer {α : Type} (consult : ConsultM α) (request : Request) : MapperM α :=
  ExceptT.mk (Consult.answer consult.run request)

structure Mapper where
  schema : Schema
  options : MapperOptions

namespace Mapper

def context (mapper : Mapper) : Context :=
  ⟨mapper.schema, mapper.options.toSettings⟩

def complete (mapper : Mapper) (draft : ModelDraft) : ConsultM EntityModel := do
  let (outcome, draft) ← ExceptT.lift
    ((Convention.applyAll mapper.context mapper.options.conventions).run.run draft)
  match outcome with
  | .ok _ => draft.finish mapper.context
  | .error cause => throw cause

/-- Makes the model of a draft: it is completed, staged and checked. -/
def build (mapper : Mapper) (request : Request) (draft : ModelDraft) : MapperM EntityModel := do
  let made ← (mapper.complete draft).answer request
  let model ← modifyGet (MapperState.number made)
  modify (MapperState.stage model)
  (mapper.options.validator.check mapper.context model).answer request
  return model

def make (mapper : Mapper) (request : Request) (key : TypeKey) : MapperM EntityModel := do
  let draft ← (ModelDraft.start mapper.context key).answer request
  mapper.build request draft

def keptRecord (model : EntityModel) : LogRecord :=
  ⟨.debug, "mapped " ++ model.name ++ " to collection " ++ model.collection ++ " with " ++
    toString model.properties.length ++ " properties"⟩

def makeAndKeep (mapper : Mapper) (request : Request) : Request := fun key => do
  modify (MapperState.begin key)
  let made ← (mapper.make request key).run
  modify (MapperState.finish key)
  match made with
  | .ok model =>
    modify (MapperState.keep key model)
    modify (MapperState.write (keptRecord model))
    return .ok (some model)
  | .error cause => return .error cause

/-- Answers a request for a model, given a way of answering the requests that come up meanwhile. -/
def answerOnce (mapper : Mapper) (request : Request) : Request := fun key => do
  if mapper.schema.isMappable key then
    let state ← get
    match state.cached? key with
    | some model => return .ok (some model)
    | none =>
      if key ∈ state.begun then
        match state.staged.lookup key with
        | some model => return .ok (some model)
        | none => return .error (.cyclicMapping (mapper.schema.name key))
      else mapper.makeAndKeep request key
  else return .ok none

def request (mapper : Mapper) : Nat → Request
  | 0 => fun key => return .error (.cyclicMapping (mapper.schema.name key))
  | levels + 1 => mapper.answerOnce (mapper.request levels)

/-- The levels of nesting that no request exceeds. -/
def levels (mapper : Mapper) : Nat :=
  mapper.schema.size + 1

def answer (mapper : Mapper) : Request :=
  mapper.request mapper.levels

/-- The model of a type, or none if the type is not mappable. -/
def entityModel (mapper : Mapper) (key : TypeKey) : MapperM (Option EntityModel) :=
  ExceptT.mk (mapper.answer key)

def entityModelByName (mapper : Mapper) (name : String) : MapperM (Option EntityModel) :=
  match mapper.schema.lookup? name with
  | some key => mapper.entityModel key
  | none => throw (.notFound ("type " ++ name))

def entityModelOf (mapper : Mapper) (name : String) : MapperM EntityModel := do
  match ← mapper.entityModelByName name with
  | some model => return model
  | none => throw (.notFound ("entity model of " ++ name))

/-- The models of every mappable type, in the order of their keys. -/
def mapAll (mapper : Mapper) : MapperM (List EntityModel) := do
  let keys := (mapper.schema.nodes.map (·.key)).filter mapper.schema.isMappable
  let models ← keys.mapM mapper.entityModel
  return models.filterMap id

def consult {α : Type} (mapper : Mapper) (consult : ConsultM α) : MapperM α :=
  consult.answer mapper.answer

end Mapper

end ObjectDocument
