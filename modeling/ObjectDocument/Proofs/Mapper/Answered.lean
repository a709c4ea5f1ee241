import ObjectDocument.Proofs.Mapper.Steady
import ObjectDocument.Proofs.OrderedMap

/-!
# How a request is answered

Everything that a request for a model can do, said once (`Answered`): the type has no model, a model
is at hand, the type is begun and not staged, or the model is made from the beginning.  The making
waits for the models that are required, then stages a model, then has it checked, and it can fail
at each of these.

A way of answering requests `Responds` if it keeps states steady, adds only finished models, and
hands out models that are at hand.  Answering once with requests that respond does just what
`Answered` lists (`answered_answerOnce`).
-/

namespace ObjectDocument

def EntityModel.answered (model : EntityModel) : TypeKey × ModelAnswer :=
  (model.typeKey, .ok (some model))

theorem EntityModel.keys_answered (found : List EntityModel) :
    (found.map (·.answered)).map (·.1) = found.map (·.typeKey) := by
  rw [List.map_map]
  rfl

theorem EntityModel.mem_keys_answered {found : List EntityModel} {entry : TypeKey × ModelAnswer}
    (h : entry ∈ found.map (·.answered)) : entry.1 ∈ found.map (·.typeKey) := by
  rw [← keys_answered]
  exact List.mem_map_of_mem h

theorem EntityModel.mem_of_opened {found : List EntityModel} {keys : List TypeKey} {key : TypeKey}
    {answer : ModelAnswer} (opened : found.map (·.typeKey) ++ [key] <+: keys)
    {entry : TypeKey × ModelAnswer} (h : entry ∈ found.map (·.answered) ++ [(key, answer)]) :
    entry.1 ∈ keys := by
  refine opened.subset ?_
  rcases List.mem_append.1 h with h | h
  · exact List.mem_append_left _ (mem_keys_answered h)
  · rw [List.mem_singleton.1 h]
    exact List.mem_append_right _ List.mem_cons_self

/-- What every way of answering requests does in a steady state. -/
structure Responds (context : Context) (request : Request) : Prop where
  steady : ∀ {key state}, Steady context state → Steady context (request key state).2
  grows : ∀ {key state}, Steady context state → Grows state (request key state).2
  model : ∀ {key state model}, Steady context state → (request key state).1 = .ok (some model) →
    (key, model) ∈ (request key state).2.entries
  unmappable : ∀ {key state}, Steady context state → (request key state).1 = .ok none →
    context.schema.isMappable key = false

theorem Responds.outline_of_answer {context : Context} {request : Request} {key : TypeKey}
    {state : MapperState} {model : EntityModel} (responds : Responds context request)
    (steady : Steady context state) (h : (request key state).1 = .ok (some model)) :
    context.outline key = .ok model.contents :=
  ((responds.steady steady).describes _ (responds.model steady h)).outline

namespace Serves

variable {context : Context} {request : Request} {before between after : MapperState}
  {exchange rest : Exchange}

theorem append (first : Serves request before exchange between)
    (second : Serves request between rest after) :
    Serves request before (exchange ++ rest) after := by
  induction first with
  | nil => exact second
  | write record _ ih => exact .write record (ih second)
  | ask key _ ih => exact .ask key (ih second)

theorem steady (responds : Responds context request) (h : Serves request before exchange after)
    (hbefore : Steady context before) : Steady context after :=
  h.preserves (Steady context) (fun record _ steady => steady.write record)
    (fun _ _ _ steady _ => responds.steady steady) hbefore

/-- A state on the way of an exchange: steady, and grown since the start. -/
theorem on_way (responds : Responds context request) (before : MapperState) :
    (∀ record state, (Steady context state ∧ Grows before state) →
      Steady context (state.write record) ∧ Grows before (state.write record)) ∧
    ∀ key state, (Steady context state ∧ Grows before state) →
      Steady context (request key state).2 ∧ Grows before (request key state).2 :=
  ⟨fun record _ h => ⟨h.1.write record, h.2.trans (.write record _)⟩,
    fun _ _ h => ⟨responds.steady h.1, h.2.trans (responds.grows h.1)⟩⟩

theorem grows (responds : Responds context request) (h : Serves request before exchange after)
    (hbefore : Steady context before) : Grows before after :=
  have ⟨keep_write, keep_answer⟩ := on_way responds before
  (h.preserves _ keep_write (fun entry _ state h _ => keep_answer entry.1 state h)
    ⟨hbefore, .refl before⟩).2

/-- Every answer of an exchange was given in a steady state, between the first and the last. -/
theorem exists_answer (responds : Responds context request)
    (h : Serves request before exchange after) (hbefore : Steady context before) {key : TypeKey}
    {answer : ModelAnswer} (hmem : (key, answer) ∈ exchange) :
    ∃ state, Steady context state ∧ Grows before state ∧ (request key state).1 = answer ∧
      Grows (request key state).2 after := by
  have ⟨keep_write, keep_answer⟩ := on_way responds before
  obtain ⟨first, rest, rfl⟩ := List.append_of_mem hmem
  obtain ⟨state, ⟨steady, grows⟩, hanswer, hrest⟩ :=
    exists_at _ keep_write (fun entry _ state h _ => keep_answer entry.1 state h) h
      ⟨hbefore, .refl before⟩
  exact ⟨state, steady, grows, hanswer, hrest.grows responds (responds.steady steady)⟩

theorem mem_entries (responds : Responds context request)
    (h : Serves request before exchange after) (hbefore : Steady context before) {key : TypeKey}
    {model : EntityModel} (hmem : (key, .ok (some model)) ∈ exchange) :
    (key, model) ∈ after.entries := by
  obtain ⟨state, steady, -, hanswer, grows⟩ := h.exists_answer responds hbefore hmem
  exact grows.entries_subset (responds.model steady hanswer)

/-- Where in an exchange a model was found for a type, among those before it. -/
theorem exists_found {found : List EntityModel} {earlier : List TypeKey} {key : TypeKey}
    (hfound : earlier ++ [key] <+: found.map (·.typeKey))
    (h : Serves request before (found.map (·.answered) ++ rest) after) :
    ∃ (first : List EntityModel) (model : EntityModel) (later : Exchange),
      first.map (·.typeKey) = earlier ∧
      Serves request before (first.map (·.answered) ++ (key, .ok (some model)) :: later) after := by
  obtain ⟨later, hfound⟩ := hfound
  rw [List.append_assoc, List.singleton_append] at hfound
  obtain ⟨first, others, rfl, hfirst, hothers⟩ := List.map_eq_append_iff.1 hfound.symm
  obtain ⟨model, others, rfl, rfl, -⟩ := List.map_eq_cons_iff.1 hothers
  rw [List.map_append, List.map_cons, List.append_assoc, List.cons_append] at h
  exact ⟨first, model, _, hfirst, h⟩

theorem exists_models (responds : Responds context request)
    (h : Serves request before exchange after) (hbefore : Steady context before)
    (found : List (TypeKey × Option EntityModel))
    (hfound : ∀ entry ∈ found, (entry.1, .ok entry.2) ∈ exchange)
    (hmappable : ∀ entry ∈ found, context.schema.isMappable entry.1) :
    ∃ models : List EntityModel, found = models.map fun model => (model.typeKey, some model) := by
  induction found with
  | nil => exact ⟨[], rfl⟩
  | cons entry found ih =>
      obtain ⟨models, rfl⟩ := ih (fun entry h => hfound entry (List.mem_cons_of_mem _ h))
        fun entry h => hmappable entry (List.mem_cons_of_mem _ h)
      have hmem := hfound entry List.mem_cons_self
      obtain ⟨key, _ | model⟩ := entry
      · obtain ⟨state, steady, -, hanswer, -⟩ := h.exists_answer responds hbefore hmem
        have hnot := responds.unmappable steady hanswer
        rw [hmappable _ List.mem_cons_self] at hnot
        cases hnot
      · have htype := ((h.steady responds hbefore).describes _
          (h.mem_entries responds hbefore hmem)).typeKey
        exact ⟨model :: models, by rw [List.map_cons, htype]⟩

end Serves

/-- The model is made, up to being staged: its type is begun, everything that is required is there,
and the model has the next number. -/
structure Stages (context : Context) (request : Request) (key : TypeKey)
    (state before : MapperState) (model : EntityModel) : Prop where
  describes : context.Describes key model
  served : ∃ found : List EntityModel, found.map (·.typeKey) = context.schema.required key ∧
    model.links = found.map (·.link) ∧
    Serves request (state.begin key) (found.map (·.answered)) before
  serial : model.serial = before.serial

/-- What a request for a model is answered, and what it leaves. -/
inductive Answered (context : Context) (request : Request) (key : TypeKey)
    (state : MapperState) : ModelAnswer → MapperState → Prop where
  | unmappable (h : context.schema.isMappable key = false) :
      Answered context request key state (.ok none) state
  | known {model} (h : (key, model) ∈ state.entries) :
      Answered context request key state (.ok (some model)) state
  | cyclic (mappable : context.schema.isMappable key) (begun : key ∈ state.begun)
      (unstaged : key ∉ state.staged.map (·.1)) :
      Answered context request key state (.error (.cyclicMapping (context.schema.name key))) state
  | waited {found : List EntityModel} {other cause after}
      (begins : Steady context (state.begin key))
      (opened : found.map (·.typeKey) ++ [other] <+: context.schema.required key)
      (served : Serves request (state.begin key)
        (found.map (·.answered) ++ [(other, .error cause)]) after) :
      Answered context request key state (.error cause) (after.finish key)
  | unmade {found : List EntityModel} {cause after} (begins : Steady context (state.begin key))
      (required : found.map (·.typeKey) = context.schema.required key)
      (served : Serves request (state.begin key) (found.map (·.answered)) after)
      (outline : context.outline key = .error cause) :
      Answered context request key state (.error cause) (after.finish key)
  | refused {model failure before exchange after} (begins : Steady context (state.begin key))
      (stages : Stages context request key state before model)
      (served : Serves request (before.enter model) exchange after)
      (asked : exchange.map (·.1) = model.foreignReferences)
      (rejects : ¬model.Accepts context exchange) :
      Answered context request key state (.error (.validation failure)) (after.finish key)
  | made {model before exchange after} (begins : Steady context (state.begin key))
      (stages : Stages context request key state before model)
      (served : Serves request (before.enter model) exchange after)
      (asked : exchange.map (·.1) = model.foreignReferences)
      (accepts : model.Accepts context exchange) (record : LogRecord) :
      Answered context request key state (.ok (some model))
        (((after.finish key).keep key model).write record)

/-! ### Running the steps of a mapper -/

theorem StateM.bind_apply {σ α β : Type} {first : StateM σ α} {next : α → StateM σ β}
    {before after : σ} {a : α} (h : first before = (a, after)) :
    (first >>= next) before = next a after := by
  change StateT.bind first _ before = _
  unfold StateT.bind
  rw [h]
  rfl

namespace MapperM

variable {α β : Type} {first : MapperM α} {next : α → MapperM β} {before after : MapperState}

theorem run_bind_ok {a : α} (h : first.run before = (.ok a, after)) :
    (first >>= next).run before = (next a).run after := by
  rw [ExceptT.run_bind, StateM.bind_apply h]

theorem run_bind_error {cause : MappingError} (h : first.run before = (.error cause, after)) :
    (first >>= next).run before = (.error cause, after) := by
  rw [ExceptT.run_bind, StateM.bind_apply h]
  rfl

end MapperM

namespace Mapper

variable {mapper : Mapper} {request : Request} {key : TypeKey} {state before after : MapperState}

theorem makeAndKeep_ok {model : EntityModel}
    (h : (mapper.make request key).run (state.begin key) = (.ok model, after)) :
    mapper.makeAndKeep request key state =
      (.ok (some model), ((after.finish key).keep key model).write (keptRecord model)) := by
  have hbegin : (modify (MapperState.begin key) : StateM MapperState PUnit) state =
      ((), state.begin key) := rfl
  rw [makeAndKeep, StateM.bind_apply hbegin, StateM.bind_apply h]
  rfl

theorem makeAndKeep_error {cause : MappingError}
    (h : (mapper.make request key).run (state.begin key) = (.error cause, after)) :
    mapper.makeAndKeep request key state = (.error cause, after.finish key) := by
  have hbegin : (modify (MapperState.begin key) : StateM MapperState PUnit) state =
      ((), state.begin key) := rfl
  rw [makeAndKeep, StateM.bind_apply hbegin, StateM.bind_apply h]
  rfl

/-- What follows the completing of a draft: the model is numbered, staged and checked. -/
theorem build_made {draft : ModelDraft} {made : EntityModel}
    (h : (mapper.complete draft).run.answer request state = (.ok made, before)) :
    (mapper.build request draft).run state =
      ((mapper.options.validator.check mapper.context
        { made with serial := before.serial }).answer request >>= fun _ =>
          pure { made with serial := before.serial } : MapperM EntityModel).run
        (MapperState.stage { made with serial := before.serial }
          { before with serial := before.serial + 1 }) := by
  have h' : ((mapper.complete draft).answer request).run state = (.ok made, before) := h
  rw [build, MapperM.run_bind_ok h']
  rfl

/-- Whether a request makes a model: its type is mappable, and its model neither kept nor begun. -/
def Begins (mapper : Mapper) (key : TypeKey) (state : MapperState) : Prop :=
  mapper.schema.isMappable key ∧ state.cached? key = none ∧ key ∉ state.begun

instance (mapper : Mapper) (key : TypeKey) (state : MapperState) :
    Decidable (mapper.Begins key state) :=
  inferInstanceAs (Decidable (_ ∧ _ ∧ _))

inductive Standing (mapper : Mapper) (key : TypeKey) (state : MapperState) :
    ModelAnswer → Prop where
  | unmappable (hmappable : ¬mapper.schema.isMappable key) : Standing mapper key state (.ok none)
  | kept {model} (hmappable : mapper.schema.isMappable key)
      (hcached : state.cached? key = some model) : Standing mapper key state (.ok (some model))
  | staged {model} (hmappable : mapper.schema.isMappable key)
      (hcached : state.cached? key = none) (hbegun : key ∈ state.begun)
      (hstaged : state.staged.lookup key = some model) :
      Standing mapper key state (.ok (some model))
  | cyclic (hmappable : mapper.schema.isMappable key) (hcached : state.cached? key = none)
      (hbegun : key ∈ state.begun) (hstaged : state.staged.lookup key = none) :
      Standing mapper key state (.error (.cyclicMapping (mapper.schema.name key)))

theorem Standing.not_begins {answer : ModelAnswer} (h : mapper.Standing key state answer) :
    ¬mapper.Begins key state := by
  rintro ⟨hmappable, hcached, hbegun⟩
  cases h with
  | unmappable h => exact h hmappable
  | kept _ h => simp [h] at hcached
  | staged _ _ h => exact hbegun h
  | cyclic _ _ h => exact hbegun h

/-- A request is answered at once, and changes nothing, or it makes a model. -/
theorem answerOnce_cases (mapper : Mapper) (key : TypeKey) (state : MapperState) :
    (∃ answer, mapper.Standing key state answer ∧
      ∀ request, mapper.answerOnce request key state = (answer, state)) ∨
    mapper.Begins key state ∧
      ∀ request, mapper.answerOnce request key state = mapper.makeAndKeep request key state := by
  have hget : (get : StateM MapperState MapperState) state = (state, state) := rfl
  unfold answerOnce
  by_cases hmappable : mapper.schema.isMappable key
  · simp only [if_pos hmappable, StateM.bind_apply hget]
    cases hcached : state.cached? key with
    | some model => exact .inl ⟨_, .kept hmappable hcached, fun _ => rfl⟩
    | none =>
        by_cases hbegun : key ∈ state.begun
        · simp only [if_pos hbegun]
          cases hstaged : state.staged.lookup key with
          | some model => exact .inl ⟨_, .staged hmappable hcached hbegun hstaged, fun _ => rfl⟩
          | none => exact .inl ⟨_, .cyclic hmappable hcached hbegun hstaged, fun _ => rfl⟩
        · simp only [if_neg hbegun]
          exact .inr ⟨⟨hmappable, hcached, hbegun⟩, fun _ => trivial⟩
  · simp only [if_neg hmappable]
    exact .inl ⟨_, .unmappable hmappable, fun _ => rfl⟩

theorem answerOnce_of_cached {model : EntityModel} (hmappable : mapper.schema.isMappable key)
    (hcached : state.cached? key = some model) (request : Request) :
    mapper.answerOnce request key state = (.ok (some model), state) := by
  rcases mapper.answerOnce_cases key state with ⟨answer, standing, hanswer⟩ | ⟨⟨-, hnone, -⟩, -⟩
  · rw [hanswer]
    cases standing with
    | unmappable h => exact absurd hmappable h
    | kept _ h =>
        rw [hcached] at h
        cases h
        rfl
    | staged _ h => simp [hcached] at h
    | cyclic _ h => simp [hcached] at h
  · simp [hcached] at hnone

end Mapper

theorem MapperState.stage_eq_enter (state : MapperState) (model : EntityModel)
    (hbegun : model.typeKey ∈ state.begun) (hstaged : model.typeKey ∉ state.staged.map (·.1)) :
    MapperState.stage model { state with serial := state.serial + 1 } = state.enter model := by
  rw [stage, if_pos hbegun, OrderedMap.insert_of_notMem hstaged]
  rfl

section

variable {context : Context} {request : Request} {key : TypeKey} {state : MapperState}

/-- The model of an outline, a serial number and the models that are required is one of its type. -/
theorem Context.describes_withLinks {outline : EntityModel} {up across : List EntityModel}
    (serial : Nat) (hmappable : context.schema.isMappable key) (hkey : outline.typeKey = key)
    (houtline : context.outline key = .ok outline)
    (hup : up.map (·.typeKey) = context.schema.parents key)
    (hacross : across.map (·.typeKey) = context.schema.allInterfaces key)
    (founded : ∀ model ∈ up ++ across, context.schema.Founded model.typeKey) :
    context.Describes key { outline.withLinks up.head? across with serial } ∧
      EntityModel.links { outline.withLinks up.head? across with serial } =
        (up ++ across).map (·.link) := by
  have hlength : up.length ≤ 1 := by
    rw [← List.length_map (f := (·.typeKey)), hup]
    exact List.length_take_le _ _
  have hhead : (up.head?.map EntityModel.link).toList = up.map (·.link) := by
    match up, hlength with
    | [], _ => rfl
    | [_], _ => rfl
  refine ⟨⟨hmappable, ?_, hkey, ?_, ?_, ?_⟩, ?_⟩
  · refine Acc.intro key fun other hother => ?_
    rw [Schema.required, ← hup, ← hacross, ← List.map_append] at hother
    obtain ⟨model, hmodel, rfl⟩ := List.mem_map.1 hother
    exact founded model hmodel
  · rw [houtline, ← Context.contents_outline houtline]
    rfl
  · rw [← hup]
    change (up.head?.map EntityModel.link).toList.map (·.key) = _
    rw [hhead, List.map_map]
    rfl
  · rw [← hacross]
    change (across.map EntityModel.link).map (·.key) = _
    rw [List.map_map]
    rfl
  · change (up.head?.map EntityModel.link).toList ++ across.map EntityModel.link = _
    rw [hhead, List.map_append]

/-- The end of the making of a model, after it is staged. -/
theorem answered_of_stages (begins : Steady context (state.begin key)) {before : MapperState}
    {model : EntityModel} (stages : Stages context request key state before model)
    (hmake : ((Mapper.standard context).make request key).run (state.begin key) =
      ((Validator.standard.check context model).answer request >>= fun _ =>
        pure model : MapperM EntityModel).run (before.enter model)) :
    Answered context request key state
      ((Mapper.standard context).makeAndKeep request key state).1
      ((Mapper.standard context).makeAndKeep request key state).2 := by
  obtain ⟨exchange, hchecks, hserves⟩ := Serves.exists_yields_serves request
    (Validator.standard.check context model).run (before.enter model)
  cases hcheck : (Validator.standard.check context model).run.answer request
    (before.enter model) with
  | mk outcome after =>
  rw [hcheck] at hchecks hserves
  obtain ⟨asked, ⟨rfl, accepts⟩ | ⟨⟨failure, rfl⟩, rejects⟩⟩ := EntityModel.yields_check hchecks
  · rw [Mapper.makeAndKeep_ok (hmake.trans (MapperM.run_bind_ok hcheck))]
    exact .made begins stages hserves asked accepts _
  · rw [Mapper.makeAndKeep_error (hmake.trans (MapperM.run_bind_error hcheck))]
    exact .refused begins stages hserves asked rejects

/-- The making of a model when everything that is required is there. -/
theorem answered_of_required (responds : Responds context request)
    (begins : Steady context (state.begin key)) (hstaged : key ∉ state.staged.map (·.1))
    {node : TypeNode} (hnode : context.schema.node? key = some node) (hkey : node.key = key)
    {up across : List EntityModel} (hup : up.map (·.typeKey) = context.schema.parents key)
    (hacross : across.map (·.typeKey) = context.schema.allInterfaces key) {between : MapperState}
    (hserves : Serves request (state.begin key) ((up ++ across).map (·.answered)) between)
    (hstart : (ModelDraft.start context key).run.answer request (state.begin key) =
      (.ok (.ofNode context.schema node up.head? across), between)) :
    Answered context request key state
      ((Mapper.standard context).makeAndKeep request key state).1
      ((Mapper.standard context).makeAndKeep request key state).2 := by
  have hrequired : (up ++ across).map (·.typeKey) = context.schema.required key := by
    rw [List.map_append, hup, hacross]
    rfl
  obtain ⟨exchange, hcompletes, hsettles⟩ := Serves.exists_yields_serves request
    ((Mapper.standard context).complete (.ofNode context.schema node up.head? across)).run between
  cases hcomplete : ((Mapper.standard context).complete
    (.ofNode context.schema node up.head? across)).run.answer request between with
  | mk outcome before =>
  rw [hcomplete] at hcompletes hsettles
  obtain ⟨rfl, rfl⟩ := Mapper.yields_complete hcompletes
  rw [Context.outcome_ofNode hnode] at hcomplete
  have hserved : Serves request (state.begin key) ((up ++ across).map (·.answered)) before := by
    simpa using hserves.append hsettles
  have hmake : ((Mapper.standard context).make request key).run (state.begin key) =
      ((Mapper.standard context).build request (.ofNode context.schema node up.head? across)).run
        between := MapperM.run_bind_ok hstart
  cases houtline : context.outline key with
  | error cause =>
      rw [houtline] at hcomplete
      have hbuild : ((Mapper.standard context).build request
          (.ofNode context.schema node up.head? across)).run between = (.error cause, before) :=
        MapperM.run_bind_error hcomplete
      rw [Mapper.makeAndKeep_error (hmake.trans hbuild)]
      exact .unmade begins hrequired hserved houtline
  | ok outline =>
      rw [houtline] at hcomplete
      have steady := hserved.steady responds begins
      have grows := hserved.grows responds begins
      have htype : outline.typeKey = key := (Context.typeKey_outline hnode houtline).trans hkey
      obtain ⟨describes, hlinks⟩ := Context.describes_withLinks before.serial
        (begins.begun_mappable key List.mem_cons_self) htype houtline hup hacross fun model h =>
          (steady.describes _ (hserved.mem_entries responds begins
            (List.mem_map_of_mem h))).founded
      have hbegun : key ∈ before.begun := grows.begun ▸ List.mem_cons_self
      have hstages : Stages context request key state before
          { outline.withLinks up.head? across with serial := before.serial } :=
        ⟨describes, ⟨up ++ across, hrequired, hlinks, hserved⟩, rfl⟩
      have henter := MapperState.stage_eq_enter before
        { outline.withLinks up.head? across with serial := before.serial }
        (by rwa [describes.typeKey]) (by rwa [describes.typeKey, grows.staged])
      have hbuild := Mapper.build_made hcomplete
      refine answered_of_stages begins hstages (hmake.trans (hbuild.trans ?_))
      rw [← henter]
      rfl

/-- The making of a model that is neither kept nor begun. -/
theorem answered_makeAndKeep (coherent : context.schema.Coherent)
    (responds : Responds context request) (begins : Steady context (state.begin key))
    (hstaged : key ∉ state.staged.map (·.1)) :
    Answered context request key state
      ((Mapper.standard context).makeAndKeep request key state).1
      ((Mapper.standard context).makeAndKeep request key state).2 := by
  have hmappable := begins.begun_mappable key List.mem_cons_self
  obtain ⟨node, hnode⟩ := Schema.exists_node_of_isMappable hmappable
  obtain ⟨exchange, hyields, hserves⟩ := Serves.exists_yields_serves request
    (ModelDraft.start context key).run (state.begin key)
  cases hstart : (ModelDraft.start context key).run.answer request (state.begin key) with
  | mk outcome between =>
  rw [hstart] at hyields hserves
  rcases ModelDraft.yields_start hnode (coherent.key_eq hnode) hmappable hyields with
    ⟨up, across, hup, hacross, rfl, rfl⟩ | ⟨found, other, cause, hopened, rfl, rfl⟩
  · -- Everything that is required was answered by models.
    have hmap {found : List (TypeKey × Option EntityModel)} (h : found ⊆ up ++ across) :
        ∃ models : List EntityModel,
          found = models.map fun model => (model.typeKey, some model) := by
      refine hserves.exists_models responds begins found
        (fun entry hentry => List.mem_map_of_mem (h hentry)) fun entry hentry => ?_
      have hrequired : entry.1 ∈ context.schema.required key := by
        rw [Schema.required, ← hup, ← hacross, ← List.map_append]
        exact List.mem_map_of_mem (h hentry)
      exact coherent.required_mappable hrequired
    obtain ⟨superclasses, rfl⟩ := hmap (List.subset_append_left _ _)
    obtain ⟨interfaceModels, rfl⟩ := hmap (List.subset_append_right _ _)
    rw [List.map_map] at hup hacross
    rw [← List.map_append, List.map_map] at hserves
    refine answered_of_required responds begins hstaged hnode (coherent.key_eq hnode) hup hacross
      hserves (hstart.trans ?_)
    simp only [List.map_map, List.filterMap_map, List.head?_map]
    cases superclasses <;> simp [Function.comp_def]
  · have hmake : ((Mapper.standard context).make request key).run (state.begin key) =
        (.error cause, between) := MapperM.run_bind_error hstart
    rw [Mapper.makeAndKeep_error hmake]
    obtain ⟨models, rfl⟩ := hserves.exists_models responds begins found
      (fun entry h => List.mem_append_left _ (List.mem_map_of_mem h)) fun entry h =>
        coherent.required_mappable (hopened.subset
          (List.mem_append_left _ (List.mem_map_of_mem h)))
    simp only [List.map_map, Function.comp_def] at hopened hserves
    exact .waited begins hopened hserves

theorem mem_of_lookup {entries : List (TypeKey × EntityModel)} {model : EntityModel}
    (h : entries.lookup key = some model) : (key, model) ∈ entries := by
  obtain ⟨before, after, rfl, -⟩ := List.lookup_eq_some_iff.1 h
  simp

theorem notMem_of_lookup {entries : List (TypeKey × EntityModel)}
    (h : entries.lookup key = none) : key ∉ entries.map (·.1) := by
  intro hmem
  obtain ⟨entry, hentry, rfl⟩ := List.mem_map.1 hmem
  simpa using List.lookup_eq_none_iff.1 h entry hentry

theorem lookup_eq_some_iff_mem {entries : List (TypeKey × EntityModel)} {model : EntityModel}
    (hnodup : (entries.map (·.1)).Nodup) :
    entries.lookup key = some model ↔ (key, model) ∈ entries := by
  refine ⟨mem_of_lookup, fun h => ?_⟩
  cases hfound : entries.lookup key with
  | none => exact absurd (List.mem_map_of_mem h) (notMem_of_lookup hfound)
  | some other =>
      have heq : (key, other) = (key, model) :=
        List.inj_on_of_nodup_map hnodup (mem_of_lookup hfound) h rfl
      cases heq
      rfl

/-- What a request does is one of what is listed. -/
theorem answered_answerOnce (coherent : context.schema.Coherent)
    (responds : Responds context request) (key : TypeKey) (steady : Steady context state) :
    Answered context request key state
      ((Mapper.standard context).answerOnce request key state).1
      ((Mapper.standard context).answerOnce request key state).2 := by
  rcases (Mapper.standard context).answerOnce_cases key state with
    ⟨answer, standing, hanswer⟩ | ⟨⟨hmappable, hcached, hbegun⟩, hmakes⟩
  · rw [hanswer]
    cases standing with
    | unmappable h => exact .unmappable (eq_false_of_ne_true h)
    | kept _ hcached => exact .known (List.mem_append_left _ (mem_of_lookup hcached))
    | staged _ _ _ hstaged => exact .known (List.mem_append_right _ (mem_of_lookup hstaged))
    | cyclic hmappable _ hbegun hstaged =>
        exact .cyclic hmappable hbegun (notMem_of_lookup hstaged)
  · rw [hmakes]
    refine answered_makeAndKeep coherent responds
      (steady.begin hmappable hbegun (notMem_of_lookup hcached)) fun hstaged => hbegun ?_
    obtain ⟨entry, hentry, rfl⟩ := List.mem_map.1 hstaged
    exact steady.staged_begun entry hentry

end

end ObjectDocument
