import ObjectDocument.Proofs.Mapper.Answered

/-!
# The course of a request

The state that a request leaves says little of what a mapper went through on the way.  The course of
a request lists every state on the way, in order: each is one change after the one before, and the
last is the state that the request leaves (`Mapper.way_request`).  A request that comes up in the
making of a model has its own course within that of the making, so a state of the course may lie at
any depth of nested requests.

Nothing is assumed of conventions and rules here but that they are consultations.
-/

namespace ObjectDocument

/-- One change of what a mapper remembers. -/
inductive MapperState.Change (state : MapperState) : MapperState → Prop where
  | write (record : LogRecord) : Change state (state.write record)
  | begin (key : TypeKey) : Change state (state.begin key)
  | number (model : EntityModel) : Change state (state.number model).2
  | stage (model : EntityModel) : Change state (state.stage model)
  | finish (key : TypeKey) : Change state (state.finish key)
  | keep (key : TypeKey) (model : EntityModel) : Change state (state.keep key model)

/-- The states lead from the one to the other, each by one change of the one before. -/
inductive Way : MapperState → List MapperState → MapperState → Prop where
  | nil (state) : Way state [] state
  | cons {before next states after} (change : MapperState.Change before next)
      (rest : Way next states after) : Way before (next :: states) after

theorem Way.append {before between after : MapperState} {first second : List MapperState}
    (hfirst : Way before first between) (hsecond : Way between second after) :
    Way before (first ++ second) after := by
  induction hfirst with
  | nil => exact hsecond
  | cons change _ ih => exact .cons change (ih hsecond)

theorem Way.getLast {before after : MapperState} {states : List MapperState}
    (h : Way before states after) :
    (before :: states).getLast (List.cons_ne_nil _ _) = after := by
  induction h with
  | nil => rfl
  | cons _ _ ih => rw [List.getLast_cons (List.cons_ne_nil _ _), ih]

/-- A relation of states that every change keeps to holds from each state of a way to all that
follow. -/
theorem Way.pairwise {before after : MapperState} {states : List MapperState}
    {related : MapperState → MapperState → Prop}
    (trans : ∀ {first second third}, related first second → related second third →
      related first third)
    (change : ∀ {state next}, MapperState.Change state next → related state next)
    (h : Way before states after) : (before :: states).Pairwise related := by
  induction h with
  | nil => exact List.pairwise_singleton _ _
  | cons step _ ih =>
      have hrest := List.pairwise_cons.1 ih
      refine List.pairwise_cons.2 ⟨List.forall_mem_cons.2 ⟨change step, fun state h => ?_⟩, ih⟩
      exact trans (change step) (hrest.1 state h)

abbrev Course := TypeKey → MapperState → List MapperState

namespace Consult

variable {α : Type}

def course (request : Request) (within : Course) : Consult α → MapperState → List MapperState
  | done _, _ => []
  | note record next, state =>
    state.write record :: next.course request within (state.write record)
  | ask key resume, state =>
    within key state ++
      (resume (request key state).1).course request within (request key state).2

theorem way {request : Request} {within : Course}
    (hwithin : ∀ key state, Way state (within key state) (request key state).2)
    (consult : Consult α) (state : MapperState) :
    Way state (consult.course request within state) (consult.answer request state).2 := by
  induction consult generalizing state with
  | done value => exact .nil state
  | note record next ih => exact .cons (.write record) (ih (state.write record))
  | ask key resume ih => exact (hwithin key state).append (ih _ _)

end Consult

namespace Mapper

def buildCourse (mapper : Mapper) (request : Request) (within : Course) (draft : ModelDraft)
    (state : MapperState) : List MapperState :=
  (mapper.complete draft).run.course request within state ++
    match (mapper.complete draft).run.answer request state with
    | (.ok made, completed) =>
      let (model, numbered) := completed.number made
      let staged := numbered.stage model
      numbered :: staged ::
        (mapper.options.validator.check mapper.context model).run.course request within staged
    | (.error _, _) => []

def makeCourse (mapper : Mapper) (request : Request) (within : Course) (key : TypeKey)
    (state : MapperState) : List MapperState :=
  (ModelDraft.start mapper.context key).run.course request within state ++
    match (ModelDraft.start mapper.context key).run.answer request state with
    | (.ok draft, started) => mapper.buildCourse request within draft started
    | (.error _, _) => []

def makeAndKeepCourse (mapper : Mapper) (request : Request) (within : Course) : Course :=
  fun key state =>
    state.begin key :: mapper.makeCourse request within key (state.begin key) ++
      match (mapper.make request key).run (state.begin key) with
      | (.ok model, made) =>
        let kept := (made.finish key).keep key model
        [made.finish key, kept, kept.write (keptRecord model)]
      | (.error _, made) => [made.finish key]

def requestCourse (mapper : Mapper) : Nat → Course
  | 0, _, _ => []
  | levels + 1, key, state =>
    if mapper.Begins key state then
      mapper.makeAndKeepCourse (mapper.request levels) (mapper.requestCourse levels) key state
    else []

def course (mapper : Mapper) : Course :=
  mapper.requestCourse mapper.levels

section

variable {mapper : Mapper} {request : Request} {key : TypeKey} {state : MapperState}

theorem build_error {draft : ModelDraft} {cause : MappingError} {before : MapperState}
    (h : (mapper.complete draft).run.answer request state = (.error cause, before)) :
    (mapper.build request draft).run state = (.error cause, before) :=
  MapperM.run_bind_error h

theorem make_ok {draft : ModelDraft} {started : MapperState}
    (h : (ModelDraft.start mapper.context key).run.answer request state = (.ok draft, started)) :
    (mapper.make request key).run state = (mapper.build request draft).run started :=
  MapperM.run_bind_ok h

theorem make_error {cause : MappingError} {started : MapperState}
    (h : (ModelDraft.start mapper.context key).run.answer request state =
      (.error cause, started)) :
    (mapper.make request key).run state = (.error cause, started) :=
  MapperM.run_bind_error h

theorem run_check_bind (model : EntityModel) (staged : MapperState) :
    ((mapper.options.validator.check mapper.context model).answer request >>= fun _ =>
      pure model : MapperM EntityModel).run staged =
      (((mapper.options.validator.check mapper.context model).run.answer request staged).1.map
        fun _ => model,
        ((mapper.options.validator.check mapper.context model).run.answer request staged).2) := by
  rw [bind_pure_comp, ExceptT.run_map]
  rfl

section

variable {within : Course}
  (hwithin : ∀ key state, Way state (within key state) (request key state).2)

include hwithin

theorem way_build (draft : ModelDraft) (state : MapperState) :
    Way state (mapper.buildCourse request within draft state)
      ((mapper.build request draft).run state).2 := by
  have hcompletes := Consult.way hwithin (mapper.complete draft).run state
  unfold buildCourse
  cases hcomplete : (mapper.complete draft).run.answer request state with
  | mk outcome completed =>
  rw [hcomplete] at hcompletes
  cases outcome with
  | error cause =>
      rw [build_error hcomplete]
      exact hcompletes.append (.nil completed)
  | ok made =>
      rw [build_made hcomplete, run_check_bind]
      exact hcompletes.append (.cons (.number made) (.cons (.stage _)
        (Consult.way hwithin (mapper.options.validator.check mapper.context _).run _)))

theorem way_make (mapper : Mapper) (key : TypeKey) (state : MapperState) :
    Way state (mapper.makeCourse request within key state)
      ((mapper.make request key).run state).2 := by
  have hstarts := Consult.way hwithin (ModelDraft.start mapper.context key).run state
  unfold makeCourse
  cases hstart : (ModelDraft.start mapper.context key).run.answer request state with
  | mk outcome started =>
  rw [hstart] at hstarts
  cases outcome with
  | error cause =>
      rw [make_error hstart]
      exact hstarts.append (.nil started)
  | ok draft =>
      rw [make_ok hstart]
      exact hstarts.append (way_build hwithin draft started)

theorem way_makeAndKeep (key : TypeKey) (state : MapperState) :
    Way state (mapper.makeAndKeepCourse request within key state)
      (mapper.makeAndKeep request key state).2 := by
  have hmakes := way_make hwithin mapper key (state.begin key)
  unfold makeAndKeepCourse
  cases hmade : (mapper.make request key).run (state.begin key) with
  | mk outcome made =>
  rw [hmade] at hmakes
  cases outcome with
  | error cause =>
      rw [makeAndKeep_error hmade]
      exact .cons (.begin key) (hmakes.append (.cons (.finish key) (.nil _)))
  | ok model =>
      rw [makeAndKeep_ok hmade]
      exact .cons (.begin key) (hmakes.append (.cons (.finish key) (.cons (.keep key model)
        (.cons (.write _) (.nil _)))))

end

/-- The course of a request leads to the state that the request leaves. -/
theorem way_request (mapper : Mapper) (levels : Nat) (key : TypeKey) (state : MapperState) :
    Way state (mapper.requestCourse levels key state) (mapper.request levels key state).2 := by
  induction levels generalizing key state with
  | zero => exact .nil state
  | succ levels ih =>
      rw [requestCourse, request]
      rcases mapper.answerOnce_cases key state with ⟨answer, standing, hanswer⟩ | ⟨begins, hmakes⟩
      · rw [if_neg standing.not_begins, hanswer]
        exact .nil state
      · rw [if_pos begins, hmakes]
        exact way_makeAndKeep ih key state

end

end Mapper

end ObjectDocument
