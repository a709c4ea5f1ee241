import ObjectDocument.Proofs.Mapper.Links

/-!
# Requests from outside, one after another

Between two requests from outside nothing is begun, so the models at hand are those that are kept.
A request for the model of such a type is answered by it, and leaves everything as it was
(`answer_of_kept`); any other request that is answered by a model keeps it (`kept_of_answer`).

What requests do when they are nested is settled by the number of levels that are left.  From
outside there are always enough, so consistent types have models in every history of requests
(`Consistent.exists_answer`).
-/

namespace ObjectDocument

theorem ModelAnswer.exists_of_any {answer : ModelAnswer} {test : EntityModel → Bool}
    (h : answer.toOption.join.any test) : ∃ model, answer = .ok (some model) ∧ test model := by
  match answer, h with
  | .ok (some model), h => exact ⟨model, rfl, h⟩

namespace Mapper

/-- What a mapper remembers once the models of some types were asked for, one after another. -/
def after (mapper : Mapper) (keys : List TypeKey) : MapperState :=
  keys.foldl (fun state key => (mapper.answer key state).2) {}

/-- What a request is answered once the models of some types were asked for. -/
def answerAfter (mapper : Mapper) (earlier : List TypeKey) (key : TypeKey) : ModelAnswer :=
  (mapper.answer key (mapper.after earlier)).1

def Starts (mapper : Mapper) (key : TypeKey) : Prop :=
  ∃ model, mapper.answerAfter [] key = .ok (some model)

def Keeps (mapper : Mapper) (key : TypeKey) : Prop :=
  ∃ earlier model, (key, model) ∈ (mapper.after earlier).models

theorem after_concat (mapper : Mapper) (keys : List TypeKey) (key : TypeKey) :
    mapper.after (keys ++ [key]) = (mapper.answer key (mapper.after keys)).2 := by
  simp [after]

/-- What holds at first, and is kept by every request, holds after every history. -/
theorem after_induction (mapper : Mapper) (holds : MapperState → Prop) (initial : holds {})
    (step : ∀ key state, holds state → holds (mapper.answer key state).2) (keys : List TypeKey) :
    holds (mapper.after keys) := by
  have hrun (keys : List TypeKey) (state : MapperState) (h : holds state) :
      holds (keys.foldl (fun state key => (mapper.answer key state).2) state) := by
    induction keys generalizing state with
    | nil => exact h
    | cons key keys ih => exact ih _ (step key state h)
  exact hrun keys {} initial

end Mapper

/-- What holds of a mapper between requests from outside. -/
structure Resting (context : Context) (state : MapperState) : Prop where
  steady : Steady context state
  begun : state.begun = []

namespace Resting

variable {context : Context} {state : MapperState} {key : TypeKey} {model : EntityModel}

theorem initial : Resting context {} :=
  ⟨.initial, rfl⟩

theorem staged (resting : Resting context state) : state.staged = [] := by
  refine List.eq_nil_iff_forall_not_mem.2 fun entry hentry => ?_
  have hbegun := resting.steady.staged_begun entry hentry
  rw [resting.begun] at hbegun
  cases hbegun

theorem entries (resting : Resting context state) : state.entries = state.models := by
  rw [MapperState.entries, resting.staged, List.append_nil]

theorem describes (resting : Resting context state) (h : (key, model) ∈ state.models) :
    context.Describes key model :=
  resting.steady.describes _ (List.mem_append_left _ h)

theorem cached?_eq_some_iff (resting : Resting context state) :
    state.cached? key = some model ↔ (key, model) ∈ state.models :=
  lookup_eq_some_iff_mem resting.steady.kept_nodup

theorem depth (resting : Resting context state) :
    context.schema.size < (Mapper.standard context).levels + state.begun.length := by
  rw [resting.begun]
  exact Nat.lt_succ_self _

theorem notMem_begun (resting : Resting context state) {other : TypeKey} :
    other ∉ state.begun := by
  rw [resting.begun]
  exact List.not_mem_nil

section

variable (coherent : context.schema.Coherent)

include coherent

theorem answer (resting : Resting context state) (key : TypeKey) :
    Resting context ((Mapper.standard context).answer key state).2 := by
  have responds := responds_answer coherent
  exact ⟨responds.steady resting.steady, (responds.grows resting.steady).begun.trans resting.begun⟩

theorem after (keys : List TypeKey) : Resting context ((Mapper.standard context).after keys) :=
  Mapper.after_induction _ _ initial (fun key _ resting => resting.answer coherent key) keys

theorem grows_after {earlier later : List TypeKey} (h : earlier <+: later) :
    Grows ((Mapper.standard context).after earlier) ((Mapper.standard context).after later) := by
  obtain ⟨rest, rfl⟩ := h
  have hrun (keys : List TypeKey) (state : MapperState) (resting : Resting context state) :
      Grows state
        (keys.foldl (fun state key => ((Mapper.standard context).answer key state).2) state) := by
    induction keys generalizing state with
    | nil => exact .refl state
    | cons key keys ih =>
        exact ((responds_answer coherent).grows resting.steady).trans
          (ih _ (resting.answer coherent key))
  have hgrows := hrun rest _ (after coherent earlier)
  rwa [Mapper.after, ← List.foldl_append] at hgrows

omit coherent in
theorem answer_of_kept (resting : Resting context state) (h : (key, model) ∈ state.models) :
    (Mapper.standard context).answer key state = (.ok (some model), state) := by
  exact Mapper.answerOnce_of_cached (resting.describes h).mappable
    (resting.cached?_eq_some_iff.2 h) _

theorem kept_of_answer (resting : Resting context state)
    (h : ((Mapper.standard context).answer key state).1 = .ok (some model)) :
    (key, model) ∈ ((Mapper.standard context).answer key state).2.models := by
  rw [← (resting.answer coherent key).entries]
  exact (responds_answer coherent).model resting.steady h

theorem answer_none_iff (resting : Resting context state) :
    ((Mapper.standard context).answer key state).1 = .ok none ↔
      context.schema.isMappable key = false := by
  refine ⟨(responds_answer coherent).unmappable resting.steady, fun h => ?_⟩
  change ((Mapper.standard context).answerOnce _ key state).1 = _
  unfold Mapper.answerOnce
  rw [if_neg (show ¬(Mapper.standard context).schema.isMappable key by
    simpa [Mapper.standard] using h)]
  rfl

end

end Resting

section

variable {context : Context} (coherent : context.schema.Coherent)

include coherent

theorem Mapper.keeps_of_answerAfter {earlier : List TypeKey} {key : TypeKey} {model : EntityModel}
    (h : (Mapper.standard context).answerAfter earlier key = .ok (some model)) :
    (Mapper.standard context).Keeps key := by
  refine ⟨earlier ++ [key], model, ?_⟩
  rw [after_concat]
  exact (Resting.after coherent earlier).kept_of_answer coherent h

/-- Whatever is answered, the contents of a model are those of the outline of its type. -/
theorem Mapper.contents_of_answerAfter {earlier : List TypeKey} {key : TypeKey}
    {model : EntityModel}
    (h : (Mapper.standard context).answerAfter earlier key = .ok (some model)) :
    context.outline key = .ok model.contents :=
  (responds_answer coherent).outline_of_answer (Resting.after coherent earlier).steady h

/-- A consistent type has a model in every history, if nothing that is stuck is ever kept. -/
theorem Consistent.exists_answer {supported stuck : TypeKey → Prop}
    (consistent : Consistent context supported stuck) {state : MapperState}
    (resting : Resting context state) (hkept : ∀ entry ∈ state.models, ¬stuck entry.1)
    {key : TypeKey} (hkey : supported key) :
    ∃ model, ((Mapper.standard context).answer key state).1 = .ok (some model) := by
  have ready : Ready context stuck (Mapper.standard context).levels state :=
    ⟨resting.steady, resting.depth, by rwa [resting.entries]⟩
  rcases (serving_request coherent consistent _).of_supported ready hkey with
    hmodel | ⟨-, other, hother, -⟩
  · exact hmodel
  · exact absurd hother resting.notMem_begun

theorem Context.Buildable.exists_answer {key : TypeKey} (buildable : context.Buildable key)
    (earlier : List TypeKey) :
    ∃ model, (Mapper.standard context).answerAfter earlier key = .ok (some model) :=
  Context.consistent_buildable.exists_answer coherent (Resting.after coherent earlier)
    (fun _ _ h => h) buildable

/-- If every type on a circle can be built, then so can everything that is ever kept. -/
theorem Context.CirclesBuildable.of_kept (circles : context.CirclesBuildable) {key : TypeKey}
    (h : (Mapper.standard context).Keeps key) : context.Buildable key := by
  obtain ⟨earlier, model, hmodel⟩ := h
  have hall := (Mapper.standard context).after_induction
    (fun state => Resting context state ∧ ∀ entry ∈ state.models, context.Buildable entry.1)
    ⟨.initial, by simp⟩
    (fun key state ⟨resting, hmodels⟩ => ⟨resting.answer coherent key,
      Context.sound_request coherent circles _ resting.steady resting.depth
        (fun other hother => absurd hother resting.notMem_begun) hmodels⟩) earlier
  exact hall.2 _ hmodel

end

end ObjectDocument
