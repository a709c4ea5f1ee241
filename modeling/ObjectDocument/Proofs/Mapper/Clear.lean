import ObjectDocument.Proofs.Mapper.Stable

/-!
# Clear states

Say that some types have passed, and that they are consistent with those that are stuck while others
pass.  A state is `Clear` if nothing is kept but models of types that have passed, and if the types
that are begun are neither of these nor stuck.

In a clear state the answer for a type that has passed is a model and that for a stuck one is a
circle, and the state after it is clear again (`Clear.of_passed`, `Clear.of_stuck`).
-/

namespace ObjectDocument

inductive AnswerKind where
  | model
  | none
  | cyclic
  | failed

def ModelAnswer.kind : ModelAnswer → AnswerKind
  | .ok (some _) => .model
  | .ok none => .none
  | .error (.cyclicMapping _) => .cyclic
  | .error _ => .failed

theorem ModelAnswer.kind_error (cause : MappingError) :
    ModelAnswer.kind (.error cause) = .cyclic ∨ ModelAnswer.kind (.error cause) = .failed := by
  cases cause <;> simp [kind]

theorem ModelAnswer.IsCyclic.kind {answer : ModelAnswer} (h : answer.IsCyclic) :
    answer.kind = .cyclic := by
  obtain ⟨name, rfl⟩ := h
  rfl

theorem Context.kind_of_outline {context : Context} {key : TypeKey} {cause : MappingError}
    (h : context.outline key = .error cause) : ModelAnswer.kind (.error cause) = .failed := by
  rcases Context.outline_error h with ⟨missing, rfl⟩ | ⟨entity, fault, rfl⟩ <;> rfl

/-- A type of which the model has to be made: it is neither begun nor has it passed, and it is not
stuck either. -/
structure Schema.Unsettled (schema : Schema) (passed : TypeKey → Prop) (begun : List TypeKey)
    (key : TypeKey) : Prop where
  mappable : schema.isMappable key
  unpassed : ¬passed key
  unstuck : ¬schema.Stuck passed key
  unbegun : key ∉ begun

/-- A state in which the types that are begun are unsettled, and nothing is kept but models of types
that have passed. -/
structure Clear (context : Context) (passed : TypeKey → Prop) (levels : Nat)
    (begun staged : List TypeKey) (state : MapperState) : Prop where
  steady : Steady context state
  begun_eq : state.begun = begun
  staged_eq : state.staged.map (·.1) = staged
  depth : context.schema.size < levels + begun.length
  unsettled : ∀ key ∈ begun, ¬passed key ∧ ¬context.schema.Stuck passed key
  kept : ∀ entry ∈ state.models, passed entry.1

section

variable {context : Context} {passed : TypeKey → Prop} {levels : Nat} {begun staged : List TypeKey}
  {request : Request} {key : TypeKey} {state before : MapperState}

namespace Clear

theorem ready (consistent : Consistent context passed (context.schema.Stuck passed))
    (clear : Clear context passed levels begun staged state) :
    Ready context (context.schema.Stuck passed) levels state := by
  refine ⟨clear.steady, by rw [clear.begun_eq]; exact clear.depth, fun entry hentry => ?_⟩
  rcases List.mem_append.1 hentry with hentry | hentry
  · exact consistent.not_stuck (consistent.founded (clear.kept entry hentry))
  · have hbegun := clear.steady.staged_begun entry hentry
    rw [clear.begun_eq] at hbegun
    exact (clear.unsettled _ hbegun).2

theorem grow (clear : Clear context passed levels begun staged before) (grows : Grows before state)
    (steady : Steady context state) (kept : ∀ entry ∈ state.models, passed entry.1) :
    Clear context passed levels begun staged state :=
  ⟨steady, grows.begun.trans clear.begun_eq, grows.staged ▸ clear.staged_eq, clear.depth,
    clear.unsettled, kept⟩

theorem write (clear : Clear context passed levels begun staged state) (record : LogRecord) :
    Clear context passed levels begun staged (state.write record) :=
  clear.grow (.write record state) (clear.steady.write record) clear.kept

theorem levels_ne_zero (clear : Clear context passed levels begun staged state) : levels ≠ 0 := by
  have hlength := clear.steady.length_begun_le
  have hdepth := clear.depth
  rw [clear.begun_eq] at hlength
  omega

theorem unsettled_of (clear : Clear context passed levels begun staged state)
    (hpassed : ¬passed key) (hstuck : ¬context.schema.Stuck passed key)
    (begins : Steady context (state.begin key)) : context.schema.Unsettled passed begun key :=
  ⟨begins.begun_mappable key List.mem_cons_self, hpassed, hstuck,
    clear.begun_eq ▸ begins.notMem_begun⟩

theorem not_known {model : EntityModel} (clear : Clear context passed levels begun staged state)
    (unsettled : context.schema.Unsettled passed begun key) : (key, model) ∉ state.entries := by
  intro h
  rcases List.mem_append.1 h with h | h
  · exact unsettled.unpassed (clear.kept _ h)
  · exact unsettled.unbegun (clear.begun_eq ▸ clear.steady.staged_begun _ h)

section

variable (clear : Clear context passed (levels + 1) begun staged state)
  (unsettled : context.schema.Unsettled passed begun key)
  (begins : Steady context (state.begin key))

include clear unsettled begins

theorem begin : Clear context passed levels (key :: begun) staged (state.begin key) := by
  refine ⟨begins, congrArg (key :: ·) clear.begun_eq, clear.staged_eq, ?_, fun other hother => ?_,
    clear.kept⟩
  · have hdepth := clear.depth
    rw [List.length_cons]
    omega
  · rcases List.mem_cons.1 hother with rfl | hother
    · exact ⟨unsettled.unpassed, unsettled.unstuck⟩
    · exact clear.unsettled other hother

theorem enter {model : EntityModel} (responds : Responds context request)
    (stages : Stages context request key state before model)
    (kept : ∀ entry ∈ before.models, passed entry.1) :
    Clear context passed levels (key :: begun) (staged ++ [key]) (before.enter model) := by
  have hbegin := clear.begin unsettled begins
  refine ⟨stages.steady_enter responds clear.steady begins,
    (stages.begun_enter responds begins).trans hbegin.begun_eq, ?_, hbegin.depth,
    hbegin.unsettled, kept⟩
  rw [stages.staged_enter responds begins, List.map_append, clear.staged_eq]
  rfl

end

section

variable (coherent : context.schema.Coherent)
  (consistent : Consistent context passed (context.schema.Stuck passed))

include coherent consistent

/-- A type that has passed waits for none that is begun, so its model is the answer. -/
theorem of_passed (clear : Clear context passed levels begun staged state) (h : passed key) :
    ((Mapper.standard context).request levels key state).1.kind = .model ∧
      ∀ entry ∈ ((Mapper.standard context).request levels key state).2.models, passed entry.1 := by
  have serving := serving_request coherent consistent levels
  have ready := clear.ready consistent
  refine ⟨?_, fun entry hentry =>
    (serving.kept ready (.inl h) entry hentry).elim (clear.kept entry) id⟩
  rcases serving.of_supported ready h with ⟨model, hmodel⟩ | ⟨-, last, hlast, -, hpath⟩
  · rw [hmodel]
    rfl
  · have hpassed : passed last := by
      clear hlast
      induction hpath with
      | refl => exact h
      | tail _ hlast ih => exact consistent.required ih _ hlast
    rw [clear.begun_eq] at hlast
    exact absurd hpassed (clear.unsettled last hlast).1

theorem of_stuck (clear : Clear context passed levels begun staged state)
    (h : context.schema.Stuck passed key) :
    ((Mapper.standard context).request levels key state).1.kind = .cyclic ∧
      ∀ entry ∈ ((Mapper.standard context).request levels key state).2.models, passed entry.1 := by
  have serving := serving_request coherent consistent levels
  have ready := clear.ready consistent
  exact ⟨(serving.of_stuck ready h).kind, fun entry hentry =>
    (serving.kept ready (.inr h) entry hentry).elim (clear.kept entry) id⟩

end

end Clear

end

end ObjectDocument
