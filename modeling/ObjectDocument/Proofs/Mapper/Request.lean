import ObjectDocument.Proofs.Mapper.Answered

/-!
# Requests in steady states

Answering once responds if the requests that come up meanwhile do, so requests respond at every
level of nesting (`responds_request`), and so does a mapper from outside (`responds_answer`).
-/

namespace ObjectDocument

variable {context : Context} {request : Request} {key : TypeKey} {state : MapperState}

theorem Steady.notMem_begun (begins : Steady context (state.begin key)) : key ∉ state.begun :=
  (List.nodup_cons.1 begins.begun_nodup).1

theorem Steady.notMem_staged (steady : Steady context state) (h : key ∉ state.begun) :
    key ∉ state.staged.map (·.1) := by
  intro hstaged
  obtain ⟨entry, hentry, rfl⟩ := List.mem_map.1 hstaged
  exact h (steady.staged_begun entry hentry)

namespace Stages

variable {before : MapperState} {model : EntityModel}

theorem steady_before (stages : Stages context request key state before model)
    (responds : Responds context request) (begins : Steady context (state.begin key)) :
    Steady context before := by
  obtain ⟨found, -, -, served⟩ := stages.served
  exact served.steady responds begins

theorem grows_before (stages : Stages context request key state before model)
    (responds : Responds context request) (begins : Steady context (state.begin key)) :
    Grows (state.begin key) before := by
  obtain ⟨found, -, -, served⟩ := stages.served
  exact served.grows responds begins

theorem begun_enter (stages : Stages context request key state before model)
    (responds : Responds context request) (begins : Steady context (state.begin key)) :
    (before.enter model).begun = key :: state.begun :=
  (stages.grows_before responds begins).begun

theorem staged_enter (stages : Stages context request key state before model)
    (responds : Responds context request) (begins : Steady context (state.begin key)) :
    (before.enter model).staged = state.staged ++ [(key, model)] := by
  rw [MapperState.enter, stages.describes.typeKey, (stages.grows_before responds begins).staged]
  rfl

theorem exists_required (stages : Stages context request key state before model)
    (responds : Responds context request) (begins : Steady context (state.begin key))
    {link : ModelLink} (h : link ∈ model.links) :
    ∃ found, (link.key, found) ∈ before.entries ∧ found.link = link := by
  obtain ⟨found, -, hlinks, served⟩ := stages.served
  rw [hlinks] at h
  obtain ⟨model, hmodel, rfl⟩ := List.mem_map.1 h
  exact ⟨model, served.mem_entries responds begins (List.mem_map_of_mem hmodel), rfl⟩

theorem steady_enter (stages : Stages context request key state before model)
    (responds : Responds context request) (steady : Steady context state)
    (begins : Steady context (state.begin key)) : Steady context (before.enter model) := by
  have grows := stages.grows_before responds begins
  have htype := stages.describes.typeKey
  refine (stages.steady_before responds begins).enter ?_ ?_ stages.serial
    (htype ▸ stages.describes) fun link hlink => ?_
  · rw [grows.begun, htype]
    exact List.mem_cons_self
  · rw [grows.staged, htype]
    exact steady.notMem_staged begins.notMem_begun
  · obtain ⟨found, hfound, rfl⟩ := stages.exists_required responds begins hlink
    exact ⟨_, hfound, rfl⟩

theorem grows_enter (stages : Stages context request key state before model)
    (responds : Responds context request) (begins : Steady context (state.begin key)) :
    state.models <+: (before.enter model).models ∧ state.serial ≤ (before.enter model).serial ∧
      ∀ entry ∈ (before.enter model).models,
        entry ∈ state.models ∨ state.serial ≤ entry.2.serial :=
  have grows := stages.grows_before responds begins
  ⟨grows.models, Nat.le_succ_of_le grows.serial, grows.fresh⟩

end Stages

/-- When the making of a model ends, nothing of it is left but what it kept. -/
theorem Grows.finish {after : MapperState} (made : List (TypeKey × EntityModel))
    (hmade : ∀ entry ∈ made, entry.1 = key) (hkey : key ∉ state.begun)
    (hkept : key ∉ state.staged.map (·.1)) (hbegun : after.begun = key :: state.begun)
    (hstaged : after.staged = state.staged ++ made) (hmodels : state.models <+: after.models)
    (hserial : state.serial ≤ after.serial)
    (hfresh : ∀ entry ∈ after.models, entry ∈ state.models ∨ state.serial ≤ entry.2.serial) :
    Grows state (after.finish key) := by
  refine ⟨MapperState.begun_finish hbegun hkey, ?_, hmodels, hserial, hfresh⟩
  rw [MapperState.finish, hstaged, List.filter_append]
  have hnone : made.filter (·.1 ≠ key) = [] :=
    List.filter_eq_nil_iff.2 fun entry hentry => by simpa using hmade entry hentry
  rw [hnone, List.append_nil]
  refine List.filter_eq_self.2 fun entry hentry => ?_
  have hne : entry.1 ≠ key := fun heq => hkept (heq ▸ List.mem_map_of_mem hentry)
  simpa using hne

namespace Answered

variable {answer : ModelAnswer} {after : MapperState}

theorem steady (h : Answered context request key state answer after)
    (responds : Responds context request) (hstate : Steady context state) :
    Steady context after := by
  cases h with
  | unmappable | known | cyclic => exact hstate
  | waited begins opened served => exact (served.steady responds begins).finish key
  | unmade begins required served => exact (served.steady responds begins).finish key
  | refused begins stages served =>
      exact (served.steady responds (stages.steady_enter responds hstate begins)).finish key
  | made begins stages served asked accepts record =>
      have entered := stages.steady_enter responds hstate begins
      refine ((served.steady responds entered).keep ?_ accepts.toPasses).write record
      rw [(served.grows responds entered).staged, stages.staged_enter responds begins]
      exact List.mem_append_right _ List.mem_cons_self

theorem grows (h : Answered context request key state answer after)
    (responds : Responds context request) (hstate : Steady context state) :
    Grows state after := by
  -- A making that ends before anything is staged.
  have hended {exchange : Exchange} {after : MapperState}
      (begins : Steady context (state.begin key))
      (served : Serves request (state.begin key) exchange after) :
      Grows state (after.finish key) := by
    have grows := served.grows responds begins
    exact .finish [] (by simp) begins.notMem_begun (hstate.notMem_staged begins.notMem_begun)
      grows.begun (grows.staged.trans (List.append_nil _).symm) grows.models grows.serial
      grows.fresh
  -- A making that ends after its model was staged.
  have hstaged {exchange : Exchange} {before after : MapperState} {model : EntityModel}
      (begins : Steady context (state.begin key))
      (stages : Stages context request key state before model)
      (served : Serves request (before.enter model) exchange after) :
      Grows state (after.finish key) := by
    have grows := served.grows responds (stages.steady_enter responds hstate begins)
    have ⟨hmodels, hserial, hfresh⟩ := stages.grows_enter responds begins
    exact .finish [(key, model)] (by simp) begins.notMem_begun
      (hstate.notMem_staged begins.notMem_begun)
      (grows.begun.trans (stages.begun_enter responds begins))
      (grows.staged.trans (stages.staged_enter responds begins))
      (hmodels.trans grows.models) (Nat.le_trans hserial grows.serial) fun entry hentry =>
        (grows.fresh entry hentry).elim (hfresh entry) fun h => .inr (Nat.le_trans hserial h)
  cases h with
  | unmappable | known | cyclic => exact .refl _
  | waited begins opened served => exact hended begins served
  | unmade begins required served => exact hended begins served
  | refused begins stages served => exact hstaged begins stages served
  | made begins stages served =>
      have grows := hstaged begins stages served
      refine ⟨grows.begun, grows.staged, grows.models.trans (List.prefix_append _ _), grows.serial,
        fun entry hentry => ?_⟩
      rcases List.mem_append.1 hentry with hentry | hentry
      · exact grows.fresh entry hentry
      · rw [List.mem_singleton.1 hentry, stages.serial]
        exact .inr (stages.grows_before responds begins).serial

theorem model_mem {model : EntityModel}
    (h : Answered context request key state (.ok (some model)) after) :
    (key, model) ∈ after.entries := by
  cases h with
  | known h => exact h
  | made begins stages served asked accepts record =>
      exact List.mem_append_left _ (List.mem_append_right _ List.mem_cons_self)

theorem unmappable_of_none (h : Answered context request key state (.ok none) after) :
    context.schema.isMappable key = false := by
  cases h
  assumption

end Answered

section

variable (coherent : context.schema.Coherent)

include coherent

theorem responds_answerOnce (responds : Responds context request) :
    Responds context ((Mapper.standard context).answerOnce request) where
  steady := fun steady => (answered_answerOnce coherent responds _ steady).steady responds steady
  grows := fun steady => (answered_answerOnce coherent responds _ steady).grows responds steady
  model := by
    intro key state model steady hanswer
    have h := answered_answerOnce coherent responds key steady
    rw [hanswer] at h
    exact h.model_mem
  unmappable := by
    intro key state steady hanswer
    have h := answered_answerOnce coherent responds key steady
    rw [hanswer] at h
    exact h.unmappable_of_none

theorem responds_request (levels : Nat) :
    Responds context ((Mapper.standard context).request levels) := by
  induction levels with
  | zero =>
      refine ⟨fun steady => steady, fun _ => .refl _, ?_, ?_⟩
      · intro key state model _ hanswer
        cases hanswer
      · intro key state _ hanswer
        cases hanswer
  | succ levels ih => exact responds_answerOnce coherent ih

theorem responds_answer : Responds context (Mapper.standard context).answer :=
  responds_request coherent _

end

end ObjectDocument
