import ObjectDocument.Proofs.Mapper.Demands
import ObjectDocument.Proofs.Schema.Walks

/-!
# Requests come to an end

A mapper answers requests within a number of levels of nesting.  Here answering is told without: as
the least relation between a request, the state before, the answer and the state after that follows
each step of a mapper (`Mapper.Replies`).  A request that never comes to an end has no answer in it,
and no request has two (`Mapper.Replies.unique`).

Every request has one, in any state that a mapper goes through, and it is the one that is computed
(`Mapper.requests_end`).  The types whose models are begun differ and are mappable, and each request
that produces a model begins one more, so requests are nested no deeper than there are mappable
types.
-/

namespace ObjectDocument

namespace Mapper

mutual
/-- A request comes to an end with an answer. -/
inductive Replies (mapper : Mapper) : TypeKey → MapperState → ModelAnswer → MapperState → Prop where
  | standing {key state answer} (h : mapper.Standing key state answer) :
      Replies mapper key state answer state
  | failed {key state cause made} (begins : mapper.Begins key state)
      (produces : Produces mapper key (state.begin key) (.error cause) made) :
      Replies mapper key state (.error cause) (made.finish key)
  | kept {key state model made} (begins : mapper.Begins key state)
      (produces : Produces mapper key (state.begin key) (.ok model) made) :
      Replies mapper key state (.ok (some model))
        (((made.finish key).keep key model).write (keptRecord model))

/-- The making of a model comes to an end: it is drafted, completed, and then staged and checked. -/
inductive Produces (mapper : Mapper) :
    TypeKey → MapperState → Except MappingError EntityModel → MapperState → Prop where
  | unstarted {key state cause started}
      (starts : Settles mapper (ModelDraft.start mapper.context key).run state (.error cause)
        started) :
      Produces mapper key state (.error cause) started
  | unmade {key state draft started cause completed}
      (starts : Settles mapper (ModelDraft.start mapper.context key).run state (.ok draft) started)
      (completes : Settles mapper (mapper.complete draft).run started (.error cause) completed) :
      Produces mapper key state (.error cause) completed
  | checked {key state draft started made completed outcome checked}
      (starts : Settles mapper (ModelDraft.start mapper.context key).run state (.ok draft) started)
      (completes : Settles mapper (mapper.complete draft).run started (.ok made) completed)
      (checks : Settles mapper
        (mapper.options.validator.check mapper.context (completed.number made).1).run
        ((completed.number made).2.stage (completed.number made).1) outcome checked) :
      Produces mapper key state (outcome.map fun _ => (completed.number made).1) checked

/-- A consultation whose requests are answered comes to an end with a value. -/
inductive Settles (mapper : Mapper) :
    {α : Type} → Consult α → MapperState → α → MapperState → Prop where
  | done {α : Type} {value : α} {state} : Settles mapper (.done value) state value state
  | note {α : Type} {record} {next : Consult α} {state value after}
      (rest : Settles mapper next (state.write record) value after) :
      Settles mapper (.note record next) state value after
  | ask {α : Type} {key} {resume : ModelAnswer → Consult α} {state answer between value after}
      (replies : Replies mapper key state answer between)
      (rest : Settles mapper (resume answer) between value after) :
      Settles mapper (.ask key resume) state value after
end

theorem Standing.unique {mapper : Mapper} {key : TypeKey} {state : MapperState}
    {answer answer' : ModelAnswer} (h : mapper.Standing key state answer)
    (h' : mapper.Standing key state answer') : answer = answer' := by
  cases h <;> cases h' <;> simp_all

mutual
theorem Replies.unique {mapper : Mapper} : ∀ {key state answer after answer' after'},
    mapper.Replies key state answer after → mapper.Replies key state answer' after' →
      answer = answer' ∧ after = after'
  | _, _, _, _, _, _, .standing h, h' => by
      cases h' with
      | standing h' => exact ⟨h.unique h', rfl⟩
      | failed begins => exact absurd begins h.not_begins
      | kept begins => exact absurd begins h.not_begins
  | _, _, _, _, _, _, .failed begins produces, h' => by
      cases h' with
      | standing h' => exact absurd begins h'.not_begins
      | failed _ produces' =>
          obtain ⟨heq, rfl⟩ := produces.unique produces'
          cases heq
          exact ⟨rfl, rfl⟩
      | kept _ produces' => cases (produces.unique produces').1
  | _, _, _, _, _, _, .kept begins produces, h' => by
      cases h' with
      | standing h' => exact absurd begins h'.not_begins
      | failed _ produces' => cases (produces.unique produces').1
      | kept _ produces' =>
          obtain ⟨heq, rfl⟩ := produces.unique produces'
          cases heq
          exact ⟨rfl, rfl⟩

theorem Produces.unique {mapper : Mapper} : ∀ {key state outcome after outcome' after'},
    mapper.Produces key state outcome after → mapper.Produces key state outcome' after' →
      outcome = outcome' ∧ after = after'
  | _, _, _, _, _, _, .unstarted starts, h' => by
      cases h' with
      | unstarted starts' =>
          obtain ⟨heq, rfl⟩ := starts.unique starts'
          cases heq
          exact ⟨rfl, rfl⟩
      | unmade starts' => cases (starts.unique starts').1
      | checked starts' => cases (starts.unique starts').1
  | _, _, _, _, _, _, .unmade starts completes, h' => by
      cases h' with
      | unstarted starts' => cases (starts.unique starts').1
      | unmade starts' completes' =>
          obtain ⟨heq, rfl⟩ := starts.unique starts'
          cases heq
          obtain ⟨heq, rfl⟩ := completes.unique completes'
          cases heq
          exact ⟨rfl, rfl⟩
      | checked starts' completes' =>
          obtain ⟨heq, rfl⟩ := starts.unique starts'
          cases heq
          cases (completes.unique completes').1
  | _, _, _, _, _, _, .checked starts completes checks, h' => by
      cases h' with
      | unstarted starts' => cases (starts.unique starts').1
      | unmade starts' completes' =>
          obtain ⟨heq, rfl⟩ := starts.unique starts'
          cases heq
          cases (completes.unique completes').1
      | checked starts' completes' checks' =>
          obtain ⟨heq, rfl⟩ := starts.unique starts'
          cases heq
          obtain ⟨heq, rfl⟩ := completes.unique completes'
          cases heq
          obtain ⟨rfl, rfl⟩ := checks.unique checks'
          exact ⟨rfl, rfl⟩

theorem Settles.unique {mapper : Mapper} : ∀ {α : Type} {consult : Consult α}
    {state after after' : MapperState} {value value' : α},
    mapper.Settles consult state value after → mapper.Settles consult state value' after' →
      value = value' ∧ after = after'
  | _, _, _, _, _, _, _, .done, .done => ⟨rfl, rfl⟩
  | _, _, _, _, _, _, _, .note rest, .note rest' => rest.unique rest'
  | _, _, _, _, _, _, _, .ask replies rest, .ask replies' rest' => by
      obtain ⟨hanswer, hbetween⟩ := replies.unique replies'
      subst hanswer hbetween
      exact rest.unique rest'
end

end Mapper

/-! ### Replies that are computed -/

theorem Orderly.length_begun_le {schema : Schema} {state : MapperState}
    (orderly : Orderly schema state) (coherent : schema.Coherent) :
    state.begun ⊆ schema.mappableKeys ∧ state.begun.length ≤ schema.mappableKeys.length := by
  have hsubset : state.begun ⊆ schema.mappableKeys := by
    intro key hkey
    have hmappable := orderly.begun_mappable key hkey
    obtain ⟨node, hnode⟩ := Schema.exists_node_of_isMappable hmappable
    refine List.mem_filter.2 ⟨List.mem_map.2 ⟨node, List.mem_of_getElem? hnode, ?_⟩, hmappable⟩
    exact coherent.key_eq hnode
  exact ⟨hsubset, (orderly.begun_nodup.subperm hsubset).length_le⟩

namespace Mapper

variable {mapper : Mapper} {levels : Nat} {key : TypeKey} {state : MapperState}

/-- More levels of nesting are left than mappable types that are not begun. -/
def Suffices (mapper : Mapper) (levels : Nat) (state : MapperState) : Prop :=
  mapper.schema.mappableKeys.length < levels + state.begun.length

section

variable (replies : ∀ key state, Orderly mapper.schema state → mapper.Suffices levels state →
  mapper.Replies key state (mapper.request levels key state).1 (mapper.request levels key state).2)

include replies

theorem settles_consult {α : Type} (consult : Consult α) (orderly : Orderly mapper.schema state)
    (suffices_levels : mapper.Suffices levels state) :
    mapper.Settles consult state (consult.answer (mapper.request levels) state).1
      (consult.answer (mapper.request levels) state).2 := by
  induction consult generalizing state with
  | done value => exact .done
  | note record next ih => exact .note (ih (orderly.write record) suffices_levels)
  | ask key resume ih =>
      have tidy := tidy_request mapper levels key state orderly
      have hlater : mapper.Suffices levels (mapper.request levels key state).2 := by
        rw [Suffices, tidy.begun]
        exact suffices_levels
      exact .ask (replies key state orderly suffices_levels) (ih _ tidy.ends hlater)

theorem produces_make (key : TypeKey) (orderly : Orderly mapper.schema state)
    (suffices_levels : mapper.Suffices levels state) :
    mapper.Produces key state ((mapper.make (mapper.request levels) key).run state).1
      ((mapper.make (mapper.request levels) key).run state).2 := by
  have starts := settles_consult replies (ModelDraft.start mapper.context key).run orderly
    suffices_levels
  have hstarts := tidy_consult (tidy_request mapper levels)
    (ModelDraft.start mapper.context key).run orderly
  cases hstart : (ModelDraft.start mapper.context key).run.answer (mapper.request levels) state with
  | mk outcome started =>
  rw [hstart] at starts hstarts
  cases outcome with
  | error cause =>
      rw [make_error hstart]
      exact .unstarted starts
  | ok draft =>
      have hstarted : mapper.Suffices levels started := by
        rw [Suffices, hstarts.begun]
        exact suffices_levels
      have completes := settles_consult replies (mapper.complete draft).run hstarts.ends hstarted
      have hcompletes := tidy_consult (tidy_request mapper levels) (mapper.complete draft).run
        hstarts.ends
      rw [make_ok hstart]
      cases hcomplete : (mapper.complete draft).run.answer (mapper.request levels) started with
      | mk outcome completed =>
      rw [hcomplete] at completes hcompletes
      cases outcome with
      | error cause =>
          rw [build_error hcomplete]
          exact .unmade starts completes
      | ok made =>
          rw [build_made hcomplete, run_check_bind]
          refine .checked starts completes (settles_consult replies _
            ((hcompletes.ends.number made).stage _) ?_)
          rw [Suffices, MapperState.stage_begun]
          exact hcompletes.begun ▸ hstarted

end

/-- While levels are left, what is computed is how a request comes to an end. -/
theorem replies_request (coherent : mapper.schema.Coherent) (levels : Nat) (key : TypeKey)
    (state : MapperState) (orderly : Orderly mapper.schema state)
    (suffices_levels : mapper.Suffices levels state) :
    mapper.Replies key state (mapper.request levels key state).1
      (mapper.request levels key state).2 := by
  induction levels generalizing key state with
  | zero =>
      have hle := (orderly.length_begun_le coherent).2
      rw [Suffices] at suffices_levels
      omega
  | succ levels ih =>
      rw [request]
      rcases mapper.answerOnce_cases key state with ⟨answer, standing, hanswer⟩ | ⟨begins, hmakes⟩
      · rw [hanswer]
        exact .standing standing
      · have hlevels : mapper.Suffices levels (state.begin key) := by
          rw [Suffices] at suffices_levels ⊢
          rw [MapperState.begin, List.length_cons]
          omega
        have produces := produces_make ih key (orderly.begin_of_begins begins) hlevels
        rw [hmakes]
        cases hmake : (mapper.make (mapper.request levels) key).run (state.begin key) with
        | mk outcome made =>
        rw [hmake] at produces
        cases outcome with
        | error cause =>
            rw [makeAndKeep_error hmake]
            exact .failed begins produces
        | ok model =>
            rw [makeAndKeep_ok hmake]
            exact .kept begins produces

/-- While levels are left, their number makes no difference. -/
theorem answer_levels {α : Type} (consult : Consult α) {other : Nat}
    (coherent : mapper.schema.Coherent) (orderly : Orderly mapper.schema state)
    (suffices_levels : mapper.Suffices levels state)
    (suffices_other : mapper.Suffices other state) :
    consult.answer (mapper.request levels) state = consult.answer (mapper.request other) state := by
  have settles := settles_consult (replies_request coherent levels) consult orderly suffices_levels
  have hsettles := settles_consult (replies_request coherent other) consult orderly suffices_other
  obtain ⟨hvalue, hafter⟩ := settles.unique hsettles
  exact Prod.ext hvalue hafter

theorem suffices_levels (mapper : Mapper) (state : MapperState) :
    mapper.Suffices mapper.levels state := by
  have hle : mapper.schema.mappableKeys.length ≤ mapper.schema.size :=
    Nat.le_trans (List.length_filter_le _ _) (Nat.le_of_eq (List.length_map _))
  rw [Suffices, levels]
  omega

theorem answer_eq_makeAndKeep (begins : mapper.Begins key state) :
    mapper.answer key state =
      mapper.makeAndKeep (mapper.request mapper.schema.size) key state := by
  rcases mapper.answerOnce_cases key state with ⟨_, standing, -⟩ | ⟨-, hmakes⟩
  · exact absurd begins standing.not_begins
  · exact hmakes _

/-- Within the making of a model one level less is left, which suffices. -/
theorem answer_within {α : Type} {consult : Consult α} (coherent : mapper.schema.Coherent)
    (orderly : Orderly mapper.schema state) (begins : mapper.Begins key state) :
    consult.answer mapper.answer (state.begin key) =
      consult.answer (mapper.request mapper.schema.size) (state.begin key) := by
  have hlevels : mapper.Suffices mapper.schema.size (state.begin key) := by
    have hlevels := mapper.suffices_levels state
    rw [Suffices, levels] at hlevels
    rw [Suffices, MapperState.begin, List.length_cons]
    omega
  exact answer_levels consult coherent (orderly.begin_of_begins begins)
    (mapper.suffices_levels _) hlevels

/-- Whatever conventions and rules a mapper of a schema that was built has, and whatever was asked
of it: in each state that it went through, every request comes to an end, and does so as is
computed.  On the way the types whose models are begun differ and are mappable, so there are no more
of them than mappable types.  The walks through the schema come to an end too. -/
theorem requests_end {declarations : Declarations} {schema : Schema}
    (h : declarations.build = .ok schema) (options : MapperOptions) :
    let mapper : Mapper := ⟨schema, options⟩
    schema.WalksEnd ∧
    ∀ demands, ∀ state ∈ {} :: mapper.history demands {}, ∀ key,
      (∀ answer after, mapper.Replies key state answer after ↔
        mapper.answer key state = (answer, after)) ∧
      ∀ between ∈ state :: mapper.course key state,
        between.begun.Nodup ∧ between.begun ⊆ schema.mappableKeys ∧
          between.begun.length ≤ schema.mappableKeys.length := by
  intro mapper
  have coherent : schema.Coherent := Declarations.coherent h
  refine ⟨coherent.walksEnd, fun demands state hstate key => ?_⟩
  have orderly : Orderly schema state := by
    have tidy := tidy_history mapper demands .initial
    exact List.forall_mem_cons.2 ⟨.initial, tidy.orderly⟩ state hstate
  refine ⟨fun answer after => ?_, fun between hbetween => ?_⟩
  · have hcomputed : mapper.Replies key state (mapper.answer key state).1
        (mapper.answer key state).2 :=
      replies_request coherent mapper.levels key state orderly (mapper.suffices_levels state)
    constructor
    · intro hreplies
      obtain ⟨hanswer, hafter⟩ := hcomputed.unique hreplies
      exact Prod.ext hanswer hafter
    · intro heq
      rw [heq] at hcomputed
      exact hcomputed
  · have tidy := tidy_request mapper mapper.levels key state orderly
    have orderly := List.forall_mem_cons.2 ⟨orderly, tidy.orderly⟩ between hbetween
    exact ⟨orderly.begun_nodup, orderly.length_begun_le coherent⟩

end Mapper

/-- A request for one of two interfaces that extend each other comes to an end as well. -/
theorem Declarations.requests_end_knot :
    let mapper : Mapper := ⟨knot.schema, .ofSettings {}⟩
    ∃ after, mapper.Replies ⟨25⟩ {} (.error (.cyclicMapping "Left")) after := by
  intro mapper
  have hbuild : knot.build = .ok knot.schema := build_eq_schema (by decide +kernel)
  have hcyclic : (mapper.answer ⟨25⟩ {}).1 = .error (.cyclicMapping "Left") := by decide +kernel
  have hends := ((Mapper.requests_end hbuild (.ofSettings {})).2 [] {} List.mem_cons_self ⟨25⟩).1
  exact ⟨(mapper.answer ⟨25⟩ {}).2, (hends _ _).2 (Prod.ext hcyclic rfl)⟩

end ObjectDocument
