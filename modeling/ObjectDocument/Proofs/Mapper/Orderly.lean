import ObjectDocument.Proofs.Mapper.Course

/-!
# Orderly states

What holds of a mapper at every point of every request, whatever conventions and rules it has: the
types that are begun differ and are mappable, nothing is staged but of a type that is begun, and
nothing is kept of such a type.  Each step in the making of a model keeps this, because the requests
that come up meanwhile leave the same types begun (`tidy_request`).

The keys under which models are kept differ, so a model that is kept is found under its key.
-/

namespace ObjectDocument

/-- What holds of a mapper at every point. -/
structure Orderly (schema : Schema) (state : MapperState) : Prop where
  begun_nodup : state.begun.Nodup
  begun_mappable : ∀ key ∈ state.begun, schema.isMappable key
  staged_begun : ∀ key ∈ state.staged.map (·.1), key ∈ state.begun
  staged_nodup : (state.staged.map (·.1)).Nodup
  kept_ended : ∀ key ∈ state.models.map (·.1), key ∉ state.begun
  kept_mappable : ∀ key ∈ state.models.map (·.1), schema.isMappable key
  kept_nodup : (state.models.map (·.1)).Nodup

variable {schema : Schema} {state : MapperState} {key : TypeKey} {model : EntityModel}

namespace Orderly

theorem initial : Orderly schema {} where
  begun_nodup := List.nodup_nil
  begun_mappable := by simp
  staged_begun := by simp
  staged_nodup := List.nodup_nil
  kept_ended := by simp
  kept_mappable := by simp
  kept_nodup := List.nodup_nil

theorem write (orderly : Orderly schema state) (record : LogRecord) :
    Orderly schema (state.write record) :=
  { orderly with }

theorem number (orderly : Orderly schema state) (model : EntityModel) :
    Orderly schema (state.number model).2 :=
  { orderly with }

theorem begin (orderly : Orderly schema state) (hmappable : schema.isMappable key)
    (hbegun : key ∉ state.begun) (hkept : key ∉ state.models.map (·.1)) :
    Orderly schema (state.begin key) :=
  { orderly with
    begun_nodup := List.nodup_cons.2 ⟨hbegun, orderly.begun_nodup⟩
    begun_mappable := List.forall_mem_cons.2 ⟨hmappable, orderly.begun_mappable⟩
    staged_begun := fun other h => List.mem_cons_of_mem _ (orderly.staged_begun other h)
    kept_ended := by
      intro other h
      rw [MapperState.begin, List.mem_cons, not_or]
      exact ⟨fun heq => hkept (heq ▸ h), orderly.kept_ended other h⟩ }

theorem stage (orderly : Orderly schema state) (model : EntityModel) :
    Orderly schema (state.stage model) := by
  unfold MapperState.stage
  by_cases hbegun : model.typeKey ∈ state.begun
  · rw [if_pos hbegun]
    refine { orderly with staged_begun := fun key h => ?_, staged_nodup := ?_ }
    · obtain ⟨entry, hentry, rfl⟩ := List.mem_map.1 h
      rcases OrderedMap.mem_insert hentry with rfl | hentry
      · exact hbegun
      · exact orderly.staged_begun _ (List.mem_map_of_mem hentry)
    · exact OrderedMap.nodup_insert orderly.staged_nodup _ _
  · rwa [if_neg hbegun]

theorem finish (orderly : Orderly schema state) (key : TypeKey) :
    Orderly schema (state.finish key) where
  begun_nodup := orderly.begun_nodup.filter _
  begun_mappable := fun other h => orderly.begun_mappable other (List.mem_filter.1 h).1
  staged_begun := by
    intro other h
    obtain ⟨entry, hentry, rfl⟩ := List.mem_map.1 h
    obtain ⟨hentry, hne⟩ := List.mem_filter.1 hentry
    exact List.mem_filter.2 ⟨orderly.staged_begun _ (List.mem_map_of_mem hentry), hne⟩
  staged_nodup := (List.filter_sublist.map _).nodup orderly.staged_nodup
  kept_ended := fun other h hbegun => orderly.kept_ended other h (List.mem_filter.1 hbegun).1
  kept_mappable := orderly.kept_mappable
  kept_nodup := orderly.kept_nodup

theorem keep (orderly : Orderly schema state) (hbegun : key ∈ state.begun)
    (model : EntityModel) : Orderly schema ((state.finish key).keep key model) := by
  have hkeys : ((state.finish key).keep key model).models.map (·.1) =
      state.models.map (·.1) ++ [key] := List.map_append
  refine { orderly.finish key with
    kept_ended := fun other h => ?_, kept_mappable := fun other h => ?_, kept_nodup := ?_ }
  · rw [hkeys] at h
    rcases List.mem_append.1 h with h | h
    · exact (orderly.finish key).kept_ended other h
    · rw [List.mem_singleton.1 h]
      simp [MapperState.keep, MapperState.finish]
  · rw [hkeys] at h
    rcases List.mem_append.1 h with h | h
    · exact orderly.kept_mappable other h
    · rw [List.mem_singleton.1 h]
      exact orderly.begun_mappable key hbegun
  · rw [hkeys]
    refine List.nodup_append.2 ⟨orderly.kept_nodup, List.nodup_singleton key, ?_⟩
    rintro other h _ hkey rfl
    rw [List.mem_singleton.1 hkey] at h
    exact orderly.kept_ended key h hbegun

theorem cached?_eq_some_iff (orderly : Orderly schema state) :
    state.cached? key = some model ↔ (key, model) ∈ state.models :=
  lookup_eq_some_iff_mem orderly.kept_nodup

theorem cached?_of_begun (orderly : Orderly schema state) (h : key ∈ state.begun) :
    state.cached? key = none := by
  cases hcached : state.cached? key with
  | none => rfl
  | some model =>
      exact absurd h (orderly.kept_ended key (List.mem_map_of_mem (mem_of_lookup hcached)))

theorem staged_eq_nil (orderly : Orderly schema state) (h : state.begun = []) :
    state.staged = [] := by
  refine List.eq_nil_iff_forall_not_mem.2 fun entry hentry => ?_
  have hbegun := orderly.staged_begun _ (List.mem_map_of_mem hentry)
  rw [h] at hbegun
  cases hbegun

end Orderly

/-- All the states are orderly, and as much is begun in the last as in the first. -/
structure Tidy (schema : Schema) (before : MapperState) (states : List MapperState)
    (after : MapperState) : Prop where
  orderly : ∀ state ∈ states, Orderly schema state
  ends : Orderly schema after
  begun : after.begun = before.begun

namespace Tidy

variable {before between after : MapperState} {first second : List MapperState}

theorem nil (orderly : Orderly schema state) : Tidy schema state [] state :=
  ⟨by simp, orderly, rfl⟩

theorem append (hfirst : Tidy schema before first between)
    (hsecond : Tidy schema between second after) : Tidy schema before (first ++ second) after :=
  ⟨List.forall_mem_append.2 ⟨hfirst.orderly, hsecond.orderly⟩, hsecond.ends,
    hsecond.begun.trans hfirst.begun⟩

theorem cons {next : MapperState} {states : List MapperState} (orderly : Orderly schema next)
    (hbegun : next.begun = before.begun) (rest : Tidy schema next states after) :
    Tidy schema before (next :: states) after :=
  ⟨List.forall_mem_cons.2 ⟨orderly, rest.orderly⟩, rest.ends, rest.begun.trans hbegun⟩

end Tidy

theorem MapperState.stage_begun (model : EntityModel) (state : MapperState) :
    (state.stage model).begun = state.begun := by
  unfold stage
  split <;> rfl

/-- Whatever changes, what is kept stays where it is. -/
theorem MapperState.Change.models {next : MapperState} (change : MapperState.Change state next) :
    state.models <+: next.models := by
  cases change with
  | write | begin | number | finish => exact List.prefix_rfl
  | stage model =>
      unfold MapperState.stage
      split <;> exact List.prefix_rfl
  | keep key model => exact List.prefix_append _ _

section

variable {mapper : Mapper} {request : Request} {within : Course}
  (tidy : ∀ key state, Orderly schema state →
    Tidy schema state (within key state) (request key state).2)

include tidy

theorem tidy_consult {α : Type} (consult : Consult α) (orderly : Orderly schema state) :
    Tidy schema state (consult.course request within state)
      (consult.answer request state).2 := by
  induction consult generalizing state with
  | done value => exact .nil orderly
  | note record next ih => exact .cons (orderly.write record) rfl (ih (orderly.write record))
  | ask key resume ih =>
      have hasked := tidy key state orderly
      exact hasked.append (ih _ hasked.ends)

theorem tidy_build (draft : ModelDraft) (orderly : Orderly schema state) :
    Tidy schema state (mapper.buildCourse request within draft state)
      ((mapper.build request draft).run state).2 := by
  have hcompletes := tidy_consult tidy (mapper.complete draft).run orderly
  unfold Mapper.buildCourse
  cases hcomplete : (mapper.complete draft).run.answer request state with
  | mk outcome completed =>
  rw [hcomplete] at hcompletes
  have hcompleted := hcompletes.ends
  cases outcome with
  | error cause =>
      rw [Mapper.build_error hcomplete]
      exact hcompletes.append (.nil hcompleted)
  | ok made =>
      rw [Mapper.build_made hcomplete, Mapper.run_check_bind]
      have hnumbered := hcompleted.number made
      have hstaged := hnumbered.stage (completed.number made).1
      have hbegun :=
        MapperState.stage_begun (completed.number made).1 (completed.number made).2
      exact hcompletes.append (.cons hnumbered rfl (.cons hstaged hbegun
        (tidy_consult tidy (mapper.options.validator.check mapper.context _).run hstaged)))

theorem tidy_make (mapper : Mapper) (key : TypeKey) (orderly : Orderly schema state) :
    Tidy schema state (mapper.makeCourse request within key state)
      ((mapper.make request key).run state).2 := by
  have hstarts := tidy_consult tidy (ModelDraft.start mapper.context key).run orderly
  unfold Mapper.makeCourse
  cases hstart : (ModelDraft.start mapper.context key).run.answer request state with
  | mk outcome started =>
  rw [hstart] at hstarts
  cases outcome with
  | error cause =>
      rw [Mapper.make_error hstart]
      exact hstarts.append (.nil hstarts.ends)
  | ok draft =>
      rw [Mapper.make_ok hstart]
      exact hstarts.append (tidy_build tidy draft hstarts.ends)

end

section

variable {mapper : Mapper} {request : Request} {within : Course}

theorem Orderly.begin_of_begins (orderly : Orderly mapper.schema state)
    (begins : mapper.Begins key state) : Orderly mapper.schema (state.begin key) :=
  orderly.begin begins.1 begins.2.2 (notMem_of_lookup begins.2.1)

theorem tidy_makeAndKeep
    (tidy : ∀ key state, Orderly mapper.schema state →
      Tidy mapper.schema state (within key state) (request key state).2)
    (orderly : Orderly mapper.schema state) (begins : mapper.Begins key state) :
    Tidy mapper.schema state (mapper.makeAndKeepCourse request within key state)
      (mapper.makeAndKeep request key state).2 := by
  have hbegin := orderly.begin_of_begins begins
  have hmakes := tidy_make tidy mapper key hbegin
  unfold Mapper.makeAndKeepCourse
  cases hmade : (mapper.make request key).run (state.begin key) with
  | mk outcome made =>
  rw [hmade] at hmakes
  have hbegun : (made.finish key).begun = state.begun :=
    MapperState.begun_finish hmakes.begun begins.2.2
  have hfinish := hmakes.ends.finish key
  have hmaking := List.forall_mem_cons.2 ⟨hbegin, hmakes.orderly⟩
  cases outcome with
  | error cause =>
      rw [Mapper.makeAndKeep_error hmade]
      exact ⟨List.forall_mem_append.2 ⟨hmaking, by simpa using hfinish⟩, hfinish, hbegun⟩
  | ok model =>
      rw [Mapper.makeAndKeep_ok hmade]
      have hkey : key ∈ made.begun := by
        rw [show made.begun = key :: state.begun from hmakes.begun]
        exact List.mem_cons_self
      have hkeep := hmakes.ends.keep hkey model
      refine ⟨List.forall_mem_append.2 ⟨hmaking, ?_⟩, hkeep.write _, hbegun⟩
      simpa using ⟨hfinish, hkeep, hkeep.write (Mapper.keptRecord model)⟩

/-- Every state on the way of a request is orderly, and the request leaves begun what was begun. -/
theorem tidy_request (mapper : Mapper) (levels : Nat) (key : TypeKey) (state : MapperState)
    (orderly : Orderly mapper.schema state) :
    Tidy mapper.schema state (mapper.requestCourse levels key state)
      (mapper.request levels key state).2 := by
  induction levels generalizing key state with
  | zero => exact .nil orderly
  | succ levels ih =>
      rw [Mapper.requestCourse, Mapper.request]
      rcases mapper.answerOnce_cases key state with ⟨answer, standing, hanswer⟩ | ⟨begins, hmakes⟩
      · rw [if_neg standing.not_begins, hanswer]
        exact .nil orderly
      · rw [if_pos begins, hmakes]
        exact tidy_makeAndKeep ih orderly begins

/-- Nothing is kept of a type whose model was refused. -/
theorem Orderly.cached?_of_error {levels : Nat} {cause : MappingError}
    (orderly : Orderly mapper.schema state)
    (h : (mapper.request (levels + 1) key state).1 = .error cause) :
    (mapper.request (levels + 1) key state).2.cached? key = none := by
  rw [Mapper.request] at h ⊢
  rcases mapper.answerOnce_cases key state with ⟨answer, standing, hanswer⟩ | ⟨begins, hmakes⟩
  · rw [hanswer] at h ⊢
    cases standing with
    | unmappable | kept | staged => cases h
    | cyclic _ hcached => exact hcached
  · have hmade := tidy_make (tidy_request mapper levels) mapper key (orderly.begin_of_begins begins)
    rw [hmakes] at h ⊢
    cases hmake : (mapper.make (mapper.request levels) key).run (state.begin key) with
    | mk outcome made =>
    rw [hmake] at hmade
    cases outcome with
    | ok model =>
        rw [Mapper.makeAndKeep_ok hmake] at h
        cases h
    | error cause =>
        rw [Mapper.makeAndKeep_error hmake]
        have hbegun : made.begun = key :: state.begun := hmade.begun
        exact hmade.ends.cached?_of_begun (hbegun ▸ List.mem_cons_self)

end

end ObjectDocument
