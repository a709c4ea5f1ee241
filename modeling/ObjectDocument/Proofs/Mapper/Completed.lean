import ObjectDocument.Proofs.Mapper.History

/-!
# Models come from completed drafts

Whatever conventions and rules a mapper has, and whatever it was asked for earlier, a model that is
an answer is that of a draft that was started with earlier answers, and that the conventions have
completed.  So what holds of every model that is made of answers of which it holds is true of every
model (`good_of_answerAfter`).  In particular, what conventions establish of a draft holds of every
model (`makes_of_answerAfter`).
-/

namespace ObjectDocument

namespace Mapper

variable {mapper : Mapper} {request : Request} {key : TypeKey} {state : MapperState}
  {model : EntityModel} {good : TypeKey → EntityModel → Prop}

def AllGood (good : TypeKey → EntityModel → Prop) (state : MapperState) : Prop :=
  ∀ entry ∈ state.entries, good entry.1 entry.2

/-- The answer is a good model, or an error, or none of a type that has no model. -/
structure GoodAnswer (mapper : Mapper) (good : TypeKey → EntityModel → Prop) (key : TypeKey)
    (answer : ModelAnswer) : Prop where
  model : ∀ model, answer = .ok (some model) → good key model
  none : answer = .ok none → ¬mapper.schema.isMappable key

theorem GoodAnswer.error (cause : MappingError) : mapper.GoodAnswer good key (.error cause) := by
  constructor <;> simp

theorem GoodAnswer.of_good (h : good key model) :
    mapper.GoodAnswer good key (.ok (some model)) := by
  constructor <;> simp [h]

/-- What every way of answering requests does when the models at hand are good. -/
structure Supplies (mapper : Mapper) (good : TypeKey → EntityModel → Prop) (request : Request) :
    Prop where
  state : ∀ {key state}, AllGood good state → AllGood good (request key state).2
  answer : ∀ {key state}, AllGood good state → mapper.GoodAnswer good key (request key state).1

/-- What is made of good answers is good, for the type that was asked for and for that of the
model. -/
def KeepsGood (mapper : Mapper) (good : TypeKey → EntityModel → Prop) : Prop :=
  ∀ {key : TypeKey} {begins exchange : Exchange} {draft : ModelDraft} {made : EntityModel}
    (serial : Nat), (ModelDraft.start mapper.context key).run.Yields begins (.ok draft) →
    (∀ entry ∈ begins, mapper.GoodAnswer good entry.1 entry.2) →
    (mapper.complete draft).run.Yields exchange (.ok made) →
    good key { made with serial } ∧ good made.typeKey { made with serial }

namespace AllGood

theorem initial : AllGood good {} :=
  fun _ h => absurd h List.not_mem_nil

theorem stage (h : AllGood good state) (hmodel : good model.typeKey model) :
    AllGood good (state.stage model) := by
  unfold MapperState.stage
  by_cases hbegun : model.typeKey ∈ state.begun
  · rw [if_pos hbegun]
    intro entry hentry
    rcases List.mem_append.1 hentry with hentry | hentry
    · exact h entry (List.mem_append_left _ hentry)
    · rcases OrderedMap.mem_insert hentry with rfl | hentry
      · exact hmodel
      · exact h entry (List.mem_append_right _ hentry)
  · rwa [if_neg hbegun]

theorem begin (h : AllGood good state) (key : TypeKey) : AllGood good (state.begin key) :=
  h

theorem finish (h : AllGood good state) (key : TypeKey) : AllGood good (state.finish key) :=
  fun entry hentry => h entry (MapperState.entries_finish_subset key state hentry)

theorem keep (h : AllGood good state) (hmodel : good key model) :
    AllGood good ((state.finish key).keep key model) := by
  intro entry hentry
  rcases List.mem_cons.1 (MapperState.entries_keep_subset key model state hentry) with rfl | hentry
  · exact hmodel
  · exact h entry hentry

theorem answer (h : AllGood good state) (supplies : mapper.Supplies good request) {α : Type}
    (consult : Consult α) : AllGood good (consult.answer request state).2 :=
  Consult.run_induction MapperState.write request (AllGood good) (fun _ _ h => h)
    (fun _ _ h => supplies.state h) consult state h

end AllGood

theorem Supplies.goodAnswer {before after : MapperState} {exchange : Exchange}
    (supplies : mapper.Supplies good request) (h : Serves request before exchange after)
    (hbefore : AllGood good before) :
    ∀ entry ∈ exchange, mapper.GoodAnswer good entry.1 entry.2 := by
  rintro ⟨key, answer⟩ hentry
  obtain ⟨first, rest, rfl⟩ := List.append_of_mem hentry
  obtain ⟨state, hstate, rfl, -⟩ := Serves.exists_at (AllGood good) (fun _ _ h => h)
    (fun _ _ _ h _ => supplies.state h) h hbefore
  exact supplies.answer hstate

theorem allGood_check (supplies : mapper.Supplies good request) (h : AllGood good state)
    (hmodel : good key model) :
    let checked : MapperM EntityModel :=
      (mapper.options.validator.check mapper.context model).answer request >>= fun _ => pure model
    AllGood good (checked.run state).2 ∧
      ∀ found, (checked.run state).1 = .ok found → good key found := by
  have hafter := h.answer supplies (mapper.options.validator.check mapper.context model).run
  cases hcheck :
      (mapper.options.validator.check mapper.context model).run.answer request state with
  | mk outcome after =>
  rw [hcheck] at hafter
  cases outcome with
  | error cause =>
      intro checked
      have hrun : checked.run state = (.error cause, after) := MapperM.run_bind_error hcheck
      rw [hrun]
      exact ⟨hafter, fun _ hfound => by cases hfound⟩
  | ok passed =>
      intro checked
      have hrun : checked.run state = (.ok model, after) := MapperM.run_bind_ok hcheck
      rw [hrun]
      exact ⟨hafter, fun _ hfound => Except.ok.inj hfound ▸ hmodel⟩

section

variable (keeps : mapper.KeepsGood good)

include keeps

theorem allGood_build (supplies : mapper.Supplies good request) (h : AllGood good state)
    {begins : Exchange} {draft : ModelDraft}
    (hstart : (ModelDraft.start mapper.context key).run.Yields begins (.ok draft))
    (hbegins : ∀ entry ∈ begins, mapper.GoodAnswer good entry.1 entry.2) :
    AllGood good ((mapper.build request draft).run state).2 ∧
      ∀ model, ((mapper.build request draft).run state).1 = .ok model → good key model := by
  obtain ⟨exchange, hcompletes, -⟩ :=
    Serves.exists_yields_serves request (mapper.complete draft).run state
  have hbefore := h.answer supplies (mapper.complete draft).run
  cases hcomplete : (mapper.complete draft).run.answer request state with
  | mk outcome before =>
  rw [hcomplete] at hcompletes hbefore
  cases outcome with
  | error cause =>
      have hbuild : (mapper.build request draft).run state = (.error cause, before) :=
        MapperM.run_bind_error hcomplete
      rw [hbuild]
      exact ⟨hbefore, fun _ hmodel => by cases hmodel⟩
  | ok made =>
      obtain ⟨hasked, hmade⟩ := keeps before.serial hstart hbegins hcompletes
      have hstaged : AllGood good (MapperState.stage { made with serial := before.serial }
          { before with serial := before.serial + 1 }) := AllGood.stage hbefore hmade
      rw [build_made hcomplete]
      exact allGood_check supplies hstaged hasked

theorem allGood_make (supplies : mapper.Supplies good request) (h : AllGood good state)
    (key : TypeKey) :
    AllGood good ((mapper.make request key).run state).2 ∧
      ∀ model, ((mapper.make request key).run state).1 = .ok model → good key model := by
  obtain ⟨begins, hstarts, hserves⟩ :=
    Serves.exists_yields_serves request (ModelDraft.start mapper.context key).run state
  have hbetween := h.answer supplies (ModelDraft.start mapper.context key).run
  cases hstart : (ModelDraft.start mapper.context key).run.answer request state with
  | mk outcome between =>
  rw [hstart] at hstarts hbetween
  cases outcome with
  | error cause =>
      have hmake : (mapper.make request key).run state = (.error cause, between) :=
        MapperM.run_bind_error hstart
      rw [hmake]
      exact ⟨hbetween, fun _ hmodel => by cases hmodel⟩
  | ok draft =>
      have hmake : (mapper.make request key).run state =
          (mapper.build request draft).run between := MapperM.run_bind_ok hstart
      rw [hmake]
      exact allGood_build keeps supplies hbetween hstarts (supplies.goodAnswer hserves h)

theorem supplies_makeAndKeep (supplies : mapper.Supplies good request) :
    mapper.Supplies good (mapper.makeAndKeep request) := by
  refine ⟨fun {key state} h => ?_, fun {key state} h => ?_⟩
  · obtain ⟨hafter, hmodel⟩ := allGood_make keeps supplies (h.begin key) key
    cases hmade : (mapper.make request key).run (state.begin key) with
    | mk outcome after =>
    rw [hmade] at hafter hmodel
    cases outcome with
    | error cause =>
        rw [makeAndKeep_error hmade]
        exact hafter.finish key
    | ok model =>
        rw [makeAndKeep_ok hmade]
        exact hafter.keep (hmodel model rfl)
  · obtain ⟨-, hmodel⟩ := allGood_make keeps supplies (h.begin key) key
    cases hmade : (mapper.make request key).run (state.begin key) with
    | mk outcome after =>
    rw [hmade] at hmodel
    cases outcome with
    | error cause =>
        rw [makeAndKeep_error hmade]
        exact .error cause
    | ok made =>
        rw [makeAndKeep_ok hmade]
        exact .of_good (hmodel made rfl)

omit keeps in
theorem Standing.goodAnswer {answer : ModelAnswer} (h : mapper.Standing key state answer)
    (hgood : AllGood good state) : mapper.GoodAnswer good key answer := by
  cases h with
  | unmappable hmappable =>
      constructor
      · simp
      · exact fun _ => hmappable
  | kept _ hcached => exact .of_good (hgood _ (List.mem_append_left _ (mem_of_lookup hcached)))
  | staged _ _ _ hstaged =>
      exact .of_good (hgood _ (List.mem_append_right _ (mem_of_lookup hstaged)))
  | cyclic => exact .error _

theorem supplies_answerOnce (supplies : mapper.Supplies good request) :
    mapper.Supplies good (mapper.answerOnce request) := by
  have hmakes := supplies_makeAndKeep keeps supplies
  refine ⟨fun {key state} h => ?_, fun {key state} h => ?_⟩
  · rcases mapper.answerOnce_cases key state with ⟨answer, -, heq⟩ | ⟨-, heq⟩
    · rwa [heq]
    · rw [heq]
      exact hmakes.state h
  · rcases mapper.answerOnce_cases key state with ⟨answer, standing, heq⟩ | ⟨-, heq⟩
    · rw [heq]
      exact standing.goodAnswer h
    · rw [heq]
      exact hmakes.answer h

theorem supplies_request (levels : Nat) : mapper.Supplies good (mapper.request levels) := by
  induction levels with
  | zero => exact ⟨fun h => h, fun _ => .error _⟩
  | succ levels ih => exact supplies_answerOnce keeps ih

theorem good_of_answerAfter {earlier : List TypeKey}
    (h : mapper.answerAfter earlier key = .ok (some model)) : good key model := by
  have supplies := supplies_request keeps mapper.levels
  have hstate : AllGood good (mapper.after earlier) :=
    mapper.after_induction (AllGood good) .initial (fun _ _ h => supplies.state h) earlier
  exact (supplies.answer hstate).model model h

end

def Makes (mapper : Mapper) (model : EntityModel) : Prop :=
  ∃ key begins draft exchange made,
    (ModelDraft.start mapper.context key).run.Yields begins (.ok draft) ∧
    (mapper.complete draft).run.Yields exchange (.ok made) ∧
    model = { made with serial := model.serial }

theorem makes_of_answerAfter {earlier : List TypeKey}
    (h : mapper.answerAfter earlier key = .ok (some model)) : mapper.Makes model := by
  have keeps : mapper.KeepsGood fun _ => mapper.Makes := by
    intro key begins exchange draft made serial hstart _ hcompletes
    have hmakes : mapper.Makes { made with serial } :=
      ⟨key, begins, draft, exchange, made, hstart, hcompletes, rfl⟩
    exact ⟨hmakes, hmakes⟩
  exact good_of_answerAfter keeps h

end Mapper

end ObjectDocument
