import ObjectDocument.Proofs.Outcome
import ObjectDocument.Mapper

/-!
# Answered consultations

A consultation whose requests are answered goes on from the state that its first part leaves, or
ends there with the error of the first part.
-/

namespace ObjectDocument

theorem Consult.answer_bind {α β : Type} (first : Consult α) (next : α → Consult β)
    (request : Request) (state : MapperState) :
    (first >>= next).answer request state =
      (next (first.answer request state).1).answer request (first.answer request state).2 := by
  change (first.bind next).answer request state = _
  induction first generalizing state with
  | done value => rfl
  | note record rest ih => exact ih (state.write record)
  | ask key resume ih => exact ih (request key state).1 (request key state).2

namespace ConsultM

variable {α β : Type} {first : ConsultM α} {next : α → ConsultM β} {request : Request}
  {before after : MapperState}

theorem answer_bind_ok {a : α} (h : first.run.answer request before = (.ok a, after)) :
    (first >>= next).run.answer request before = (next a).run.answer request after := by
  rw [ExceptT.run_bind, Consult.answer_bind, h]

theorem answer_bind_error {cause : MappingError}
    (h : first.run.answer request before = (.error cause, after)) :
    (first >>= next).run.answer request before = (.error cause, after) := by
  rw [ExceptT.run_bind, Consult.answer_bind, h]
  rfl

theorem answer_bind (first : ConsultM α) (next : α → ConsultM β) (request : Request) :
    (first >>= next).answer request =
      first.answer request >>= fun a => (next a).answer request := by
  refine ExceptT.ext (funext fun state => ?_)
  change (first >>= next).run.answer request state =
    ((first.answer request >>= fun a => (next a).answer request).run).run state
  have hfirst : ((first.answer request).run).run state = first.run.answer request state := rfl
  cases h : first.run.answer request state with
  | mk outcome between =>
      rw [ExceptT.run_bind (first.answer request), StateT.run_bind, hfirst, h]
      cases outcome with
      | ok a => exact answer_bind_ok h
      | error cause => exact answer_bind_error h

theorem answer_bind_eq_ok_iff {b : β} :
    (first >>= next).run.answer request before = (.ok b, after) ↔
      ∃ a between, first.run.answer request before = (.ok a, between) ∧
        (next a).run.answer request between = (.ok b, after) := by
  cases h : first.run.answer request before with
  | mk outcome between =>
  cases outcome with
  | ok a =>
      rw [answer_bind_ok h]
      constructor
      · exact fun hnext => ⟨a, between, rfl, hnext⟩
      · rintro ⟨_, _, heq, hnext⟩
        cases heq
        exact hnext
  | error cause =>
      rw [answer_bind_error h]
      constructor
      · intro heq
        cases heq
      · rintro ⟨_, _, heq, -⟩
        cases heq

theorem answer_pure_eq_ok_iff {a b : β} :
    (pure a : ConsultM β).run.answer request before = (.ok b, after) ↔ a = b ∧ before = after := by
  change (Except.ok a, before) = (Except.ok b, after) ↔ _
  simp

theorem answer_map_eq_ok_iff {f : α → β} {b : β} :
    (f <$> first).run.answer request before = (.ok b, after) ↔
      ∃ a, first.run.answer request before = (.ok a, after) ∧ f a = b := by
  rw [← bind_pure_comp, answer_bind_eq_ok_iff]
  constructor
  · rintro ⟨a, between, ha, hpure⟩
    obtain ⟨rfl, rfl⟩ := answer_pure_eq_ok_iff.1 hpure
    exact ⟨a, ha, rfl⟩
  · rintro ⟨a, ha, rfl⟩
    exact ⟨a, after, ha, rfl⟩

theorem answer_mapM_request (keys : List TypeKey) (request : Request) :
    (keys.mapM ConsultM.request).answer request =
      keys.mapM fun key => ExceptT.mk (request key) := by
  induction keys with
  | nil => rfl
  | cons key keys ih =>
      rw [List.mapM_cons, List.mapM_cons, answer_bind]
      refine bind_congr fun model => ?_
      rw [answer_bind, ih]
      rfl

end ConsultM

end ObjectDocument
