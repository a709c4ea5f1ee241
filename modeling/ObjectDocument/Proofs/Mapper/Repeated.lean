import ObjectDocument.Proofs.Mapper.Completed
import ObjectDocument.Proofs.Mapper.Orderly

/-!
# Requests made again

Whatever conventions and rules a mapper has, nothing is begun or staged between its requests from
outside, so a request that was answered by a model found it kept or kept it itself, and one that was
answered by none was for a type that has no model.  The same request is therefore answered alike
ever after, and then leaves everything as it is (`Mapper.answer_again`).
-/

namespace ObjectDocument

theorem Way.models {before after : MapperState} {states : List MapperState}
    (h : Way before states after) : before.models <+: after.models := by
  induction h with
  | nil => exact List.prefix_rfl
  | cons change _ ih => exact change.models.trans ih

namespace Mapper

variable {key : TypeKey} {model : EntityModel} {earlier : List TypeKey}

theorem orderly_after (mapper : Mapper) (keys : List TypeKey) :
    Orderly mapper.schema (mapper.after keys) :=
  mapper.after_induction _ .initial
    (fun key state orderly => (tidy_request mapper mapper.levels key state orderly).ends) keys

theorem begun_after (mapper : Mapper) (keys : List TypeKey) : (mapper.after keys).begun = [] := by
  induction keys using List.reverseRecOn with
  | nil => rfl
  | append_singleton keys key ih =>
      rw [after_concat]
      exact (tidy_request mapper mapper.levels key _ (mapper.orderly_after keys)).begun.trans ih

theorem models_after_append (mapper : Mapper) (earlier later : List TypeKey) :
    (mapper.after earlier).models <+: (mapper.after (earlier ++ later)).models := by
  induction later using List.reverseRecOn with
  | nil => exact (List.append_nil earlier).symm ▸ List.prefix_rfl
  | append_singleton later key ih =>
      rw [← List.append_assoc, after_concat]
      exact ih.trans (way_request mapper mapper.levels key _).models

theorem kept_of_answerAfter {mapper : Mapper}
    (h : mapper.answerAfter earlier key = .ok (some model)) :
    (key, model) ∈ (mapper.after (earlier ++ [key])).models := by
  have hbegun := mapper.begun_after earlier
  rw [after_concat]
  change (mapper.answerOnce _ key _).1 = _ at h
  change _ ∈ (mapper.answerOnce _ key _).2.models
  rcases mapper.answerOnce_cases key (mapper.after earlier) with
    ⟨answer, standing, hanswer⟩ | ⟨begins, hmakes⟩
  · rw [hanswer] at h ⊢
    cases standing with
    | unmappable | cyclic => cases h
    | kept _ hcached => cases h; exact mem_of_lookup hcached
    | staged _ _ hstands => rw [hbegun] at hstands; cases hstands
  · rw [hmakes] at h ⊢
    cases hmade : (mapper.make (mapper.request mapper.schema.size) key).run
      ((mapper.after earlier).begin key) with
    | mk outcome made =>
    cases outcome with
    | error cause =>
        rw [makeAndKeep_error hmade] at h
        cases h
    | ok found =>
        rw [makeAndKeep_ok hmade] at h ⊢
        cases h
        exact List.mem_append_right _ List.mem_cons_self

theorem unmappable_of_answerAfter {mapper : Mapper}
    (h : mapper.answerAfter earlier key = .ok none) : ¬mapper.schema.isMappable key := by
  have keeps : mapper.KeepsGood fun _ _ => True := fun _ _ _ _ => ⟨trivial, trivial⟩
  exact ((supplies_request keeps mapper.levels).answer fun _ _ => trivial).none h

/-- A request that was not refused is answered alike whenever what was kept then is kept, and
changes nothing. -/
theorem answer_again {mapper : Mapper} {element : Option EntityModel}
    (h : mapper.answerAfter earlier key = .ok element) {later : List TypeKey}
    (hmodels : (mapper.after (earlier ++ [key])).models ⊆ (mapper.after later).models) :
    mapper.answer key (mapper.after later) = (.ok element, mapper.after later) := by
  cases element with
  | some model =>
      have orderly := mapper.orderly_after later
      have hkept := hmodels (kept_of_answerAfter h)
      exact answerOnce_of_cached (orderly.kept_mappable key (List.mem_map_of_mem hkept))
        (orderly.cached?_eq_some_iff.2 hkept) _
  | none =>
      change mapper.answerOnce _ key _ = _
      rw [answerOnce, if_neg (unmappable_of_answerAfter h)]
      rfl

end Mapper

end ObjectDocument
