import ObjectDocument.Proofs.Mapper.Clear

/-!
# Answers that can be foretold

What a request is answered in a clear state does not depend on which of the models that have passed
are kept already, but only on what is begun and what is staged.  `Context.Foretold` derives the
answer from these.

A request in a clear state that keeps nothing but models of types that have passed is answered as
foretold (`Context.foretells_request`).  Conversely, whatever is foretold is the answer in all clear
states, and nothing else is kept then (`Context.Foretold.gives`).  So what the requests of a history
keep shows in the first requests for the same types.
-/

namespace ObjectDocument

def Context.Faulty (context : Context) (key : TypeKey) : AnswerKind → Prop
  | .model => ¬context.Identifiable key
  | .cyclic => ¬Rule.identifiableInSchema context.schema key
  | .none | .failed => True

/-- What a request is answered when some types are begun and some of them staged, and nothing is
kept but models of types that have passed. -/
inductive Context.Foretold (context : Context) (passed : TypeKey → Prop) :
    List TypeKey → List TypeKey → TypeKey → AnswerKind → Prop where
  | unmappable {begun staged key} (h : context.schema.isMappable key = false) :
      Foretold context passed begun staged key .none
  | passed {begun staged key} (h : passed key) : Foretold context passed begun staged key .model
  | stuck {begun staged key} (h : context.schema.Stuck passed key) :
      Foretold context passed begun staged key .cyclic
  | staged {begun staged key} (h : key ∈ staged) : Foretold context passed begun staged key .model
  | begun {begun staged key} (h : key ∈ begun) (unstaged : key ∉ staged) :
      Foretold context passed begun staged key .cyclic
  | waited {begun staged key before other after kind}
      (unsettled : context.schema.Unsettled passed begun key)
      (required : context.schema.required key = before ++ other :: after)
      (found : ∀ earlier ∈ before, Foretold context passed (key :: begun) staged earlier .model)
      (fails : Foretold context passed (key :: begun) staged other kind)
      (error : kind = .cyclic ∨ kind = .failed) : Foretold context passed begun staged key kind
  | unmade {begun staged key cause} (unsettled : context.schema.Unsettled passed begun key)
      (found : ∀ other ∈ context.schema.required key,
        Foretold context passed (key :: begun) staged other .model)
      (outline : context.outline key = .error cause) :
      Foretold context passed begun staged key .failed
  | refused {begun staged key model} (answers : List (TypeKey × AnswerKind))
      (unsettled : context.schema.Unsettled passed begun key)
      (found : ∀ other ∈ context.schema.required key,
        Foretold context passed (key :: begun) staged other .model)
      (outline : context.outline key = .ok model)
      (asked : answers.map (·.1) = model.foreignReferences)
      (answered : ∀ entry ∈ answers,
        Foretold context passed (key :: begun) (staged ++ [key]) entry.1 entry.2)
      (rejects : model.Passes context → ∃ entry ∈ answers, context.Faulty entry.1 entry.2) :
      Foretold context passed begun staged key .failed

section

variable {context : Context} {passed : TypeKey → Prop} {levels : Nat}
  {begun staged : List TypeKey} {request : Request} {key : TypeKey}
  {state before after : MapperState} {exchange : Exchange}

/-- Which references are at fault is decided by the kinds of the answers. -/
theorem Rule.referenceFault?_eq_none_iff {answer : ModelAnswer}
    (houtline : ∀ model, answer = .ok (some model) → context.outline key = .ok model.contents) :
    Rule.referenceFault? context.schema key answer = none ↔ ¬context.Faulty key answer.kind := by
  match answer, houtline with
  | .ok (some model), houtline =>
      have houtline := houtline model rfl
      have hidentifiable : context.Identifiable key ↔ model.isIdentifiable := by
        refine ⟨fun ⟨outline, hfound, h⟩ => ?_, fun h => ⟨model.contents, houtline, h⟩⟩
        rw [houtline] at hfound
        cases hfound
        exact h
      rw [Rule.referenceFault?_self, ← hidentifiable]
      exact not_not.symm
  | .ok none, _ => simp [Rule.referenceFault?, ModelAnswer.kind, Context.Faulty]
  | .error cause, _ =>
      cases cause <;> simp [Rule.referenceFault?, ModelAnswer.kind, Context.Faulty]

/-! ### What is answered is foretold -/

/-- Requests that keep nothing but models of types that have passed are answered as foretold. -/
def Context.Foretells (context : Context) (passed : TypeKey → Prop) (levels : Nat)
    (request : Request) : Prop :=
  ∀ {begun staged key state}, Clear context passed levels begun staged state →
    (∀ entry ∈ (request key state).2.models, passed entry.1) →
    context.Foretold passed begun staged key (request key state).1.kind

namespace Context.Foretells

variable (foretells : context.Foretells passed levels request)
  (responds : Responds context request)

include foretells responds

theorem of_served (clear : Clear context passed levels begun staged before)
    (served : Serves request before exchange after)
    (kept : ∀ entry ∈ after.models, passed entry.1) :
    ∀ entry ∈ exchange, context.Foretold passed begun staged entry.1 entry.2.kind := by
  intro entry hentry
  obtain ⟨between, steady, hstart, hanswer, hend⟩ :=
    served.exists_answer responds clear.steady hentry
  have hkept : ∀ other ∈ (request entry.1 between).2.models, passed other.1 :=
    fun other hother => kept other (hend.models_subset hother)
  have hbetween : Clear context passed levels begun staged between :=
    clear.grow hstart steady fun other hother =>
      hkept other ((responds.grows steady).models_subset hother)
  rw [← hanswer]
  exact foretells hbetween hkept

theorem of_found {found : List EntityModel}
    (clear : Clear context passed levels begun staged before)
    (served : Serves request before (found.map (·.answered) ++ exchange) after)
    (kept : ∀ entry ∈ after.models, passed entry.1) :
    ∀ other ∈ found.map (·.typeKey), context.Foretold passed begun staged other .model := by
  intro other hother
  obtain ⟨model, hmodel, rfl⟩ := List.mem_map.1 hother
  exact foretells.of_served responds clear served kept model.answered
    (List.mem_append_left _ (List.mem_map_of_mem hmodel))

/-- One level further out, a type that is unsettled unless it is begun is answered as foretold. -/
theorem answered {answer : ModelAnswer}
    (clear : Clear context passed (levels + 1) begun staged state) (hpassed : ¬passed key)
    (hstuck : ¬context.schema.Stuck passed key)
    (h : Answered context request key state answer after)
    (kept : ∀ entry ∈ after.models, passed entry.1) :
    context.Foretold passed begun staged key answer.kind := by
  cases h with
  | unmappable h => exact .unmappable h
  | known h =>
      rcases List.mem_append.1 h with h | h
      · exact absurd (kept _ h) hpassed
      · exact .staged (clear.staged_eq ▸ List.mem_map_of_mem h)
  | cyclic mappable hbegun unstaged =>
      exact .begun (clear.begun_eq ▸ hbegun) (clear.staged_eq ▸ unstaged)
  | @waited found other cause after begins opened served =>
      have unsettled := clear.unsettled_of hpassed hstuck begins
      have hbegin := clear.begin unsettled begins
      obtain ⟨later, hlater⟩ := opened
      rw [List.append_assoc, List.singleton_append] at hlater
      exact .waited unsettled hlater.symm
        (foretells.of_found responds hbegin served kept)
        (foretells.of_served responds hbegin served kept _
          (List.mem_append_right _ List.mem_cons_self)) (ModelAnswer.kind_error cause)
  | @unmade found cause after begins required served outline =>
      have unsettled := clear.unsettled_of hpassed hstuck begins
      rw [← List.append_nil (found.map _)] at served
      rw [Context.kind_of_outline outline]
      refine .unmade unsettled ?_ outline
      rw [← required]
      exact foretells.of_found responds (clear.begin unsettled begins) served kept
  | @refused model failure before exchange after begins stages served asked rejects =>
      have entered := stages.steady_enter responds clear.steady begins
      have hbefore : ∀ entry ∈ before.models, passed entry.1 := fun entry hentry =>
        kept entry ((served.grows responds entered).models_subset hentry)
      have unsettled := clear.unsettled_of hpassed hstuck begins
      have hstage := clear.enter unsettled begins responds stages hbefore
      obtain ⟨found, hfound, -, hserved⟩ := stages.served
      rw [← List.append_nil (found.map _)] at hserved
      refine .refused (exchange.map fun entry => (entry.1, entry.2.kind)) unsettled ?_
        stages.describes.outline (by rw [List.map_map]; exact asked) ?_ ?_
      · rw [← hfound]
        exact foretells.of_found responds (clear.begin unsettled begins) hserved hbefore
      · intro answer hanswer
        obtain ⟨entry, hentry, rfl⟩ := List.mem_map.1 hanswer
        exact foretells.of_served responds hstage served kept entry hentry
      · intro passes
        by_contra hnone
        refine rejects ⟨EntityModel.passes_contents_iff.1 passes, fun entry hentry => ?_⟩
        obtain ⟨between, steady, -, hanswer, -⟩ := served.exists_answer responds entered hentry
        refine (Rule.referenceFault?_eq_none_iff fun model hmodel =>
          responds.outline_of_answer steady (hanswer.trans hmodel)).2 fun hfaulty => hnone ?_
        exact ⟨_, List.mem_map_of_mem hentry, hfaulty⟩
  | made begins stages served asked accepts record =>
      exact absurd (kept (key, _) (List.mem_append_right _ List.mem_cons_self)) hpassed

end Context.Foretells

theorem Context.foretells_request (coherent : context.schema.Coherent)
    (consistent : Consistent context passed (context.schema.Stuck passed)) (levels : Nat) :
    context.Foretells passed levels ((Mapper.standard context).request levels) := by
  induction levels with
  | zero =>
      intro begun staged key state clear
      exact absurd rfl clear.levels_ne_zero
  | succ levels ih =>
      intro begun staged key state clear kept
      by_cases hpassed : passed key
      · rw [(clear.of_passed coherent consistent hpassed).1]
        exact .passed hpassed
      by_cases hstuck : context.schema.Stuck passed key
      · rw [(clear.of_stuck coherent consistent hstuck).1]
        exact .stuck hstuck
      have responds := responds_request coherent levels
      exact ih.answered responds clear hpassed hstuck
        (answered_answerOnce coherent responds key clear.steady) kept

/-! ### What is foretold is answered -/

/-- In all clear states the answer is of the kind, and nothing else is kept. -/
def Context.Gives (context : Context) (passed : TypeKey → Prop) (levels : Nat) (request : Request)
    (begun staged : List TypeKey) (key : TypeKey) (kind : AnswerKind) : Prop :=
  ∀ ⦃state⦄, Clear context passed levels begun staged state →
    (request key state).1.kind = kind ∧ ∀ entry ∈ (request key state).2.models, passed entry.1

section

variable (responds : Responds context request)

include responds

namespace Clear

theorem answer {kind : AnswerKind} (clear : Clear context passed levels begun staged state)
    (gives : context.Gives passed levels request begun staged key kind) :
    Clear context passed levels begun staged (request key state).2 :=
  clear.grow (responds.grows clear.steady) (responds.steady clear.steady) (gives clear).2

variable (clear : Clear context passed levels begun staged before)

include clear

theorem serves (served : Serves request before exchange after)
    (hgives : ∀ key ∈ exchange.map (·.1), ∃ kind,
      context.Gives passed levels request begun staged key kind) :
    Clear context passed levels begun staged after :=
  served.preserves _ (fun record _ clear => clear.write record)
    (fun _ hentry _ clear _ => (hgives _ (List.mem_map_of_mem hentry)).elim fun _ gives =>
      clear.answer responds gives) clear

/-- An answer is of the kind that the request gives, if those before it are. -/
theorem kind_eq {first rest : Exchange} {answer : ModelAnswer} {kind : AnswerKind}
    (served : Serves request before (first ++ (key, answer) :: rest) after)
    (hfirst : ∀ key ∈ first.map (·.1), ∃ kind,
      context.Gives passed levels request begun staged key kind)
    (gives : context.Gives passed levels request begun staged key kind) : answer.kind = kind := by
  obtain ⟨between, hbetween, rfl, -⟩ := Serves.exists_at _
    (fun record _ clear => clear.write record)
    (fun _ hentry _ clear _ => (hfirst _ (List.mem_map_of_mem hentry)).elim fun _ gives =>
      clear.answer responds gives) served clear
  exact (gives hbetween).1

section

variable {found : List EntityModel} {other : TypeKey} {kind : AnswerKind}

theorem kind_failed {cause : MappingError}
    (served : Serves request before (found.map (·.answered) ++ [(other, .error cause)]) after)
    (hfound : ∀ key ∈ found.map (·.typeKey),
      context.Gives passed levels request begun staged key .model)
    (gives : context.Gives passed levels request begun staged other kind) :
    ModelAnswer.kind (.error cause) = kind := by
  refine clear.kind_eq responds served (fun key hkey => ⟨.model, hfound key ?_⟩) gives
  rwa [EntityModel.keys_answered] at hkey

theorem not_failed {cause : MappingError} {keys : List TypeKey}
    (served : Serves request before (found.map (·.answered) ++ [(other, .error cause)]) after)
    (opened : found.map (·.typeKey) ++ [other] <+: keys)
    (hkeys : ∀ key ∈ keys, context.Gives passed levels request begun staged key .model) :
    False := by
  have hkind := clear.kind_failed responds served
    (fun key hkey => hkeys key (opened.subset (List.mem_append_left _ hkey)))
    (hkeys other (opened.subset (List.mem_append_right _ List.mem_cons_self)))
  rcases ModelAnswer.kind_error cause with h | h <;> rw [h] at hkind <;> cases hkind

theorem kind_found {earlier : List TypeKey} {rest : Exchange}
    (served : Serves request before (found.map (·.answered) ++ rest) after)
    (hfound : earlier ++ [other] <+: found.map (·.typeKey))
    (hearlier : ∀ key ∈ earlier, context.Gives passed levels request begun staged key .model)
    (gives : context.Gives passed levels request begun staged other kind) : kind = .model := by
  obtain ⟨first, model, later, rfl, served⟩ := served.exists_found hfound
  refine (clear.kind_eq responds served (fun key hkey => ⟨.model, hearlier key ?_⟩) gives).symm
  rwa [EntityModel.keys_answered] at hkey

/-- Once models were found, the state is clear if they are given. -/
theorem serves_found (served : Serves request before (found.map (·.answered)) after)
    (hfound : ∀ key ∈ found.map (·.typeKey),
      context.Gives passed levels request begun staged key .model) :
    Clear context passed levels begun staged after := by
  refine clear.serves responds served fun key hkey => ⟨.model, hfound key ?_⟩
  rwa [EntityModel.keys_answered] at hkey

end

end Clear

variable {answer : ModelAnswer} {kind : AnswerKind}

omit responds in
theorem Answered.of_unmappable (h : Answered context request key state answer after)
    (steady : Steady context state) (hkey : context.schema.isMappable key = false) :
    answer = .ok none ∧ after = state := by
  have hnot (hmappable : context.schema.isMappable key) : False := by
    rw [hkey] at hmappable
    cases hmappable
  cases h with
  | unmappable => exact ⟨rfl, rfl⟩
  | known h => exact (hnot (steady.describes _ h).mappable).elim
  | cyclic mappable => exact (hnot mappable).elim
  | waited begins | unmade begins | refused begins | made begins =>
      exact (hnot (begins.begun_mappable key List.mem_cons_self)).elim

omit responds in
theorem Answered.of_begun (h : Answered context request key state answer after)
    (steady : Steady context state) (hbegun : key ∈ state.begun) :
    after = state ∧ ((answer.kind = .model ∧ key ∈ state.staged.map (·.1)) ∨
      (answer.kind = .cyclic ∧ key ∉ state.staged.map (·.1))) := by
  cases h with
  | unmappable h =>
      rw [steady.begun_mappable key hbegun] at h
      cases h
  | known h =>
      rcases List.mem_append.1 h with h | h
      · exact absurd hbegun (steady.kept_ended _ h)
      · exact ⟨rfl, .inl ⟨rfl, List.mem_map_of_mem h⟩⟩
  | cyclic mappable begun unstaged => exact ⟨rfl, .inr ⟨rfl, unstaged⟩⟩
  | waited begins | unmade begins | refused begins | made begins =>
      exact absurd hbegun begins.notMem_begun

variable (clear : Clear context passed (levels + 1) begun staged state)
  (unsettled : context.schema.Unsettled passed begun key)

include clear unsettled

/-- A type is answered as the first one that it waits for in vain. -/
theorem Answered.gives_waited {earlier later : List TypeKey} {other : TypeKey}
    (required : context.schema.required key = earlier ++ other :: later)
    (found : ∀ other ∈ earlier,
      context.Gives passed levels request (key :: begun) staged other .model)
    (fails : context.Gives passed levels request (key :: begun) staged other kind)
    (error : kind = .cyclic ∨ kind = .failed)
    (h : Answered context request key state answer after) :
    answer.kind = kind ∧ ∀ entry ∈ after.models, passed entry.1 := by
  have hprefix : earlier ++ [other] <+: context.schema.required key :=
    ⟨later, by rw [required, List.append_assoc, List.singleton_append]⟩
  have hnot : kind ≠ .model := by rcases error with rfl | rfl <;> exact nofun
  have hall {found' : List EntityModel} {after : MapperState}
      (begins : Steady context (state.begin key))
      (hfound : found'.map (·.typeKey) = context.schema.required key)
      (served : Serves request (state.begin key) (found'.map (·.answered)) after) : False := by
    rw [← List.append_nil (found'.map _)] at served
    exact hnot ((clear.begin unsettled begins).kind_found responds served (hfound ▸ hprefix) found
      fails)
  cases h with
  | unmappable h =>
      rw [unsettled.mappable] at h
      cases h
  | known h => exact absurd h (clear.not_known unsettled)
  | cyclic mappable hbegun unstaged => exact absurd (clear.begun_eq ▸ hbegun) unsettled.unbegun
  | @waited models last cause after begins opened served =>
      have hbegin := clear.begin unsettled begins
      -- Neither an earlier type is answered by an error nor this one by a model.
      have hlast : models.map (·.typeKey) ++ [last] = earlier ++ [other] := by
        rcases List.prefix_or_prefix_of_prefix opened hprefix with h | h
        · rcases List.prefix_concat_iff.1 h with h | h
          · exact h
          · exact (hbegin.not_failed responds served h found).elim
        · rcases List.prefix_concat_iff.1 h with h | h
          · exact h.symm
          · exact absurd (hbegin.kind_found responds served h found fails) hnot
      obtain ⟨rfl, hother⟩ := List.append_inj' hlast rfl
      cases hother
      refine ⟨hbegin.kind_failed responds served found fails,
        (hbegin.serves responds served fun entry hentry => ?_).kept⟩
      rw [List.map_append, EntityModel.keys_answered] at hentry
      rcases List.mem_append.1 hentry with hentry | hentry
      · exact ⟨.model, found entry hentry⟩
      · exact ⟨kind, List.mem_singleton.1 hentry ▸ fails⟩
  | unmade begins hmodels served outline => exact (hall begins hmodels served).elim
  | refused begins stages served =>
      obtain ⟨models, hmodels, -, served⟩ := stages.served
      exact (hall begins hmodels served).elim
  | made begins stages served =>
      obtain ⟨models, hmodels, -, served⟩ := stages.served
      exact (hall begins hmodels served).elim

section

variable (found : ∀ other ∈ context.schema.required key,
  context.Gives passed levels request (key :: begun) staged other .model)

include found

theorem Answered.gives_unmade {cause : MappingError}
    (outline : context.outline key = .error cause)
    (h : Answered context request key state answer after) :
    answer.kind = .failed ∧ ∀ entry ∈ after.models, passed entry.1 := by
  cases h with
  | unmappable h =>
      rw [unsettled.mappable] at h
      cases h
  | known h => exact absurd h (clear.not_known unsettled)
  | cyclic mappable hbegun unstaged => exact absurd (clear.begun_eq ▸ hbegun) unsettled.unbegun
  | waited begins opened served =>
      have hbegin := clear.begin unsettled begins
      exact (hbegin.not_failed responds served opened found).elim
  | @unmade models cause after begins required served outline =>
      have hbegin := clear.begin unsettled begins
      exact ⟨Context.kind_of_outline outline,
        (hbegin.serves_found responds served (required ▸ found)).kept⟩
  | refused begins stages | made begins stages =>
      have hmodel := stages.describes.outline
      rw [outline] at hmodel
      cases hmodel

theorem Stages.clear_enter {model : EntityModel} (begins : Steady context (state.begin key))
    (stages : Stages context request key state before model) :
    Clear context passed levels (key :: begun) (staged ++ [key]) (before.enter model) := by
  obtain ⟨models, hmodels, -, served⟩ := stages.served
  exact clear.enter unsettled begins responds stages
    ((clear.begin unsettled begins).serves_found responds served (hmodels ▸ found)).kept

theorem Answered.gives_refused {outline : EntityModel} {answers : List (TypeKey × AnswerKind)}
    (houtline : context.outline key = .ok outline)
    (hasked : answers.map (·.1) = outline.foreignReferences)
    (answered : ∀ entry ∈ answers,
      context.Gives passed levels request (key :: begun) (staged ++ [key]) entry.1 entry.2)
    (rejected : outline.Passes context → ∃ entry ∈ answers, context.Faulty entry.1 entry.2)
    (h : Answered context request key state answer after) :
    answer.kind = .failed ∧ ∀ entry ∈ after.models, passed entry.1 := by
  -- What is asked for on behalf of a model is what the outline refers to.
  have hreferences {model : EntityModel} {exchange : Exchange}
      (describes : context.Describes key model)
      (asked : exchange.map (·.1) = model.foreignReferences) :
      exchange.map (·.1) = answers.map (·.1) := by
    obtain rfl : outline = model.contents :=
      Except.ok.inj (houtline.symm.trans describes.outline)
    exact asked.trans hasked.symm
  have hgives : ∀ other ∈ answers.map (·.1), ∃ kind,
      context.Gives passed levels request (key :: begun) (staged ++ [key]) other kind := by
    intro other hother
    obtain ⟨entry, hentry, rfl⟩ := List.mem_map.1 hother
    exact ⟨entry.2, answered entry hentry⟩
  cases h with
  | unmappable h =>
      rw [unsettled.mappable] at h
      cases h
  | known h => exact absurd h (clear.not_known unsettled)
  | cyclic mappable hbegun unstaged => exact absurd (clear.begun_eq ▸ hbegun) unsettled.unbegun
  | waited begins opened served =>
      exact ((clear.begin unsettled begins).not_failed responds served opened found).elim
  | unmade begins required served unmade =>
      rw [houtline] at unmade
      cases unmade
  | refused begins stages served asked =>
      have hstage := stages.clear_enter responds clear unsettled found begins
      refine ⟨rfl, (hstage.serves responds served ?_).kept⟩
      rwa [hreferences stages.describes asked]
  | @made model before exchange after begins stages served asked accepts =>
      have hstage := stages.clear_enter responds clear unsettled found begins
      have hexchange := hreferences stages.describes asked
      obtain rfl : outline = model.contents :=
        Except.ok.inj (houtline.symm.trans stages.describes.outline)
      obtain ⟨entry, hentry, hfaulty⟩ :=
        rejected (EntityModel.passes_contents_iff.2 accepts.toPasses)
      have hmem : entry.1 ∈ exchange.map (·.1) := hexchange ▸ List.mem_map_of_mem hentry
      obtain ⟨⟨other, reply⟩, hreply, rfl⟩ := List.mem_map.1 hmem
      obtain ⟨between, steady, -, hanswer, -⟩ :=
        served.exists_answer responds hstage.steady hreply
      have hnot := (Rule.referenceFault?_eq_none_iff fun model hmodel =>
        responds.outline_of_answer steady (hanswer.trans hmodel)).1
          (accepts.others _ hreply)
      obtain ⟨first, rest, rfl⟩ := List.append_of_mem hreply
      have hkind := hstage.kind_eq responds served (fun other hother => hgives other ?_)
        (answered entry hentry)
      · rw [hkind] at hnot
        exact absurd hfaulty hnot
      · rw [← hexchange, List.map_append]
        exact List.mem_append_left _ hother

end

end

/-- Some level is left in a clear state, and there the answer is given once. -/
theorem Context.gives_of_answered (coherent : context.schema.Coherent) {kind : AnswerKind}
    (h : ∀ {levels state answer after},
      Responds context ((Mapper.standard context).request levels) →
      Clear context passed (levels + 1) begun staged state →
      Answered context ((Mapper.standard context).request levels) key state answer after →
      answer.kind = kind ∧ ∀ entry ∈ after.models, passed entry.1) (levels : Nat) :
    context.Gives passed levels ((Mapper.standard context).request levels) begun staged key
      kind := by
  intro state clear
  obtain ⟨levels, rfl⟩ := Nat.exists_eq_succ_of_ne_zero clear.levels_ne_zero
  have responds := responds_request coherent levels
  exact h responds clear (answered_answerOnce coherent responds key clear.steady)

/-- What is foretold is the answer in all clear states. -/
theorem Context.Foretold.gives {kind : AnswerKind} (coherent : context.schema.Coherent)
    (consistent : Consistent context passed (context.schema.Stuck passed))
    (h : context.Foretold passed begun staged key kind) (levels : Nat) :
    context.Gives passed levels ((Mapper.standard context).request levels) begun staged key
      kind := by
  induction h generalizing levels with
  | passed h => exact fun _ clear => clear.of_passed coherent consistent h
  | stuck h => exact fun _ clear => clear.of_stuck coherent consistent h
  | unmappable h =>
      refine gives_of_answered coherent (fun _ clear answered => ?_) levels
      obtain ⟨rfl, rfl⟩ := answered.of_unmappable clear.steady h
      exact ⟨rfl, clear.kept⟩
  | staged h =>
      refine gives_of_answered coherent (fun _ clear answered => ?_) levels
      rw [← clear.staged_eq] at h
      obtain ⟨entry, hentry, rfl⟩ := List.mem_map.1 h
      obtain ⟨rfl, ⟨hkind, -⟩ | ⟨-, hnot⟩⟩ := answered.of_begun clear.steady
        (clear.steady.staged_begun entry hentry)
      · exact ⟨hkind, clear.kept⟩
      · exact absurd h hnot
  | begun h unstaged =>
      refine gives_of_answered coherent (fun _ clear answered => ?_) levels
      rw [← clear.begun_eq] at h
      rw [← clear.staged_eq] at unstaged
      obtain ⟨rfl, ⟨-, hstaged⟩ | ⟨hkind, -⟩⟩ := answered.of_begun clear.steady h
      · exact absurd hstaged unstaged
      · exact ⟨hkind, clear.kept⟩
  | waited unsettled required found fails error ihfound ihfails =>
      exact gives_of_answered coherent (fun responds clear answered =>
        answered.gives_waited responds clear unsettled required (fun other hother =>
          ihfound other hother _) (ihfails _) error) levels
  | unmade unsettled found outline ih =>
      exact gives_of_answered coherent (fun responds clear answered =>
        answered.gives_unmade responds clear unsettled (fun other hother => ih other hother _)
          outline) levels
  | refused answers unsettled found outline asked answered rejects ihfound ihanswered =>
      exact gives_of_answered coherent (fun responds clear h =>
        h.gives_refused responds clear unsettled (fun other hother => ihfound other hother _)
          outline asked (fun entry hentry => ihanswered entry hentry _) rejects) levels

end

end ObjectDocument
