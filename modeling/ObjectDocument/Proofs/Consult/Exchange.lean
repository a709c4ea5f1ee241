import ObjectDocument.Mapper

/-!
# Exchanges

What a consultation comes to is decided by the answers that it gets and by nothing else.  An
exchange lists the types that were asked for, each with its answer, and `Consult.Yields c e v` says
that the consultation `c` comes to the value `v` when it gets the answers of `e`.  The other half is
the side that answers: `Serves request s e t` says that a way of answering requests, starting from
the state `s`, gives the answers of `e` one after another and ends in the state `t`.

`Serves.exists_yields_serves` cuts a run into these two halves.  What a convention or a rule does is
then said with `Yields` alone, and what a mapper goes through with `Serves` alone.
-/

namespace ObjectDocument

abbrev Exchange := List (TypeKey × ModelAnswer)

namespace Consult

/-- The consultation comes to the value when it gets the answers of the exchange. -/
inductive Yields {α : Type} : Consult α → Exchange → α → Prop where
  | done (value : α) : Yields (done value) [] value
  | note {record next exchange value} (h : Yields next exchange value) :
      Yields (note record next) exchange value
  | ask {key resume answer exchange value} (h : Yields (resume answer) exchange value) :
      Yields (ask key resume) ((key, answer) :: exchange) value

theorem yields_done_iff {α : Type} {a value : α} {exchange : Exchange} :
    Yields (done a) exchange value ↔ exchange = [] ∧ value = a := by
  constructor
  · intro h
    cases h
    exact ⟨rfl, rfl⟩
  · rintro ⟨rfl, rfl⟩
    exact .done _

theorem yields_pure_iff {α : Type} {a value : α} {exchange : Exchange} :
    Yields (pure a) exchange value ↔ exchange = [] ∧ value = a :=
  yields_done_iff

theorem yields_note_iff {α : Type} {record : LogRecord} {next : Consult α} {exchange : Exchange}
    {value : α} : Yields (note record next) exchange value ↔ Yields next exchange value := by
  constructor
  · intro h
    cases h
    assumption
  · exact .note

/-- The exchange of one computation after another is that of the first followed by that of the
second. -/
theorem yields_bind_iff {α β : Type} {first : Consult α} {next : α → Consult β}
    {exchange : Exchange} {value : β} :
    Yields (first >>= next) exchange value ↔
      ∃ before after a, exchange = before ++ after ∧ Yields first before a ∧
        Yields (next a) after value := by
  change Yields (first.bind next) exchange value ↔ _
  induction first generalizing exchange with
  | done a =>
      constructor
      · exact fun h => ⟨[], exchange, a, rfl, .done a, h⟩
      · rintro ⟨before, after, b, rfl, hbefore, hafter⟩
        obtain ⟨rfl, rfl⟩ := yields_done_iff.1 hbefore
        exact hafter
  | note record rest ih =>
      simp only [bind, yields_note_iff, ih]
  | ask key resume ih =>
      constructor
      · intro h
        cases h with
        | ask h =>
            obtain ⟨before, after, a, rfl, hbefore, hafter⟩ := (ih _).1 h
            exact ⟨_, after, a, rfl, .ask hbefore, hafter⟩
      · rintro ⟨before, after, a, rfl, hbefore, hafter⟩
        cases hbefore with
        | ask hbefore => exact .ask ((ih _).2 ⟨_, after, a, rfl, hbefore, hafter⟩)

theorem yields_map_iff {α β : Type} {consult : Consult α} {f : α → β} {exchange : Exchange}
    {value : β} :
    Yields (f <$> consult) exchange value ↔ ∃ a, Yields consult exchange a ∧ value = f a := by
  rw [← bind_pure_comp, yields_bind_iff]
  constructor
  · rintro ⟨before, after, a, rfl, hbefore, hafter⟩
    obtain ⟨rfl, rfl⟩ := yields_pure_iff.1 hafter
    exact ⟨a, by simpa using hbefore, rfl⟩
  · rintro ⟨a, h, rfl⟩
    exact ⟨exchange, [], a, by simp, h, yields_pure_iff.2 ⟨rfl, rfl⟩⟩

theorem yields_request_iff {key : TypeKey} {exchange : Exchange} {answer : ModelAnswer} :
    Yields (request key) exchange answer ↔ exchange = [(key, answer)] := by
  constructor
  · intro h
    cases h with
    | ask h =>
        obtain ⟨rfl, rfl⟩ := yields_done_iff.1 h
        rfl
  · rintro rfl
    exact .ask (.done _)

theorem yields_tell_iff {record : LogRecord} {exchange : Exchange} {value : Unit} :
    Yields (tell record) exchange value ↔ exchange = [] := by
  rw [tell, yields_note_iff, yields_done_iff]
  simp

theorem yields_tellAll_iff {records : List LogRecord} {exchange : Exchange} {value : Unit} :
    Yields (tellAll records) exchange value ↔ exchange = [] := by
  induction records with
  | nil => simp [tellAll, yields_done_iff]
  | cons record records ih =>
      rw [← ih]
      exact yields_note_iff

theorem yields_mapM_of_silent {α β : Type} {f : α → Consult β} {g : α → β} {as : List α}
    (silent : ∀ a ∈ as, ∀ exchange value, Yields (f a) exchange value → exchange = [] ∧ value = g a)
    {exchange : Exchange} {values : List β} (h : Yields (as.mapM f) exchange values) :
    exchange = [] ∧ values = as.map g := by
  induction as generalizing exchange values with
  | nil => simpa [yields_pure_iff] using h
  | cons a as ih =>
      simp only [List.mapM_cons, yields_bind_iff, yields_pure_iff] at h
      obtain ⟨_, _, value, rfl, hvalue, _, _, rest, rfl, hrest, rfl, rfl⟩ := h
      obtain ⟨rfl, rfl⟩ := silent a (by simp) _ _ hvalue
      obtain ⟨rfl, rfl⟩ := ih (fun a ha => silent a (by simp [ha])) hrest
      simp

end Consult

namespace ConsultM

/-- A consultation that may fail goes on to its second part, or ends with the error of the first. -/
theorem yields_bind_iff {α β : Type} {first : ConsultM α} {next : α → ConsultM β}
    {exchange : Exchange} {outcome : Except MappingError β} :
    (first >>= next).run.Yields exchange outcome ↔
      (∃ before after a, exchange = before ++ after ∧ first.run.Yields before (.ok a) ∧
        (next a).run.Yields after outcome) ∨
      ∃ cause, first.run.Yields exchange (.error cause) ∧ outcome = .error cause := by
  rw [ExceptT.run_bind, Consult.yields_bind_iff]
  constructor
  · rintro ⟨before, after, value, rfl, hbefore, hafter⟩
    cases value with
    | ok a => exact .inl ⟨before, after, a, rfl, hbefore, hafter⟩
    | error cause =>
        obtain ⟨rfl, rfl⟩ := Consult.yields_pure_iff.1 hafter
        exact .inr ⟨cause, by simpa using hbefore, rfl⟩
  · rintro (⟨before, after, a, rfl, hbefore, hafter⟩ | ⟨cause, h, rfl⟩)
    · exact ⟨before, after, _, rfl, hbefore, hafter⟩
    · exact ⟨exchange, [], _, by simp, h, Consult.yields_pure_iff.2 ⟨rfl, rfl⟩⟩

theorem yields_pure_iff {α : Type} {a : α} {exchange : Exchange}
    {outcome : Except MappingError α} :
    (pure a : ConsultM α).run.Yields exchange outcome ↔ exchange = [] ∧ outcome = .ok a :=
  Consult.yields_pure_iff

theorem yields_throw_iff {α : Type} {cause : MappingError} {exchange : Exchange}
    {outcome : Except MappingError α} :
    (throw cause : ConsultM α).run.Yields exchange outcome ↔
      exchange = [] ∧ outcome = .error cause :=
  Consult.yields_pure_iff

theorem yields_ofExcept_iff {α : Type} {found outcome : Except MappingError α}
    {exchange : Exchange} :
    (ofExcept found).run.Yields exchange outcome ↔ exchange = [] ∧ outcome = found :=
  Consult.yields_done_iff

theorem yields_lift_iff {α : Type} {consult : Consult α} {exchange : Exchange}
    {outcome : Except MappingError α} :
    (ExceptT.lift consult : ConsultM α).run.Yields exchange outcome ↔
      ∃ a, consult.Yields exchange a ∧ outcome = .ok a :=
  Consult.yields_map_iff

theorem yields_tell_iff {record : LogRecord} {exchange : Exchange}
    {outcome : Except MappingError Unit} :
    (tell record).run.Yields exchange outcome ↔ exchange = [] ∧ outcome = .ok () := by
  rw [tell, yields_lift_iff]
  constructor
  · rintro ⟨told, h, rfl⟩
    exact ⟨Consult.yields_tell_iff.1 h, rfl⟩
  · rintro ⟨rfl, rfl⟩
    exact ⟨(), Consult.yields_tell_iff.2 rfl, rfl⟩

theorem yields_request_iff {key : TypeKey} {exchange : Exchange} {answer : ModelAnswer} :
    (request key).run.Yields exchange answer ↔ exchange = [(key, answer)] :=
  Consult.yields_request_iff

/-- Requests one after another: all of them are answered by models, or the first that is not ends
the sequence with its error. -/
theorem yields_mapM_request {keys : List TypeKey} {exchange : Exchange}
    {outcome : Except MappingError (List (Option EntityModel))}
    (h : (keys.mapM request : ConsultM _).run.Yields exchange outcome) :
    (∃ found : List (TypeKey × Option EntityModel), found.map (·.1) = keys ∧
      exchange = found.map (fun entry => (entry.1, .ok entry.2)) ∧
      outcome = .ok (found.map (·.2))) ∨
    ∃ (found : List (TypeKey × Option EntityModel)) (key : TypeKey) (cause : MappingError),
      found.map (·.1) ++ [key] <+: keys ∧
      exchange = found.map (fun entry => (entry.1, .ok entry.2)) ++ [(key, .error cause)] ∧
      outcome = .error cause := by
  induction keys generalizing exchange outcome with
  | nil =>
      obtain ⟨rfl, rfl⟩ := yields_pure_iff.1 h
      exact .inl ⟨[], rfl, rfl, rfl⟩
  | cons key keys ih =>
      rw [List.mapM_cons, yields_bind_iff] at h
      rcases h with ⟨before, after, model, rfl, hmodel, h⟩ | ⟨cause, h, rfl⟩
      · obtain rfl := yields_request_iff.1 hmodel
        rw [yields_bind_iff] at h
        rcases h with ⟨before, after, models, rfl, hmodels, h⟩ | ⟨cause, h, rfl⟩
        · obtain ⟨rfl, rfl⟩ := yields_pure_iff.1 h
          rcases ih hmodels with ⟨found, rfl, rfl, houtcome⟩ | ⟨_, _, _, _, _, houtcome⟩
          · cases houtcome
            exact .inl ⟨(key, model) :: found, by simp⟩
          · cases houtcome
        · rcases ih h with ⟨_, _, _, houtcome⟩ | ⟨found, last, _, hprefix, rfl, houtcome⟩
          · cases houtcome
          · cases houtcome
            exact .inr ⟨(key, model) :: found, last, cause, by simpa using hprefix, by simp⟩
      · obtain rfl := yields_request_iff.1 h
        exact .inr ⟨[], key, cause, by simp⟩

end ConsultM

namespace DraftM

/-- A step on a draft goes on to its second part on the draft that the first leaves, or ends with
the error of the first. -/
theorem yields_bind_iff {α β : Type} {first : DraftM α} {next : α → DraftM β} {draft : ModelDraft}
    {exchange : Exchange} {outcome : Except MappingError β × ModelDraft} :
    ((first >>= next).run.run draft).Yields exchange outcome ↔
      (∃ before after a between, exchange = before ++ after ∧
        (first.run.run draft).Yields before (.ok a, between) ∧
        ((next a).run.run between).Yields after outcome) ∨
      ∃ cause between, (first.run.run draft).Yields exchange (.error cause, between) ∧
        outcome = (.error cause, between) := by
  rw [ExceptT.run_bind, StateT.run_bind, Consult.yields_bind_iff]
  constructor
  · rintro ⟨before, after, ⟨value, between⟩, rfl, hbefore, hafter⟩
    cases value with
    | ok a => exact .inl ⟨before, after, a, between, rfl, hbefore, hafter⟩
    | error cause =>
        obtain ⟨rfl, rfl⟩ := Consult.yields_pure_iff.1 hafter
        exact .inr ⟨cause, between, by simpa using hbefore, rfl⟩
  · rintro (⟨before, after, a, between, rfl, hbefore, hafter⟩ | ⟨cause, between, h, rfl⟩)
    · exact ⟨before, after, _, rfl, hbefore, hafter⟩
    · exact ⟨exchange, [], _, by simp, h, Consult.yields_pure_iff.2 ⟨rfl, rfl⟩⟩

theorem yields_pure_iff {α : Type} {a : α} {draft : ModelDraft} {exchange : Exchange}
    {outcome : Except MappingError α × ModelDraft} :
    ((pure a : DraftM α).run.run draft).Yields exchange outcome ↔
      exchange = [] ∧ outcome = (.ok a, draft) :=
  Consult.yields_pure_iff

theorem yields_get_iff {draft : ModelDraft} {exchange : Exchange}
    {outcome : Except MappingError ModelDraft × ModelDraft} :
    ((get : DraftM ModelDraft).run.run draft).Yields exchange outcome ↔
      exchange = [] ∧ outcome = (.ok draft, draft) :=
  Consult.yields_pure_iff

theorem yields_set_iff {draft changed : ModelDraft} {exchange : Exchange}
    {outcome : Except MappingError Unit × ModelDraft} :
    ((set changed : DraftM PUnit).run.run draft).Yields exchange outcome ↔
      exchange = [] ∧ outcome = (.ok (), changed) :=
  Consult.yields_pure_iff

theorem yields_modify_iff {draft : ModelDraft} {change : ModelDraft → ModelDraft}
    {exchange : Exchange} {outcome : Except MappingError Unit × ModelDraft} :
    ((modify change : DraftM PUnit).run.run draft).Yields exchange outcome ↔
      exchange = [] ∧ outcome = (.ok (), change draft) :=
  Consult.yields_pure_iff

theorem yields_tellAll {draft : ModelDraft} {records : List LogRecord} {exchange : Exchange}
    {outcome : Except MappingError Unit × ModelDraft}
    (h : ((tellAll records).run.run draft).Yields exchange outcome) :
    exchange = [] ∧ outcome = (.ok (), draft) := by
  have hrun : (tellAll records).run.run draft =
      Consult.tellAll records >>= fun _ => pure (.ok (), draft) := by
    simp [tellAll]
  rw [hrun, Consult.yields_bind_iff] at h
  obtain ⟨before, after, told, rfl, htold, hafter⟩ := h
  obtain rfl := Consult.yields_tellAll_iff.1 htold
  simpa using Consult.yields_pure_iff.1 hafter

end DraftM

/-- The requests of the exchange are answered as it says, one after another, on the way from the
first state to the second.  In between, something may be written down. -/
inductive Serves (request : Request) : MapperState → Exchange → MapperState → Prop where
  | nil (state) : Serves request state [] state
  | write {before exchange after} (record)
      (h : Serves request (before.write record) exchange after) :
      Serves request before exchange after
  | ask {before exchange after} (key) (h : Serves request (request key before).2 exchange after) :
      Serves request before ((key, (request key before).1) :: exchange) after

namespace Serves

/-- A run of a consultation is an exchange, seen from both sides. -/
theorem exists_yields_serves {α : Type} (request : Request) (consult : Consult α)
    (state : MapperState) :
    ∃ exchange, consult.Yields exchange (consult.answer request state).1 ∧
      Serves request state exchange (consult.answer request state).2 := by
  induction consult generalizing state with
  | done value => exact ⟨[], .done value, .nil state⟩
  | note record next ih =>
      obtain ⟨exchange, hyields, hserves⟩ := ih (state.write record)
      exact ⟨exchange, .note hyields, .write record hserves⟩
  | ask key resume ih =>
      obtain ⟨exchange, hyields, hserves⟩ := ih (request key state).1 (request key state).2
      exact ⟨(key, (request key state).1) :: exchange, .ask hyields, .ask key hserves⟩

variable {request : Request} (holds : MapperState → Prop)

/-- What writing keeps, and answering as the exchange says, an exchange keeps. -/
theorem preserves (keep_write : ∀ record state, holds state → holds (state.write record))
    {before after : MapperState} {exchange : Exchange}
    (keep_answer : ∀ entry ∈ exchange, ∀ state, holds state →
      (request entry.1 state).1 = entry.2 → holds (request entry.1 state).2)
    (h : Serves request before exchange after) (hbefore : holds before) : holds after := by
  induction h with
  | nil => exact hbefore
  | write record _ ih => exact ih keep_answer (keep_write record _ hbefore)
  | ask key _ ih =>
      exact ih (fun entry hentry => keep_answer entry (List.mem_cons_of_mem _ hentry))
        (keep_answer _ List.mem_cons_self _ hbefore rfl)

/-- Every answer of an exchange was given in some state on the way. -/
theorem exists_at (keep_write : ∀ record state, holds state → holds (state.write record))
    {before after : MapperState} {first rest : Exchange} {key : TypeKey} {answer : ModelAnswer}
    (keep_answer : ∀ entry ∈ first, ∀ state, holds state →
      (request entry.1 state).1 = entry.2 → holds (request entry.1 state).2)
    (h : Serves request before (first ++ (key, answer) :: rest) after) (hbefore : holds before) :
    ∃ state, holds state ∧ (request key state).1 = answer ∧
      Serves request (request key state).2 rest after := by
  generalize hexchange : first ++ (key, answer) :: rest = exchange at h
  induction h generalizing first with
  | nil => simp at hexchange
  | write record _ ih => exact ih keep_answer (keep_write record _ hbefore) hexchange
  | @ask before exchange after other h ih =>
      cases first with
      | nil =>
          cases hexchange
          exact ⟨before, hbefore, rfl, h⟩
      | cons entry first =>
          rw [List.cons_append] at hexchange
          cases hexchange
          exact ih (fun entry hentry => keep_answer entry (List.mem_cons_of_mem _ hentry))
            (keep_answer _ List.mem_cons_self _ hbefore rfl) rfl

end Serves

end ObjectDocument
