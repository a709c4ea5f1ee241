import Mathlib.Data.List.Nodup
import Mathlib.Data.List.Perm.Subperm
import Mathlib.Logic.Relation
import ObjectDocument.Proofs.Mapper.Request
import ObjectDocument.Proofs.Schema.Identity

/-!
# Types whose models can be built

Whether the model of a type is built depends on the models that it asks for, and types may ask for
each other's models in circles.  So what can be built is said of many types at once: a set of types
is `Consistent` if whatever one of them asks for is in the set as well, or is stuck in a way that
does no harm.  A stuck type waits for another that is stuck, so the answer is that of a circle
whenever it is asked for, and a reference is then judged by the declarations.

Requests do what consistency promises, in every steady state and however they are nested
(`serving_request`): a type of the set is answered by a model, unless it waits for one that is
begun and not staged.
-/

namespace ObjectDocument

/-- The models of the supported types can be built if the stuck ones never are. -/
structure Consistent (context : Context) (supported stuck : TypeKey → Prop) : Prop where
  mappable : ∀ {key}, supported key → context.schema.isMappable key
  founded : ∀ {key}, supported key → context.schema.Founded key
  required : ∀ {key}, supported key → ∀ other ∈ context.schema.required key, supported other
  outline : ∀ {key}, supported key → ∃ model, context.outline key = .ok model ∧
    model.Passes context ∧ ∀ other ∈ model.foreignReferences,
      (supported other ∧ context.Identifiable other) ∨
        (stuck other ∧ Rule.identifiableInSchema context.schema other)
  stuck_mappable : ∀ {key}, stuck key → context.schema.isMappable key
  stuck_required : ∀ {key}, stuck key → ∃ before other after,
    context.schema.required key = before ++ other :: after ∧
      (∀ earlier ∈ before, supported earlier) ∧ stuck other

/-- The model of a type can be built, whatever happens before. -/
def Context.Buildable (context : Context) (key : TypeKey) : Prop :=
  ∃ supported : TypeKey → Prop, Consistent context supported (fun _ => False) ∧ supported key

/-- The model of the one type waits for that of the other. -/
def Schema.Requires (schema : Schema) (key other : TypeKey) : Prop :=
  other ∈ schema.required key

theorem Schema.Founded.not_requires_self {schema : Schema} {key : TypeKey}
    (founded : schema.Founded key) : ¬Relation.TransGen schema.Requires key key :=
  not_transGen_of_acc (r := schema.Requires) founded

/-- The model of the type waits for one that is begun and not staged. -/
def MapperState.Waits (state : MapperState) (schema : Schema) (key : TypeKey) : Prop :=
  ∃ other ∈ state.begun, other ∉ state.staged.map (·.1) ∧
    Relation.ReflTransGen schema.Requires key other

def ModelAnswer.IsCyclic (answer : ModelAnswer) : Prop :=
  ∃ name, answer = .error (.cyclicMapping name)

section

variable {context : Context} {supported stuck : TypeKey → Prop} {key : TypeKey}

theorem Consistent.not_stuck (consistent : Consistent context supported stuck)
    (founded : context.schema.Founded key) : ¬stuck key := by
  induction founded with
  | intro key _ ih =>
      intro h
      obtain ⟨before, other, after, hrequired, -, hother⟩ := consistent.stuck_required h
      exact ih other (by simp [hrequired]) hother

theorem Steady.length_begun_le {state : MapperState} (steady : Steady context state) :
    state.begun.length ≤ context.schema.size :=
  Schema.length_le_size steady.begun_nodup fun key hkey =>
    Schema.exists_node_of_isMappable (steady.begun_mappable key hkey)

end

/-- A steady state in which no stuck type has a model, with enough levels left for requests. -/
structure Ready (context : Context) (stuck : TypeKey → Prop) (levels : Nat)
    (state : MapperState) : Prop where
  steady : Steady context state
  depth : context.schema.size < levels + state.begun.length
  unstuck : ∀ entry ∈ state.entries, ¬stuck entry.1

/-- Requests do what consistency promises. -/
structure Serving (context : Context) (supported stuck : TypeKey → Prop) (levels : Nat)
    (request : Request) : Prop where
  of_supported : ∀ {key state}, Ready context stuck levels state → supported key →
    (∃ model, (request key state).1 = .ok (some model)) ∨
      (ModelAnswer.IsCyclic (request key state).1 ∧ state.Waits context.schema key)
  of_stuck : ∀ {key state}, Ready context stuck levels state → stuck key →
    ModelAnswer.IsCyclic (request key state).1
  kept : ∀ {key state}, Ready context stuck levels state → supported key ∨ stuck key →
    ∀ entry ∈ (request key state).2.models, entry ∈ state.models ∨ supported entry.1

/-- A state on the way of an exchange about consistent types: ready, and only models of supported
types have been kept. -/
structure OnWay (context : Context) (supported stuck : TypeKey → Prop) (levels : Nat)
    (before state : MapperState) : Prop where
  ready : Ready context stuck levels state
  grows : Grows before state
  kept : ∀ entry ∈ state.models, entry ∈ before.models ∨ supported entry.1

section

variable {context : Context} {supported stuck : TypeKey → Prop} {levels : Nat} {request : Request}
  {key : TypeKey} {state before after : MapperState} {exchange : Exchange}

namespace Ready

theorem write (ready : Ready context stuck levels state) (record : LogRecord) :
    Ready context stuck levels (state.write record) :=
  ⟨ready.steady.write record, ready.depth, ready.unstuck⟩

theorem begin (ready : Ready context stuck (levels + 1) state)
    (begins : Steady context (state.begin key)) :
    Ready context stuck levels (state.begin key) := by
  refine ⟨begins, ?_, ready.unstuck⟩
  have hlevels := ready.depth
  simp only [MapperState.begin, List.length_cons]
  omega

end Ready

namespace OnWay

theorem refl (ready : Ready context stuck levels state) :
    OnWay context supported stuck levels state state :=
  ⟨ready, .refl state, fun _ h => .inl h⟩

theorem write (onWay : OnWay context supported stuck levels before state) (record : LogRecord) :
    OnWay context supported stuck levels before (state.write record) :=
  ⟨onWay.ready.write record, onWay.grows.trans (.write record state), onWay.kept⟩

theorem answer (consistent : Consistent context supported stuck)
    (serving : Serving context supported stuck levels request)
    (responds : Responds context request) (hkey : supported key ∨ stuck key)
    (onWay : OnWay context supported stuck levels before state) :
    OnWay context supported stuck levels before (request key state).2 := by
  have grows : Grows state (request key state).2 := responds.grows onWay.ready.steady
  have hkept := serving.kept onWay.ready hkey
  refine ⟨⟨responds.steady onWay.ready.steady, ?_, fun entry hentry => ?_⟩,
    onWay.grows.trans grows, fun entry hentry => (hkept entry hentry).elim (onWay.kept entry) .inr⟩
  · rw [grows.begun]
    exact onWay.ready.depth
  · rcases List.mem_append.1 hentry with hentry | hentry
    · rcases hkept entry hentry with hold | hsupported
      · exact onWay.ready.unstuck entry (List.mem_append_left _ hold)
      · exact consistent.not_stuck (consistent.founded hsupported)
    · rw [grows.staged] at hentry
      exact onWay.ready.unstuck entry (List.mem_append_right _ hentry)

end OnWay

section

variable (consistent : Consistent context supported stuck)
  (serving : Serving context supported stuck levels request) (responds : Responds context request)

include consistent serving responds

/-- An exchange about consistent types is on its way up to its end. -/
theorem Serving.onWay (hkeys : ∀ entry ∈ exchange, supported entry.1 ∨ stuck entry.1)
    (h : Serves request before exchange after) (hbefore : Ready context stuck levels before) :
    OnWay context supported stuck levels before after :=
  h.preserves _ (fun record _ onWay => onWay.write record)
    (fun entry hentry _ onWay _ => onWay.answer consistent serving responds (hkeys entry hentry))
    (.refl hbefore)

theorem Serving.exists_at {first rest : Exchange} {answer : ModelAnswer}
    (hkeys : ∀ entry ∈ first, supported entry.1 ∨ stuck entry.1)
    (h : Serves request before (first ++ (key, answer) :: rest) after)
    (hbefore : Ready context stuck levels before) :
    ∃ state, OnWay context supported stuck levels before state ∧
      (request key state).1 = answer ∧ Serves request (request key state).2 rest after :=
  Serves.exists_at _ (fun record _ onWay => onWay.write record)
    (fun entry hentry _ onWay _ => onWay.answer consistent serving responds (hkeys entry hentry))
    h (.refl hbefore)

end

theorem Rule.referenceFault?_cyclic {answer : ModelAnswer} (h : answer.IsCyclic)
    (hschema : Rule.identifiableInSchema context.schema key) :
    Rule.referenceFault? context.schema key answer = none := by
  obtain ⟨name, rfl⟩ := h
  simp [Rule.referenceFault?, hschema]

theorem Rule.referenceFault?_model {model : EntityModel} (h : model.isIdentifiable) :
    Rule.referenceFault? context.schema key (.ok (some model)) = none :=
  Rule.referenceFault?_self.2 h

theorem Serving.referenceFault? (serving : Serving context supported stuck levels request)
    (coherent : context.schema.Coherent) (responds : Responds context request)
    (ready : Ready context stuck levels state)
    (h : (supported key ∧ context.Identifiable key) ∨
      (stuck key ∧ Rule.identifiableInSchema context.schema key)) :
    Rule.referenceFault? context.schema key (request key state).1 = none := by
  rcases h with ⟨hkey, identifiable⟩ | ⟨hkey, hschema⟩
  · rcases serving.of_supported ready hkey with ⟨model, hmodel⟩ | ⟨hcyclic, -⟩
    · obtain ⟨outline, houtline, hidentifiable⟩ := identifiable
      rw [responds.outline_of_answer ready.steady hmodel] at houtline
      cases houtline
      rw [hmodel]
      exact Rule.referenceFault?_model hidentifiable
    · exact Rule.referenceFault?_cyclic hcyclic (identifiable.inSchema coherent)
  · exact Rule.referenceFault?_cyclic (serving.of_stuck ready hkey) hschema

section

variable {model : EntityModel} (consistent : Consistent context supported stuck)
  (serving : Serving context supported stuck levels request)
  (responds : Responds context request) (ready : Ready context stuck (levels + 1) state)
  (begins : Steady context (state.begin key))

include consistent serving responds ready begins

/-- Of a supported type, the models that are required have been answered in ready states. -/
theorem Stages.ready_enter (stages : Stages context request key state before model)
    (hkey : supported key) : Ready context stuck levels (before.enter model) ∧
      ∀ entry ∈ before.models, entry ∈ state.models ∨ supported entry.1 := by
  obtain ⟨found, hfound, -, served⟩ := stages.served
  have hkeys : ∀ entry ∈ found.map (·.answered), supported entry.1 ∨ stuck entry.1 := by
    intro entry hentry
    refine .inl (consistent.required hkey _ ?_)
    rw [← hfound]
    exact EntityModel.mem_keys_answered hentry
  have hbefore := serving.onWay consistent responds hkeys served (ready.begin begins)
  refine ⟨⟨stages.steady_enter responds ready.steady begins, ?_, ?_⟩, hbefore.kept⟩
  · rw [stages.begun_enter responds begins]
    exact (ready.begin begins).depth
  · intro entry hentry
    rw [MapperState.entries_enter] at hentry
    rcases List.mem_append.1 hentry with hentry | hentry
    · exact hbefore.ready.unstuck entry hentry
    · rw [List.mem_singleton.1 hentry, stages.describes.typeKey]
      exact consistent.not_stuck (consistent.founded hkey)

theorem Stages.accepts (coherent : context.schema.Coherent)
    (stages : Stages context request key state before model)
    (served : Serves request (before.enter model) exchange after)
    (asked : exchange.map (·.1) = model.foreignReferences) (hkey : supported key) :
    model.Accepts context exchange ∧
      ∀ entry ∈ after.models, entry ∈ state.models ∨ supported entry.1 := by
  have ⟨hready, hkept⟩ := stages.ready_enter consistent serving responds ready begins hkey
  obtain ⟨outline, houtline, hpasses, hreferences⟩ := consistent.outline hkey
  rw [stages.describes.outline] at houtline
  cases houtline
  have hentries : ∀ entry ∈ exchange, (supported entry.1 ∧ context.Identifiable entry.1) ∨
      (stuck entry.1 ∧ Rule.identifiableInSchema context.schema entry.1) := by
    intro entry hentry
    refine hreferences entry.1 ?_
    change entry.1 ∈ model.foreignReferences
    rw [← asked]
    exact List.mem_map_of_mem hentry
  have hkeys : ∀ entry ∈ exchange, supported entry.1 ∨ stuck entry.1 := fun entry hentry =>
    (hentries entry hentry).imp And.left And.left
  have onWay := serving.onWay consistent responds hkeys served hready
  refine ⟨⟨EntityModel.passes_contents_iff.1 hpasses, fun entry hentry => ?_⟩,
    fun entry hentry => (onWay.kept entry hentry).elim (hkept entry) .inr⟩
  obtain ⟨first, rest, rfl⟩ := List.append_of_mem hentry
  obtain ⟨between, hbetween, hanswer, -⟩ := serving.exists_at consistent responds
    (fun other hother => hkeys other (List.mem_append_left _ hother)) served hready
  rw [← hanswer]
  exact serving.referenceFault? coherent responds hbetween.ready (hentries entry hentry)

omit ready begins in
/-- A request for a supported type is answered by a model, or by a circle that it waits for. -/
theorem Answered.of_supported (coherent : context.schema.Coherent) {answer : ModelAnswer}
    (ready : Ready context stuck (levels + 1) state)
    (h : Answered context request key state answer after) (hkey : supported key) :
    ((∃ model, answer = .ok (some model)) ∨
      (answer.IsCyclic ∧ state.Waits context.schema key)) ∧
      ∀ entry ∈ after.models, entry ∈ state.models ∨ supported entry.1 := by
  cases h with
  | unmappable h =>
      rw [consistent.mappable hkey] at h
      cases h
  | known h => exact ⟨.inl ⟨_, rfl⟩, fun _ hentry => .inl hentry⟩
  | cyclic mappable begun unstaged =>
      exact ⟨.inr ⟨⟨_, rfl⟩, key, begun, unstaged, .refl⟩, fun _ hentry => .inl hentry⟩
  | @waited found other cause after begins opened served =>
      have hrequired : ∀ entry ∈ found.map (·.answered) ++ [(other, .error cause)],
          entry.1 ∈ context.schema.required key :=
        fun entry hentry => EntityModel.mem_of_opened opened hentry
      have hkeys : ∀ entry ∈ found.map (·.answered) ++ [(other, .error cause)],
          supported entry.1 ∨ stuck entry.1 := fun entry hentry =>
        .inl (consistent.required hkey _ (hrequired entry hentry))
      have hother : other ∈ context.schema.required key :=
        hrequired _ (List.mem_append_right _ List.mem_cons_self)
      have hafter := serving.onWay consistent responds hkeys served (ready.begin begins)
      refine ⟨.inr ?_, hafter.kept⟩
      obtain ⟨between, ⟨hbetween, grows, -⟩, hanswer, -⟩ := serving.exists_at consistent responds
        (fun entry hentry => hkeys entry (List.mem_append_left _ hentry)) served
        (ready.begin begins)
      rcases serving.of_supported hbetween (consistent.required hkey _ hother) with
        ⟨model, hmodel⟩ | ⟨hcyclic, last, hlast, hunstaged, hpath⟩
      · rw [hanswer] at hmodel
        cases hmodel
      · rw [hanswer] at hcyclic
        refine ⟨hcyclic, last, ?_, grows.staged ▸ hunstaged, .head hother hpath⟩
        rw [grows.begun] at hlast
        rcases List.mem_cons.1 hlast with rfl | hlast
        · exact absurd (Relation.TransGen.head' hother hpath)
            (consistent.founded hkey).not_requires_self
        · exact hlast
  | unmade begins required served outline =>
      obtain ⟨model, hmodel, -⟩ := consistent.outline hkey
      rw [outline] at hmodel
      cases hmodel
  | refused begins stages served asked rejects =>
      exact absurd (stages.accepts consistent serving responds ready begins coherent served asked
        hkey).1 rejects
  | made begins stages served asked accepts record =>
      have hafter := (stages.accepts consistent serving responds ready begins coherent served
        asked hkey).2
      refine ⟨.inl ⟨_, rfl⟩, fun entry hentry => ?_⟩
      rcases List.mem_append.1 hentry with hentry | hentry
      · exact hafter entry hentry
      · rw [List.mem_singleton.1 hentry]
        exact .inr hkey

/-- What a stuck type requires is never all answered by models: the first of it that is stuck is
not. -/
theorem Serving.not_served {found : List EntityModel} {rest : Exchange} {before : List TypeKey}
    {other : TypeKey} (hbefore : ∀ earlier ∈ before, supported earlier) (hother : stuck other)
    (hfound : before ++ [other] <+: found.map (·.typeKey))
    (served : Serves request (state.begin key) (found.map (·.answered) ++ rest) after) : False := by
  obtain ⟨first, model, later, rfl, served⟩ := served.exists_found hfound
  have hkeys : ∀ entry ∈ first.map (·.answered), supported entry.1 ∨ stuck entry.1 :=
    fun entry hentry => .inl (hbefore _ (EntityModel.mem_keys_answered hentry))
  obtain ⟨between, hbetween, hanswer, -⟩ :=
    serving.exists_at consistent responds hkeys served (ready.begin begins)
  obtain ⟨name, hname⟩ := serving.of_stuck hbetween.ready hother
  rw [hanswer] at hname
  cases hname

omit ready begins in
/-- A request for a stuck type is answered by a circle. -/
theorem Answered.of_stuck {answer : ModelAnswer} (ready : Ready context stuck (levels + 1) state)
    (h : Answered context request key state answer after) (hkey : stuck key) :
    answer.IsCyclic ∧ ∀ entry ∈ after.models, entry ∈ state.models ∨ supported entry.1 := by
  obtain ⟨before, other, later, hrequired, hbefore, hother⟩ := consistent.stuck_required hkey
  have hprefix : before ++ [other] <+: before ++ other :: later := ⟨later, by simp⟩
  have hall {found : List EntityModel} {after : MapperState}
      (begins : Steady context (state.begin key))
      (hfound : found.map (·.typeKey) = context.schema.required key)
      (served : Serves request (state.begin key) (found.map (·.answered)) after) : False :=
    serving.not_served consistent responds ready begins hbefore hother
      (hfound ▸ hrequired ▸ hprefix) (by rwa [List.append_nil])
  cases h with
  | unmappable h =>
      rw [consistent.stuck_mappable hkey] at h
      cases h
  | known h => exact absurd hkey (ready.unstuck _ h)
  | cyclic mappable begun unstaged => exact ⟨⟨_, rfl⟩, fun _ hentry => .inl hentry⟩
  | @waited found last cause after begins opened served =>
      -- The request that failed is for a type before the first that is stuck, or for that one.
      have hlast : found.map (·.typeKey) ++ [last] <+: before ++ [other] := by
        rcases List.prefix_or_prefix_of_prefix opened (hrequired ▸ hprefix) with h | h
        · exact h
        · rcases List.prefix_concat_iff.1 h with h | h
          · exact h ▸ List.prefix_rfl
          · exact (serving.not_served consistent responds ready begins hbefore hother h served).elim
      have hkeys : ∀ entry ∈ found.map (·.answered) ++ [(last, .error cause)],
          supported entry.1 ∨ stuck entry.1 := by
        intro entry hentry
        have hmem : entry.1 ∈ before ++ [other] := EntityModel.mem_of_opened hlast hentry
        rcases List.mem_append.1 hmem with hmem | hmem
        · exact .inl (hbefore _ hmem)
        · exact .inr (List.mem_singleton.1 hmem ▸ hother)
      have hafter := serving.onWay consistent responds hkeys served (ready.begin begins)
      refine ⟨?_, hafter.kept⟩
      obtain ⟨between, ⟨hbetween, -, -⟩, hanswer, -⟩ := serving.exists_at consistent responds
        (fun entry hentry => hkeys entry (List.mem_append_left _ hentry)) served
        (ready.begin begins)
      rw [← hanswer]
      rcases hkeys _ (List.mem_append_right _ List.mem_cons_self) with hlast | hlast
      · rcases serving.of_supported hbetween hlast with ⟨model, hmodel⟩ | ⟨hcyclic, -⟩
        · rw [hanswer] at hmodel
          cases hmodel
        · exact hcyclic
      · exact serving.of_stuck hbetween hlast
  | unmade begins required served outline =>
      exact (hall begins required served).elim
  | refused begins stages served asked rejects =>
      obtain ⟨found, hfound, -, served⟩ := stages.served
      exact (hall begins hfound served).elim
  | made begins stages served asked accepts record =>
      obtain ⟨found, hfound, -, served⟩ := stages.served
      exact (hall begins hfound served).elim

end

theorem serving_answerOnce (coherent : context.schema.Coherent)
    (consistent : Consistent context supported stuck) (responds : Responds context request)
    (serving : Serving context supported stuck levels request) :
    Serving context supported stuck (levels + 1)
      ((Mapper.standard context).answerOnce request) where
  of_supported := fun {key} _ ready hkey =>
    ((answered_answerOnce coherent responds key ready.steady).of_supported consistent serving
      responds coherent ready hkey).1
  of_stuck := fun {key} _ ready hkey =>
    ((answered_answerOnce coherent responds key ready.steady).of_stuck consistent serving
      responds ready hkey).1
  kept := fun {key} _ ready hkey => by
    have h := answered_answerOnce coherent responds key ready.steady
    rcases hkey with hkey | hkey
    · exact (h.of_supported consistent serving responds coherent ready hkey).2
    · exact (h.of_stuck consistent serving responds ready hkey).2

theorem serving_request (coherent : context.schema.Coherent)
    (consistent : Consistent context supported stuck) (levels : Nat) :
    Serving context supported stuck levels ((Mapper.standard context).request levels) := by
  induction levels with
  | zero =>
      -- So many types are never begun that no level is left.
      have hnot {state : MapperState} (ready : Ready context stuck 0 state) : False := by
        have hdepth := ready.depth
        have hlength := ready.steady.length_begun_le
        omega
      exact ⟨fun ready => (hnot ready).elim, fun ready => (hnot ready).elim,
        fun ready => (hnot ready).elim⟩
  | succ levels ih =>
      exact serving_answerOnce coherent consistent (responds_request coherent levels) ih

end

end ObjectDocument
