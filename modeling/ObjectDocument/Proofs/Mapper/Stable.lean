import ObjectDocument.Proofs.Mapper.Cycles

/-!
# When everything that is kept can be built

A model may be kept although its type cannot be built on its own: it was checked against a model
that was staged and is refused later, or against the answer of a circle.  Both need types that ask
for each other in a circle.  So if every type on such a circle can be built, then everything that
is ever kept can be (`Context.sound_request`).
-/

namespace ObjectDocument

namespace Context

/-- The making of the one model asks for the other. -/
def Needs (context : Context) (key other : TypeKey) : Prop :=
  context.schema.isMappable key ∧
    (other ∈ context.schema.required key ∨
      ∃ model, context.outline key = .ok model ∧ other ∈ model.foreignReferences)

/-- Every type that needs itself can be built. -/
def CirclesBuildable (context : Context) : Prop :=
  ∀ key, Relation.TransGen context.Needs key key → context.Buildable key

variable {context : Context} {key : TypeKey}

theorem consistent_buildable : Consistent context context.Buildable fun _ => False where
  mappable := fun ⟨_, consistent, h⟩ => consistent.mappable h
  founded := fun ⟨_, consistent, h⟩ => consistent.founded h
  required := fun ⟨supported, consistent, h⟩ other hother =>
    ⟨supported, consistent, consistent.required h other hother⟩
  outline := by
    rintro key ⟨supported, consistent, h⟩
    obtain ⟨model, houtline, hpasses, hreferences⟩ := consistent.outline h
    refine ⟨model, houtline, hpasses, fun other hother => ?_⟩
    rcases hreferences other hother with ⟨hsupported, hidentifiable⟩ | ⟨hstuck, -⟩
    · exact .inl ⟨⟨supported, consistent, hsupported⟩, hidentifiable⟩
    · exact hstuck.elim
  stuck_mappable := False.elim
  stuck_required := False.elim

theorem buildable_of {model : EntityModel} (hmappable : context.schema.isMappable key)
    (hrequired : ∀ other ∈ context.schema.required key, context.Buildable other)
    (houtline : context.outline key = .ok model) (hpasses : model.Passes context)
    (hreferences : ∀ other ∈ model.foreignReferences,
      context.Buildable other ∧ context.Identifiable other) : context.Buildable key := by
  have consistent := @consistent_buildable context
  refine ⟨fun other => other = key ∨ context.Buildable other, ?_, .inl rfl⟩
  refine ⟨?_, ?_, ?_, ?_, False.elim, False.elim⟩
  · rintro other (rfl | hother)
    · exact hmappable
    · exact consistent.mappable hother
  · rintro other (rfl | hother)
    · exact Acc.intro _ fun other hother => consistent.founded (hrequired other hother)
    · exact consistent.founded hother
  · rintro other (rfl | hother) last hlast
    · exact .inr (hrequired last hlast)
    · exact .inr (consistent.required hother last hlast)
  · rintro other (rfl | hother)
    · exact ⟨model, houtline, hpasses, fun last hlast =>
        .inl ⟨.inr (hreferences last hlast).1, (hreferences last hlast).2⟩⟩
    · obtain ⟨found, hfound, hpasses, hreferences⟩ := consistent.outline hother
      exact ⟨found, hfound, hpasses, fun last hlast =>
        (hreferences last hlast).imp_left fun h => ⟨.inr h.1, h.2⟩⟩

def buildsInOrder (context : Context) : Bool :=
  let keys := ((List.range context.schema.size).map TypeKey.mk).filter context.schema.isMappable
  keys.all fun key =>
    ((context.schema.required key).all fun other => other ∈ keys && other.index < key.index) &&
    match context.outline key with
    | .ok model =>
      context.clears model && (model.typeKey ∉ model.references || model.isIdentifiable) &&
      model.foreignReferences.all fun other =>
        other ∈ keys && (context.outline other).toOption.any EntityModel.isIdentifiable
    | .error _ => false

/-- If all models can be built in order, then no circle is in the way of any. -/
theorem circlesBuildable_of_buildsInOrder (h : context.buildsInOrder) :
    context.CirclesBuildable := by
  have hmem {key : TypeKey} : key ∈ ((List.range context.schema.size).map TypeKey.mk).filter
      context.schema.isMappable ↔ context.schema.isMappable key := by
    rw [List.mem_filter, List.mem_map, and_iff_right_iff_imp]
    intro hmappable
    obtain ⟨node, hnode⟩ := Schema.exists_node_of_isMappable hmappable
    exact ⟨key.index, List.mem_range.2 (List.getElem?_eq_some_iff.1 hnode).1, rfl⟩
  simp only [buildsInOrder, List.all_eq_true, hmem, Bool.and_eq_true, decide_eq_true_eq] at h
  have hfounded (bound : Nat) : ∀ key, context.schema.isMappable key → key.index < bound →
      context.schema.Founded key := by
    induction bound with
    | zero => exact fun key _ hlt => absurd hlt (Nat.not_lt_zero _)
    | succ bound ih =>
        refine fun key hkey hlt => Acc.intro key fun other hother => ?_
        obtain ⟨hmappable, hless⟩ := (h key hkey).1 other hother
        exact ih other hmappable (by omega)
  have consistent : Consistent context (fun key => context.schema.isMappable key)
      fun _ => False := by
    refine ⟨id, fun hkey => hfounded _ _ hkey (Nat.lt_succ_self _),
      fun hkey other hother => ((h _ hkey).1 other hother).1, fun {key} hkey => ?_,
      False.elim, False.elim⟩
    have houtline := (h key hkey).2
    cases hmodel : context.outline key with
    | error cause =>
        rw [hmodel] at houtline
        cases houtline
    | ok model =>
        rw [hmodel] at houtline
        simp only [Bool.and_eq_true, Bool.or_eq_true, decide_eq_true_eq, List.all_eq_true]
          at houtline
        obtain ⟨⟨hclears, hself⟩, hforeign⟩ := houtline
        refine ⟨model, rfl, ⟨hclears, fun href => ?_⟩, fun other hother => ?_⟩
        · exact hself.resolve_left fun hnot => hnot href
        · obtain ⟨hmappable, hidentifiable⟩ := hforeign other hother
          refine .inl ⟨hmappable, ?_⟩
          cases hfound : context.outline other with
          | error cause =>
              rw [hfound] at hidentifiable
              cases hidentifiable
          | ok found =>
              rw [hfound] at hidentifiable
              exact ⟨found, hfound, hidentifiable⟩
  intro key hcircle
  obtain ⟨other, hneeds, -⟩ := Relation.TransGen.head'_iff.1 hcircle
  exact ⟨_, consistent, hneeds.1⟩

/-- A chain of required types is one of needs, as long as it starts at a type that has a model. -/
theorem needs_of_requires (coherent : context.schema.Coherent) {last : TypeKey}
    (hmappable : context.schema.isMappable key)
    (h : Relation.ReflTransGen context.schema.Requires key last) :
    Relation.ReflTransGen context.Needs key last ∧ context.schema.isMappable last := by
  induction h with
  | refl => exact ⟨.refl, hmappable⟩
  | tail _ hlast ih =>
      exact ⟨.tail ih.1 ⟨ih.2, .inl hlast⟩, coherent.required_mappable hlast⟩

end Context

theorem Rule.eq_of_referenceFault?_none {schema : Schema} {key : TypeKey} {answer : ModelAnswer}
    (h : Rule.referenceFault? schema key answer = none) :
    (∃ model, answer = .ok (some model) ∧ model.isIdentifiable) ∨
      (answer.IsCyclic ∧ Rule.identifiableInSchema schema key) := by
  unfold Rule.referenceFault? at h
  match answer, h with
  | .ok (some model), h =>
      refine .inl ⟨model, rfl, ?_⟩
      by_contra hnot
      simp [hnot] at h
  | .error (.cyclicMapping name), h =>
      refine .inr ⟨⟨name, rfl⟩, ?_⟩
      by_contra hnot
      simp [hnot] at h

/-- What an accepted model refers to is at hand in the end, or a circle was the answer for it. -/
theorem EntityModel.Accepts.reference {context : Context} {request : Request} {model : EntityModel}
    {exchange : Exchange} {before after : MapperState} (accepts : model.Accepts context exchange)
    (responds : Responds context request) (hbefore : Steady context before)
    (asked : exchange.map (·.1) = model.foreignReferences)
    (served : Serves request before exchange after) {key : TypeKey}
    (hkey : key ∈ model.foreignReferences) :
    (∃ found, (key, found) ∈ after.entries ∧ context.Identifiable key) ∨
      ∃ state, Steady context state ∧ Grows before state ∧
        ModelAnswer.IsCyclic (request key state).1 ∧ Grows (request key state).2 after ∧
        Rule.identifiableInSchema context.schema key := by
  rw [← asked] at hkey
  obtain ⟨entry, hentry, rfl⟩ := List.mem_map.1 hkey
  obtain ⟨state, steady, hstart, hanswer, hend⟩ := served.exists_answer responds hbefore hentry
  rcases Rule.eq_of_referenceFault?_none (accepts.others entry hentry) with
    ⟨found, hfound, hidentifiable⟩ | ⟨hcyclic, hschema⟩
  · have hfound := hanswer.trans hfound
    exact .inl ⟨found, hend.entries_subset (responds.model steady hfound), found.contents,
      responds.outline_of_answer steady hfound, hidentifiable⟩
  · exact .inr ⟨state, steady, hstart, hanswer ▸ hcyclic, hend, hschema⟩

/-- If circles can be built, then a type that is held up needs one that is begun. -/
theorem MapperState.HeldUp.exists_needs {context : Context} {state : MapperState} {key : TypeKey}
    {passed : TypeKey → Prop} (coherent : context.schema.Coherent)
    (circles : context.CirclesBuildable) (hmappable : context.schema.isMappable key)
    (h : state.HeldUp context.schema passed key) :
    ∃ last ∈ state.begun, Relation.ReflTransGen context.Needs key last := by
  rcases h with ⟨last, hlast, -, hpath⟩ | ⟨last, hpath, hcycle⟩
  · exact ⟨last, hlast,
      (Context.needs_of_requires coherent hmappable (Schema.Blocks.requires_path hpath)).1⟩
  · -- It waits for types that wait for each other, which can never be built.
    have hcycle := Schema.Blocks.requires_circle hcycle
    have hlast := (Context.needs_of_requires coherent hmappable
      (Schema.Blocks.requires_path hpath)).2
    obtain ⟨first, hfirst, hrest⟩ := Relation.TransGen.head'_iff.1 hcycle
    have hneeds : Relation.TransGen context.Needs last last :=
      Relation.TransGen.head' ⟨hlast, .inl hfirst⟩
        (Context.needs_of_requires coherent (coherent.required_mappable hfirst) hrest).1
    exact absurd hcycle
      (Context.consistent_buildable.founded (circles last hneeds)).not_requires_self

/-- Requests keep nothing but what can be built, for types that everything begun needs. -/
def Context.Sound (context : Context) (levels : Nat) (request : Request) : Prop :=
  ∀ {key state}, Steady context state → context.schema.size < levels + state.begun.length →
    (∀ other ∈ state.begun, Relation.ReflTransGen context.Needs other key) →
    (∀ entry ∈ state.models, context.Buildable entry.1) →
    ∀ entry ∈ (request key state).2.models, context.Buildable entry.1

section

variable {context : Context} {request : Request} {levels : Nat} {key : TypeKey}
  {state before after : MapperState} {answer : ModelAnswer} {exchange : Exchange}

/-- An exchange about types that everything begun needs keeps nothing but what can be built. -/
theorem Context.Sound.models (sound : context.Sound levels request)
    (responds : Responds context request) (served : Serves request before exchange after)
    (hbefore : Steady context before)
    (hdepth : context.schema.size < levels + before.begun.length)
    (hneeds : ∀ entry ∈ exchange, ∀ other ∈ before.begun,
      Relation.ReflTransGen context.Needs other entry.1)
    (hmodels : ∀ entry ∈ before.models, context.Buildable entry.1) :
    ∀ entry ∈ after.models, context.Buildable entry.1 := by
  have ⟨keep_write, keep_answer⟩ := Serves.on_way responds before
  refine (served.preserves (fun state => (Steady context state ∧ Grows before state) ∧
    ∀ entry ∈ state.models, context.Buildable entry.1)
    (fun record state h => ⟨keep_write record state h.1, h.2⟩) ?_
    ⟨⟨hbefore, .refl before⟩, hmodels⟩).2
  intro entry hentry state ⟨⟨steady, grows⟩, hstate⟩ _
  refine ⟨keep_answer entry.1 state ⟨steady, grows⟩, sound steady ?_ ?_ hstate⟩
  · rw [grows.begun]
    exact hdepth
  · rw [grows.begun]
    exact hneeds entry hentry

/-- What a type needs keeps nothing but what can be built, once the type is begun. -/
theorem Context.Sound.needed (responds : Responds context request)
    (sound : context.Sound levels request) (hbefore : Steady context before)
    (hbegun : before.begun = key :: state.begun)
    (hdepth : context.schema.size < levels + 1 + state.begun.length)
    (hneeds : ∀ other ∈ state.begun, Relation.ReflTransGen context.Needs other key)
    (hmodels : ∀ entry ∈ before.models, context.Buildable entry.1)
    (hexchange : ∀ entry ∈ exchange, context.Needs key entry.1)
    (served : Serves request before exchange after) :
    ∀ entry ∈ after.models, context.Buildable entry.1 := by
  refine sound.models responds served hbefore ?_ ?_ hmodels
  · rw [hbegun, List.length_cons]
    omega
  · intro entry hentry other hother
    rw [hbegun] at hother
    rcases List.mem_cons.1 hother with rfl | hother
    · exact .single (hexchange entry hentry)
    · exact (hneeds other hother).tail (hexchange entry hentry)

section

variable {model : EntityModel} (responds : Responds context request)
  (sound : context.Sound levels request) (steady : Steady context state)
  (hdepth : context.schema.size < levels + 1 + state.begun.length)
  (hneeds : ∀ other ∈ state.begun, Relation.ReflTransGen context.Needs other key)
  (hmodels : ∀ entry ∈ state.models, context.Buildable entry.1)
  (begins : Steady context (state.begin key))

include responds sound hdepth hneeds hmodels begins

theorem Stages.buildable_before (stages : Stages context request key state before model) :
    ∀ entry ∈ before.models, context.Buildable entry.1 := by
  obtain ⟨found, hfound, -, served⟩ := stages.served
  refine sound.needed responds begins rfl hdepth hneeds hmodels (fun entry hentry => ?_) served
  exact ⟨begins.begun_mappable key List.mem_cons_self,
    .inl (hfound ▸ EntityModel.mem_keys_answered hentry)⟩

include steady

theorem Stages.buildable_after (stages : Stages context request key state before model)
    (asked : exchange.map (·.1) = model.foreignReferences)
    (served : Serves request (before.enter model) exchange after) :
    ∀ entry ∈ after.models, context.Buildable entry.1 := by
  have hbefore := stages.buildable_before responds sound hdepth hneeds hmodels begins
  refine sound.needed responds (stages.steady_enter responds steady begins)
    (stages.begun_enter responds begins) hdepth hneeds hbefore
    (fun entry hentry => ⟨begins.begun_mappable key List.mem_cons_self, .inr ?_⟩) served
  refine ⟨_, stages.describes.outline, ?_⟩
  change entry.1 ∈ model.foreignReferences
  rw [← asked]
  exact List.mem_map_of_mem hentry

/-- A model that is made is of a type on a circle, or of one that only needs what can be built. -/
theorem Stages.buildable (coherent : context.schema.Coherent)
    (circles : context.CirclesBuildable) (explains : context.Explains levels request)
    (stages : Stages context request key state before model)
    (asked : exchange.map (·.1) = model.foreignReferences)
    (served : Serves request (before.enter model) exchange after)
    (accepts : model.Accepts context exchange) : context.Buildable key := by
  by_cases hcircle : Relation.TransGen context.Needs key key
  · exact circles key hcircle
  have hmappable := begins.begun_mappable key List.mem_cons_self
  have hbefore := stages.buildable_before responds sound hdepth hneeds hmodels begins
  have hafter := stages.buildable_after responds sound steady hdepth hneeds hmodels begins asked
    served
  have entered := stages.steady_enter responds steady begins
  have hbegun := stages.begun_enter responds begins
  have hstaged := stages.staged_enter responds begins
  -- A type that is staged is begun, so it needs the type that is made.
  have hnot {other : TypeKey} (hother : other ∈ state.begun) (h : context.Needs key other) :
      False := hcircle (Relation.TransGen.head' h (hneeds other hother))
  refine Context.buildable_of hmappable (fun other hother => ?_) stages.describes.outline
    (EntityModel.passes_contents_iff.2 accepts.toPasses) fun other hother => ?_
  · obtain ⟨link, hlink, rfl⟩ := stages.describes.exists_link hother
    obtain ⟨found, hfound, -⟩ := stages.exists_required responds begins hlink
    rcases List.mem_append.1 hfound with hfound | hfound
    · exact hbefore _ hfound
    · rw [(stages.grows_before responds begins).staged] at hfound
      exact (hnot (steady.staged_begun _ hfound) ⟨hmappable, .inl hother⟩).elim
  · have hneed : context.Needs key other := ⟨hmappable, .inr ⟨_, stages.describes.outline, hother⟩⟩
    have hforeign : other ≠ key :=
      stages.describes.typeKey ▸ of_decide_eq_true (List.mem_filter.1 hother).2
    rcases accepts.reference responds entered asked served hother with
      ⟨found, hmem, hidentifiable⟩ | ⟨between, hbetween, hstart, hcyclic, -, -⟩
    · refine ⟨?_, hidentifiable⟩
      rcases List.mem_append.1 hmem with hmem | hmem
      · exact hafter _ hmem
      · rw [(served.grows responds entered).staged, hstaged] at hmem
        rcases List.mem_append.1 hmem with hmem | hmem
        · exact (hnot (steady.staged_begun _ hmem) hneed).elim
        · exact absurd (congrArg Prod.fst (List.mem_singleton.1 hmem)) hforeign
    · have hheld : context.schema.isMappable other ∧
          between.HeldUp context.schema (fun _ => True) other := by
        refine explains hbetween ?_ hcyclic fun _ _ => trivial
        rw [hstart.begun, hbegun, List.length_cons]
        omega
      -- It waits for a type that is begun, which needs the type that is made.
      obtain ⟨last, hlast, hpath⟩ := hheld.2.exists_needs coherent circles hheld.1
      rw [hstart.begun, hbegun] at hlast
      rcases List.mem_cons.1 hlast with rfl | hlast
      · exact absurd (Relation.TransGen.head' hneed hpath) hcircle
      · exact absurd (Relation.TransGen.head' hneed (hpath.trans (hneeds last hlast))) hcircle

end

theorem Answered.buildable (coherent : context.schema.Coherent)
    (circles : context.CirclesBuildable) (responds : Responds context request)
    (sound : context.Sound levels request) (explains : context.Explains levels request)
    (steady : Steady context state)
    (hdepth : context.schema.size < levels + 1 + state.begun.length)
    (hneeds : ∀ other ∈ state.begun, Relation.ReflTransGen context.Needs other key)
    (hmodels : ∀ entry ∈ state.models, context.Buildable entry.1)
    (h : Answered context request key state answer after) :
    ∀ entry ∈ after.models, context.Buildable entry.1 := by
  cases h with
  | unmappable | known | cyclic => exact hmodels
  | @waited found other cause after begins opened served =>
      have hexchange : ∀ entry ∈ found.map (·.answered) ++ [(other, .error cause)],
          context.Needs key entry.1 := fun entry hentry =>
        ⟨begins.begun_mappable key List.mem_cons_self,
          .inl (EntityModel.mem_of_opened opened hentry)⟩
      have hafter := sound.needed responds begins rfl hdepth hneeds hmodels hexchange served
      exact hafter
  | @unmade found cause after begins required served outline =>
      have hexchange : ∀ entry ∈ found.map (·.answered), context.Needs key entry.1 :=
        fun entry hentry => ⟨begins.begun_mappable key List.mem_cons_self,
          .inl (required ▸ EntityModel.mem_keys_answered hentry)⟩
      have hafter := sound.needed responds begins rfl hdepth hneeds hmodels hexchange served
      exact hafter
  | refused begins stages served asked =>
      have hafter := stages.buildable_after responds sound steady hdepth hneeds hmodels begins
        asked served
      exact hafter
  | made begins stages served asked accepts =>
      intro entry hentry
      rcases List.mem_append.1 hentry with hentry | hentry
      · have hafter := stages.buildable_after responds sound steady hdepth hneeds hmodels begins
          asked served
        exact hafter entry hentry
      · rw [List.mem_singleton.1 hentry]
        exact stages.buildable responds sound steady hdepth hneeds hmodels begins coherent circles
          explains asked served accepts

theorem Context.sound_request (coherent : context.schema.Coherent)
    (circles : context.CirclesBuildable) (levels : Nat) :
    context.Sound levels ((Mapper.standard context).request levels) := by
  induction levels with
  | zero =>
      intro key state steady hdepth
      have hlength := steady.length_begun_le
      omega
  | succ levels ih =>
      intro key state steady hdepth hneeds hmodels
      have responds := responds_request coherent levels
      exact (answered_answerOnce coherent responds key steady).buildable coherent circles responds
        ih (Context.explains_request coherent levels) steady hdepth hneeds hmodels

end

end ObjectDocument
