import ObjectDocument.Proofs.Mapper.Buildable

/-!
# What an answer of a circle means

A request is answered that its type is in a circle only if the type waits for one that is begun and
not staged, or for types that wait for each other (`Context.explains_request`).  The way there goes
through types that block: everything that is required before them has a model.
-/

namespace ObjectDocument

/-- The one type waits for the other, and what it waits for before has passed. -/
def Schema.Blocks (schema : Schema) (passed : TypeKey → Prop) (key other : TypeKey) : Prop :=
  ∃ before after, schema.required key = before ++ other :: after ∧
    ∀ earlier ∈ before, passed earlier

/-- What may keep a type from a model while others pass: one that is begun and not staged, or a
circle. -/
def MapperState.HeldUp (state : MapperState) (schema : Schema) (passed : TypeKey → Prop)
    (key : TypeKey) : Prop :=
  (∃ other ∈ state.begun, other ∉ state.staged.map (·.1) ∧
    Relation.ReflTransGen (schema.Blocks passed) key other) ∨
  ∃ other, Relation.ReflTransGen (schema.Blocks passed) key other ∧
    Relation.TransGen (schema.Blocks passed) other other

theorem Schema.Blocks.requires {schema : Schema} {passed : TypeKey → Prop} {key other : TypeKey}
    (h : schema.Blocks passed key other) : schema.Requires key other := by
  obtain ⟨before, after, hrequired, -⟩ := h
  simp [Schema.Requires, hrequired]

theorem Schema.Blocks.requires_path {schema : Schema} {passed : TypeKey → Prop}
    {key other : TypeKey} (h : Relation.ReflTransGen (schema.Blocks passed) key other) :
    Relation.ReflTransGen schema.Requires key other :=
  Relation.ReflTransGen.mono (fun _ _ h => Schema.Blocks.requires h) _ _ h

theorem Schema.Blocks.requires_circle {schema : Schema} {passed : TypeKey → Prop}
    {key other : TypeKey} (h : Relation.TransGen (schema.Blocks passed) key other) :
    Relation.TransGen schema.Requires key other :=
  Relation.TransGen.mono (fun _ _ h => Schema.Blocks.requires h) _ _ h

/-- A type that waits for types that wait for each other, while others pass. -/
def Schema.Stuck (schema : Schema) (passed : TypeKey → Prop) (key : TypeKey) : Prop :=
  schema.isMappable key ∧ ∃ last, Relation.ReflTransGen (schema.Blocks passed) key last ∧
    Relation.TransGen (schema.Blocks passed) last last

theorem Schema.Stuck.exists_blocks {schema : Schema} (coherent : schema.Coherent)
    {passed : TypeKey → Prop} {key : TypeKey} (h : schema.Stuck passed key) :
    ∃ other, schema.Blocks passed key other ∧ schema.Stuck passed other := by
  obtain ⟨-, last, hpath, hcircle⟩ := h
  have hstep : ∃ other, schema.Blocks passed key other ∧
      Relation.ReflTransGen (schema.Blocks passed) other last := by
    rcases Relation.ReflTransGen.cases_head hpath with rfl | hstep
    · exact Relation.TransGen.head'_iff.1 hcircle
    · exact hstep
  obtain ⟨other, hblocks, hrest⟩ := hstep
  exact ⟨other, hblocks, coherent.required_mappable hblocks.requires, last, hrest, hcircle⟩

namespace Context

/-- Requests are answered by a circle only for types that are held up. -/
def Explains (context : Context) (levels : Nat) (request : Request) : Prop :=
  ∀ {key state} {passed : TypeKey → Prop}, Steady context state →
    context.schema.size < levels + state.begun.length →
    ModelAnswer.IsCyclic (request key state).1 →
    (∀ entry ∈ (request key state).2.entries, passed entry.1) →
    context.schema.isMappable key ∧ state.HeldUp context.schema passed key

end Context

section

variable {context : Context} {request : Request} {levels : Nat} {key : TypeKey}
  {state after : MapperState} {answer : ModelAnswer} {passed : TypeKey → Prop}

theorem Answered.heldUp (h : Answered context request key state answer after)
    (responds : Responds context request) (explains : context.Explains levels request)
    (steady : Steady context state)
    (hdepth : context.schema.size < levels + 1 + state.begun.length) (hcyclic : answer.IsCyclic)
    (hpassed : ∀ entry ∈ after.entries, passed entry.1) :
    context.schema.isMappable key ∧ state.HeldUp context.schema passed key := by
  have grows := h.grows responds steady
  cases h with
  | unmappable | known | refused | made =>
      obtain ⟨name, hname⟩ := hcyclic
      cases hname
  | cyclic mappable begun unstaged => exact ⟨mappable, .inl ⟨key, begun, unstaged, .refl⟩⟩
  | unmade begins required served outline =>
      obtain ⟨name, hname⟩ := hcyclic
      cases hname
      rcases Context.outline_error outline with ⟨missing, h⟩ | ⟨entity, fault, h⟩ <;> cases h
  | @waited found other cause after begins opened served =>
      have hgrows := served.grows responds begins
      -- Nothing of the type is staged, so its end takes no model away.
      have hafter : after.entries ⊆ (after.finish key).entries := by
        intro entry hentry
        rcases List.mem_append.1 hentry with hentry | hentry
        · exact List.mem_append_left _ hentry
        · refine List.mem_append_right _ ?_
          rw [grows.staged]
          exact hgrows.staged ▸ hentry
      have hblocks : context.schema.Blocks passed key other := by
        obtain ⟨later, hlater⟩ := opened
        refine ⟨found.map (·.typeKey), later, by rw [← hlater, List.append_assoc]; rfl, ?_⟩
        intro earlier hearlier
        obtain ⟨model, hmodel, rfl⟩ := List.mem_map.1 hearlier
        exact hpassed _ (hafter (served.mem_entries responds begins
          (List.mem_append_left _ (List.mem_map_of_mem hmodel))))
      obtain ⟨between, hbetween, hstart, hanswer, hend⟩ := served.exists_answer responds begins
        (List.mem_append_right _ List.mem_cons_self)
      have hheld : between.HeldUp context.schema passed other := by
        refine (explains hbetween ?_ (hanswer ▸ hcyclic) fun entry hentry =>
          hpassed entry (hafter (hend.entries_subset hentry))).2
        rw [hstart.begun]
        simp only [MapperState.begin, List.length_cons]
        omega
      refine ⟨begins.begun_mappable key List.mem_cons_self, ?_⟩
      rcases hheld with ⟨last, hlast, hunstaged, hpath⟩ | ⟨last, hpath, hcircle⟩
      · rw [hstart.begun] at hlast
        rcases List.mem_cons.1 hlast with rfl | hlast
        · exact .inr ⟨last, .refl, Relation.TransGen.head' hblocks hpath⟩
        · exact .inl ⟨last, hlast, hstart.staged ▸ hunstaged, .head hblocks hpath⟩
      · exact .inr ⟨last, .head hblocks hpath, hcircle⟩

theorem Context.explains_request (coherent : context.schema.Coherent) (levels : Nat) :
    context.Explains levels ((Mapper.standard context).request levels) := by
  induction levels with
  | zero =>
      intro key state passed steady hdepth
      have hlength := steady.length_begun_le
      omega
  | succ levels ih =>
      intro key state passed steady
      have responds := responds_request coherent levels
      exact (answered_answerOnce coherent responds key steady).heldUp responds ih steady

end

end ObjectDocument
