import ObjectDocument.Proofs.Draft.Inherited
import ObjectDocument.Proofs.Mapper.Completed
import ObjectDocument.Proofs.Schema.Built

/-!
# Models of subclasses

A mapper with the standard conventions makes models of the outlines of their types, whatever rules
it checks them by, and a model is made only if all that it requires has outlines too
(`Mapper.outlined_of_answerAfter`).  So the properties of a class that has a model begin with those
of its superclass, which are the properties of each model that the superclass is ever given
(`Declarations.properties_inherited`).
-/

namespace ObjectDocument

def Mapper.checkedBy (context : Context) (validator : Validator) : Mapper :=
  ⟨context.schema, .ofSettings context.settings none (some validator)⟩

/-- The model is that of the outline of its type, and what it requires has outlines. -/
structure Context.Outlined (context : Context) (key : TypeKey) (model : EntityModel) : Prop where
  outline : context.outline key = .ok model.contents
  required : ∀ other ∈ context.schema.required key, ∃ above, context.outline other = .ok above

theorem ModelDraft.mappable_of_start {context : Context} {key : TypeKey} {exchange : Exchange}
    {draft : ModelDraft} (h : (start context key).run.Yields exchange (.ok draft)) :
    ∃ node, context.schema.node? key = some node ∧ context.schema.isMappable key := by
  unfold start at h
  rcases ConsultM.yields_bind_iff.1 h with ⟨_, _, node, rfl, hnode, h⟩ | ⟨_, _, hfailed⟩
  · obtain ⟨-, hnode⟩ := ConsultM.yields_ofExcept_iff.1 hnode
    have hfound : context.schema.node? key = some node := by
      unfold Schema.node at hnode
      cases hnode? : context.schema.node? key with
      | none => simp [hnode?] at hnode
      | some found => simpa [hnode?] using hnode.symm
    by_cases hmappable : context.schema.isMappable key
    · exact ⟨node, hfound, hmappable⟩
    · rw [if_neg hmappable] at h
      rcases ConsultM.yields_bind_iff.1 h with ⟨_, _, _, rfl, hthrow, -⟩ | ⟨_, _, hfailed⟩
      · cases (ConsultM.yields_throw_iff.1 hthrow).2
      · cases hfailed
  · cases hfailed

namespace Mapper

variable {context : Context} {validator : Validator}

/-- What is made of models of outlines is the model of an outline. -/
theorem keepsGood_outlined (coherent : context.schema.Coherent) :
    (checkedBy context validator).KeepsGood context.Outlined := by
  intro key begins exchange draft made serial hstart hbegins hcompletes
  have hstart : (ModelDraft.start context key).run.Yields begins (.ok draft) := hstart
  have hcompletes : ((standard context).complete draft).run.Yields exchange (.ok made) := hcompletes
  obtain ⟨node, hnode, hmappable⟩ := ModelDraft.mappable_of_start hstart
  have hkey := coherent.key_eq hnode
  rcases ModelDraft.yields_start hnode hkey hmappable hstart with
    ⟨up, across, hup, hacross, rfl, hdraft⟩ | ⟨_, _, _, _, _, hfailed⟩
  · cases hdraft
    have hrequired : ∀ other ∈ context.schema.required key,
        ∃ above, context.outline other = .ok above := by
      intro other hother
      have hmappable := coherent.required_mappable hother
      rw [Schema.required, ← hup, ← hacross, ← List.map_append] at hother
      obtain ⟨⟨other, found⟩, hfound, rfl⟩ := List.mem_map.1 hother
      have hgood := hbegins _ (List.mem_map_of_mem hfound)
      cases found with
      | none => exact absurd hmappable (hgood.none rfl)
      | some model => exact ⟨_, (hgood.model model rfl).outline⟩
    obtain ⟨-, houtcome⟩ := yields_complete hcompletes
    rw [Context.outcome_ofNode hnode] at houtcome
    cases houtline : context.outline key with
    | error cause =>
        rw [houtline] at houtcome
        cases houtcome
    | ok outline =>
        rw [houtline] at houtcome
        cases houtcome
        have htype : outline.typeKey = key := (Context.typeKey_outline hnode houtline).trans hkey
        have houtlined : context.Outlined key
            { outline.withLinks ((up.map (·.2)).head?.bind id) (across.filterMap (·.2)) with
              serial } :=
          ⟨houtline.trans (congrArg Except.ok (Context.contents_outline houtline).symm), hrequired⟩
        exact ⟨houtlined, (congrArg (context.Outlined · _) htype).mpr houtlined⟩
  · cases hfailed

theorem outlined_of_answerAfter (coherent : context.schema.Coherent) {earlier : List TypeKey}
    {key : TypeKey} {model : EntityModel}
    (h : (checkedBy context validator).answerAfter earlier key = .ok (some model)) :
    context.Outlined key model :=
  good_of_answerAfter (keepsGood_outlined coherent) h

end Mapper

/-- The properties of a class that has a model begin with those of its superclass, in their order,
each as it is but one parent link deeper; if the superclass has no type parameters, the types are
the same too.  The superclass has these properties in every model that it is ever given.  And each
property of the class lies as many superclass links away as its accessor follows parent links. -/
theorem Declarations.properties_inherited {declarations : Declarations} {schema : Schema}
    (h : declarations.build = .ok schema) (settings : Settings) (validator : Validator)
    {earlier : List TypeKey} {key parent : TypeKey} {model : EntityModel}
    (hparent : schema.superclassOf? key = some parent) (hproper : parent ≠ .object)
    (hmodel : (Mapper.checkedBy ⟨schema, settings⟩ validator).answerAfter earlier key =
      .ok (some model)) :
    (∃ above inherited own, (Context.mk schema settings).outline parent = .ok above ∧
      (∀ earlier found,
        (Mapper.checkedBy ⟨schema, settings⟩ validator).answerAfter earlier parent =
          .ok (some found) → found.properties = above.properties) ∧
      model.properties = inherited ++ own ∧
      List.Forall₂ PropertyDescriptor.Inherited above.properties inherited ∧
      (schema.paramsOf parent = [] →
        List.Forall₂ PropertyDescriptor.Kept above.properties inherited)) ∧
    ∀ property ∈ model.properties,
      schema.superclassAfter? property.accessor.depth key = some property.declaringType := by
  have coherent : (Context.mk schema settings).schema.Coherent := Declarations.coherent h
  have outlined := Mapper.outlined_of_answerAfter coherent hmodel
  obtain ⟨node, _, hnode, -, -⟩ := Context.exists_of_outline outlined.outline
  obtain rfl := coherent.key_eq hnode
  have hcontents := Context.properties_outline hnode outlined.outline
  have hproperties : model.properties = (Context.mk schema settings).properties node := hcontents
  refine ⟨?_, fun property hproperty => ?_⟩
  · have hrequired : parent ∈ schema.required node.key := by
      refine List.mem_append_left _ ?_
      rw [coherent.parents_eq, hparent]
      simpa using hproper
    obtain ⟨above, habove⟩ := outlined.required parent hrequired
    obtain ⟨other, _, hother, -, -⟩ := Context.exists_of_outline habove
    obtain rfl := coherent.key_eq hother
    obtain ⟨inherited, own, heq, hinherited, hkept⟩ :=
      Context.properties_of_extends coherent hparent hproper
    have hfound := Context.properties_outline hother habove
    refine ⟨above, inherited, own, habove, fun earlier found hanswer => ?_, hproperties.trans heq,
      hfound ▸ hinherited, fun hparams => hfound ▸ hkept hparams⟩
    have hanswered := (Mapper.outlined_of_answerAfter coherent hanswer).outline
    rw [habove] at hanswered
    have heq : above.properties = found.contents.properties :=
      congrArg EntityModel.properties (Except.ok.inj hanswered)
    exact heq.symm
  · rw [hproperties] at hproperty
    exact Context.superclassAfter?_of_mem_properties coherent hproperty

def Declarations.ledger : Declarations :=
  .ofList [
    { name := "Entity", params := [("K", none)], fields := [
      { name := "id", type := "K", metadata := ⟨[.id]⟩ }] },
    { name := "Account", superclass := some "Entity<i64>", fields := [
      { name := "cache", type := "String", metadata := ⟨[.transient]⟩ },
      { name := "balance", type := "f64" }] },
    { name := "Savings", superclass := some "Account", fields := [
      { name := "rate", type := "f64" }] }]

/-- Each class has a model, and the properties of the subclasses begin with those of their
superclasses: with the identity, which is of another type there, and with all of an account. -/
theorem Declarations.properties_inherited_ledger :
    let mapper := Mapper.checkedBy ⟨ledger.schema, {}⟩ .standard
    ∃ entity account savings,
      mapper.answerAfter [] ⟨25⟩ = .ok (some entity) ∧
      mapper.answerAfter [] ⟨26⟩ = .ok (some account) ∧
      mapper.answerAfter [] ⟨27⟩ = .ok (some savings) ∧
      (∃ inherited own, account.properties = inherited ++ own ∧
        List.Forall₂ PropertyDescriptor.Inherited entity.properties inherited) ∧
      (∃ inherited own, savings.properties = inherited ++ own ∧
        List.Forall₂ PropertyDescriptor.Kept account.properties inherited) ∧
      savings.properties.map (fun property => (property.name, property.accessor.depth)) =
        [("id", 2), ("balance", 1), ("rate", 0)] := by
  intro mapper
  have hbuild : ledger.build = .ok ledger.schema := build_eq_schema (by decide +kernel)
  have hgeneric : ledger.schema.superclassOf? ⟨26⟩ = some ⟨25⟩ := by decide +kernel
  have hplain : ledger.schema.superclassOf? ⟨27⟩ = some ⟨26⟩ := by decide +kernel
  have hentity : (mapper.answerAfter [] ⟨25⟩).toOption.join.any fun _ => true := by
    decide +kernel
  have haccount : (mapper.answerAfter [] ⟨26⟩).toOption.join.any fun _ => true := by
    decide +kernel
  have hsavings : (mapper.answerAfter [] ⟨27⟩).toOption.join.any fun model =>
      model.properties.map (fun property => (property.name, property.accessor.depth)) =
        [("id", 2), ("balance", 1), ("rate", 0)] := by
    decide +kernel
  obtain ⟨entity, hentity, -⟩ := ModelAnswer.exists_of_any hentity
  obtain ⟨account, haccount, -⟩ := ModelAnswer.exists_of_any haccount
  obtain ⟨savings, hsavings, hdepths⟩ := ModelAnswer.exists_of_any hsavings
  refine ⟨entity, account, savings, hentity, haccount, hsavings, ?_, ?_,
    of_decide_eq_true hdepths⟩
  · obtain ⟨⟨above, inherited, own, -, habove, heq, hinherited, -⟩, -⟩ :=
      properties_inherited hbuild {} .standard hgeneric (by decide) haccount
    rw [habove [] entity hentity]
    exact ⟨inherited, own, heq, hinherited⟩
  · obtain ⟨⟨above, inherited, own, -, habove, heq, -, hkept⟩, -⟩ :=
      properties_inherited hbuild {} .standard hplain (by decide) hsavings
    rw [habove [] account haccount]
    exact ⟨inherited, own, heq, hkept (by decide +kernel)⟩

end ObjectDocument
