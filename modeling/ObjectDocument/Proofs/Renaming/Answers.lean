import ObjectDocument.Proofs.Codec.Keys
import ObjectDocument.Proofs.Consult.Answer
import ObjectDocument.Proofs.Draft.Fields
import ObjectDocument.Proofs.Renaming.Declarations
import ObjectDocument.Proofs.Renaming.Drafts
import ObjectDocument.Proofs.Schema.Built

/-!
# Answers under renamed type parameters

A mapper asks a schema for names, ancestors, members and metadata, all of which are the same in the
renamed schema.  The one place where the name of a type parameter is read is the type of a property
that is inherited from a generic class: the arguments that a subclass gives are described by what
their variables erase to in the declaring class (`Context.storedErasures`), although they are
variables of the subclass.  Where that is the same under the new names for every type, the mappers
give the same answers in every history (`Mapper.answerAfter_rename`); for one type, the contents of
its model stay exactly if it is the same there (`Context.outline_eq_iff`).
-/

namespace ObjectDocument

variable {context : Context} {renames : Renaming}

/-! ### Checks -/

namespace Rule

theorem inheritsId_rename {schema : Schema} (steps : Nat) (key : TypeKey) :
    inheritsId (schema.rename renames) steps key = inheritsId schema steps key := by
  induction steps generalizing key with
  | zero => rfl
  | succ steps ih =>
      rw [inheritsId, inheritsId, Schema.node?_rename]
      cases schema.node? key with
      | none => rfl
      | some node =>
          have hdeclares : declaresId (node.rename (renames.within key)) = declaresId node := by
            simp [declaresId, TypeNode.rename, TypeBody.rename, DeclaredField.rename,
              DeclaredMethod.rename, List.any_map, Function.comp_def]
          have hsuperclass : (node.rename (renames.within key)).superclassKey? =
              node.superclassKey? := TypeBody.superclassKey?_rename _ _
          simp only [Option.map_some, hdeclares, hsuperclass, ih]

/-- No rule of the catalog looks at the names of type parameters. -/
theorem violations_rename {rule : Rule} (h : rule ∈ catalog) (model : EntityModel) :
    rule.violations (context.rename renames) model = rule.violations context model := by
  have hconstructor : ((context.rename renames).schema.node? model.typeKey).bind
        (·.constructorParams) =
      (context.schema.node? model.typeKey).bind (·.constructorParams) := by
    rw [Context.rename, Schema.node?_rename]
    cases context.schema.node? model.typeKey <;> rfl
  simp only [catalog, List.mem_cons, List.not_mem_nil, or_false] at h
  rcases h with rfl | rfl | rfl | rfl | rfl | rfl | rfl | rfl | rfl | rfl
  · simp only [constructorParameterNames, ofModel, violations, hconstructor]
  · rfl
  · rfl
  · rfl
  · rfl
  · rfl
  · rfl
  · rfl
  · simp [referenceToUnidentifiable, violations, Context.rename, referenceFault?,
      identifiableInSchema, inheritsId_rename]
  · simp [versionType, ofProperty, violations, Context.rename]

end Rule

theorem Validator.check_rename :
    Validator.standard.check (context.rename renames) = Validator.standard.check context := by
  funext model
  have hvalidate : Validator.standard.validate (context.rename renames) model =
      Validator.standard.validate context model := by
    have hmapM (rules : List Rule) (h : ∀ rule ∈ rules, rule ∈ Rule.catalog) :
        rules.mapM (·.violations (context.rename renames) model) =
          rules.mapM (·.violations context model) := by
      induction rules with
      | nil => rfl
      | cons rule rest ih =>
          rw [List.forall_mem_cons] at h
          rw [List.mapM_cons, List.mapM_cons, Rule.violations_rename h.1, ih h.2]
    exact congrArg _ (hmapM _ fun _ h => h)
  rw [check, check, hvalidate]

/-! ### Answers -/

namespace Context

/-- What the stored properties of a type have for the variables in the arguments of their types. -/
def storedErasures (context : Context) (key : TypeKey) : List (List TypeKey) :=
  ((context.schema.node? key).map fun node =>
    (Lineage.ofNode context.schema node).storedErasures context).getD []

theorem node?_rename (renames : Renaming) {key : TypeKey} {node : TypeNode}
    (hnode : context.schema.node? key = some node) :
    (context.rename renames).schema.node? key = some (node.rename (renames.within key)) := by
  rw [Context.rename, Schema.node?_rename, hnode]
  rfl

/-- The draft of a type in the renamed schema is that in the schema with other bindings, and its
stored properties are the same exactly if their variables are described by the same types. -/
theorem exists_ofNode_rename (renames : Renaming) {key : TypeKey} {node : TypeNode}
    (hnode : context.schema.node? key = some node) (superclass : Option EntityModel)
    (interfaceModels : List EntityModel) :
    let draft := ModelDraft.ofNode context.schema node superclass interfaceModels
    ∃ bindings : Parameterization,
      ModelDraft.ofNode (context.rename renames).schema (node.rename (renames.within key))
          superclass interfaceModels = draft.withBindings bindings ∧
      draft.lineage.Corresponds renames (draft.withBindings bindings).lineage ∧
      ((draft.withBindings bindings).lineage.stored (context.rename renames) =
          draft.lineage.stored context ↔
        (context.rename renames).storedErasures key = context.storedErasures key) := by
  intro draft
  let other := Lineage.ofNode (context.rename renames).schema (node.rename (renames.within key))
  have corresponds : draft.lineage.Corresponds renames other :=
    Lineage.corresponds_ofNode node (renames.within key)
  have hlineage : (draft.withBindings other.parameterization).lineage = other :=
    corresponds.same.symm
  refine ⟨other.parameterization, ?_, by rwa [hlineage], ?_⟩
  · change ({ draft with lineage := other } : ModelDraft) = _
    rw [← hlineage]
    rfl
  · rw [hlineage, Lineage.stored_eq_iff corresponds, storedErasures, storedErasures,
      node?_rename renames hnode, hnode]
    rfl

end Context

namespace Mapper

/-- A model is made of its draft, once the models that it requires are answered. -/
theorem make_eq {key : TypeKey} {node : TypeNode} (hnode : context.schema.node? key = some node)
    (hkey : node.key = key) (hmappable : context.schema.isMappable key) (request : Request) :
    (Mapper.standard context).make request key = (do
      let up ← ((context.schema.parents key).mapM ConsultM.request).answer request
      let across ← ((context.schema.allInterfaces key).mapM ConsultM.request).answer request
      (Mapper.standard context).build request
        (.ofNode context.schema node (up.head?.bind id) (across.filterMap id))) := by
  have hcontext : (Mapper.standard context).context = context := rfl
  rw [make, hcontext, ModelDraft.start_eq hnode hkey hmappable]
  simp only [ConsultM.answer_bind, bind_assoc]
  rfl

theorem make_rename {key : TypeKey} {node : TypeNode}
    (hnode : context.schema.node? key = some node) (hkey : node.key = key)
    (hmappable : context.schema.isMappable key)
    (h : (context.rename renames).storedErasures key = context.storedErasures key)
    (request : Request) :
    (Mapper.standard (context.rename renames)).make request key =
      (Mapper.standard context).make request key := by
  have hparents : (context.rename renames).schema.parents key = context.schema.parents key := by
    simp [Context.rename, Schema.parents]
  have hinterfaces : (context.rename renames).schema.allInterfaces key =
      context.schema.allInterfaces key := by
    simp [Context.rename, Schema.allInterfaces]
  have hbuild (superclass : Option EntityModel) (interfaceModels : List EntityModel) :
      (Mapper.standard (context.rename renames)).build request
          (.ofNode (context.rename renames).schema (node.rename (renames.within key)) superclass
            interfaceModels) =
        (Mapper.standard context).build request
          (.ofNode context.schema node superclass interfaceModels) := by
    obtain ⟨bindings, hdraft, corresponds, hstored⟩ :=
      context.exists_ofNode_rename renames hnode superclass interfaceModels
    have hcomplete : (Mapper.standard (context.rename renames)).complete
          (.ofNode (context.rename renames).schema (node.rename (renames.within key)) superclass
            interfaceModels) =
        (Mapper.standard context).complete
          (.ofNode context.schema node superclass interfaceModels) := by
      rw [hdraft]
      exact complete_rename corresponds (hstored.2 h)
    have hcheck : (Mapper.standard (context.rename renames)).options.validator.check
          (Mapper.standard (context.rename renames)).context =
        (Mapper.standard context).options.validator.check (Mapper.standard context).context :=
      Validator.check_rename
    rw [build, build, hcomplete, hcheck]
  rw [make_eq (context.node?_rename renames hnode) hkey (by simpa [Context.rename] using hmappable),
    make_eq hnode hkey hmappable, hparents, hinterfaces]
  simp only [hbuild]

/-- A request is answered as before, if the stored properties of all mappable types stay. -/
theorem answer_rename (coherent : context.schema.Coherent)
    (h : ∀ key, context.schema.isMappable key →
      (context.rename renames).storedErasures key = context.storedErasures key) :
    (Mapper.standard (context.rename renames)).answer = (Mapper.standard context).answer := by
  have hname (key : TypeKey) : (Mapper.standard (context.rename renames)).schema.name key =
      (Mapper.standard context).schema.name key := Schema.name_rename key
  have honce (request : Request) :
      (Mapper.standard (context.rename renames)).answerOnce request =
        (Mapper.standard context).answerOnce request := by
    funext key
    have hmappable' : (Mapper.standard (context.rename renames)).schema.isMappable key =
        (Mapper.standard context).schema.isMappable key := Schema.isMappable_rename key
    rw [answerOnce, answerOnce, hmappable', hname]
    by_cases hmappable : (Mapper.standard context).schema.isMappable key
    · obtain ⟨node, hnode⟩ := Schema.exists_node_of_isMappable hmappable
      rw [makeAndKeep, makeAndKeep,
        make_rename hnode (coherent.key_eq hnode) hmappable (h key hmappable)]
    · rw [if_neg hmappable, if_neg hmappable]
  have hrequest (levels : Nat) : (Mapper.standard (context.rename renames)).request levels =
      (Mapper.standard context).request levels := by
    induction levels with
    | zero => simp only [request, hname]
    | succ levels ih => rw [request, request, ih, honce]
  have hsize : (context.schema.rename renames).size = context.schema.size := Schema.size_rename
  have hlevels : (Mapper.standard (context.rename renames)).levels =
      (Mapper.standard context).levels := congrArg (· + 1) hsize
  rw [answer, answer, hlevels, hrequest]

end Mapper

/-! ### Contents -/

namespace ModelDraft

theorem types_finishProperties {owner : TypeKey} {entity : String} {names : List String}
    {drafts : List PropertyDraft} {properties : List PropertyDescriptor}
    (h : finishProperties context owner entity names drafts = .ok properties) :
    drafts.map (·.type) = properties.map fun property => some property.type := by
  induction drafts generalizing names properties with
  | nil =>
      cases h
      rfl
  | cons draft rest ih =>
      rw [finishProperties] at h
      obtain ⟨property, hproperty, h⟩ := Except.bind_eq_ok_iff.1 h
      by_cases hrepeated : property.name ∈ names
      · rw [if_pos hrepeated] at h
        cases h
      · rw [if_neg hrepeated] at h
        obtain ⟨others, hothers, h⟩ := Except.bind_eq_ok_iff.1 h
        cases h
        rw [List.map_cons, List.map_cons, (PropertyDraft.finish_type hproperty).1, ih hothers]

theorem outcome_withBindings (draft : ModelDraft) (bindings : Parameterization) :
    (draft.withBindings bindings).outcome (context.rename renames) = draft.outcome context := by
  unfold outcome
  rw [finishProperties_rename]
  rfl

end ModelDraft

namespace Context

theorem types_outline {key : TypeKey} {model : EntityModel} {node : TypeNode}
    (hnode : context.schema.node? key = some node) (h : context.outline key = .ok model) :
    ((Lineage.ofNode context.schema node).stored context).map (·.type) =
      model.properties.map fun property => some property.type := by
  obtain ⟨found, -, hfound, houtcome, -⟩ := exists_of_outline h
  rw [hnode] at hfound
  cases hfound
  obtain ⟨-, -, properties, hproperties, rfl⟩ := ModelDraft.outcome_eq_ok_iff.1 houtcome
  exact ModelDraft.types_finishProperties hproperties

/-- An outline stays exactly if the variables of its properties are described by the same types. -/
theorem outline_eq_iff {key : TypeKey} {model other : EntityModel}
    (h : context.outline key = .ok model)
    (hother : (context.rename renames).outline key = .ok other) :
    other = model ↔ (context.rename renames).storedErasures key = context.storedErasures key := by
  obtain ⟨node, -, hnode, houtcome, -⟩ := exists_of_outline h
  have hrenamed := context.node?_rename renames hnode
  obtain ⟨bindings, hdraft, corresponds, hstored⟩ :=
    context.exists_ofNode_rename renames hnode none []
  constructor
  · rintro rfl
    rw [← hstored, Lineage.stored_eq_iff corresponds, ← Lineage.types_stored_eq_iff corresponds,
      ← hdraft]
    exact (types_outline hrenamed hother).trans (types_outline hnode h).symm
  · intro herasures
    obtain ⟨found, -, hfound, houtcome', -⟩ := exists_of_outline hother
    rw [hrenamed] at hfound
    cases hfound
    rw [outlineDraft, hdraft, ModelDraft.settled_withBindings (hstored.2 herasures),
      ModelDraft.outcome_withBindings] at houtcome'
    exact Except.ok.inj (houtcome'.symm.trans houtcome)

theorem storedErasures_eq_of_unbounded
    (h : ∀ node ∈ context.schema.nodes, ∀ param ∈ node.params, param.bound = none)
    (key : TypeKey) :
    (context.rename renames).storedErasures key = context.storedErasures key := by
  have hparams (other : TypeKey) : ∀ param ∈ context.schema.paramsOf other, param.bound = none := by
    unfold Schema.paramsOf
    cases hnode : context.schema.node? other with
    | none => exact fun _ hparam => absurd hparam List.not_mem_nil
    | some node => exact h node (List.mem_of_getElem? hnode)
  have hnode : (context.rename renames).schema.node? key =
      (context.schema.node? key).map (TypeNode.rename (renames.within key)) :=
    Schema.node?_rename key
  rw [storedErasures, storedErasures, hnode]
  cases context.schema.node? key with
  | none => rfl
  | some node =>
      exact Lineage.storedErasures_eq_of_unbounded
        (Lineage.corresponds_ofNode node (renames.within key)) hparams

end Context

theorem Mapper.answerAfter_rename (coherent : context.schema.Coherent)
    (h : ∀ key, context.schema.isMappable key →
      (context.rename renames).storedErasures key = context.storedErasures key)
    (earlier : List TypeKey) (key : TypeKey) :
    (Mapper.standard (context.rename renames)).answerAfter earlier key =
      (Mapper.standard context).answerAfter earlier key := by
  have hanswer := answer_rename coherent h
  have hstate : (Mapper.standard (context.rename renames)).after earlier =
      (Mapper.standard context).after earlier := by rw [after, after, hanswer]
  rw [answerAfter, answerAfter, hanswer, hstate]

/-- Declarations that are accepted are accepted with new names for the type parameters of one of
them.  No answer changes in any history, if for every mappable type the variables in the arguments
of its properties are described by the same types.  The contents of two models stay exactly if that
is so for their type.  It is so for all types if no type parameter has a bound. -/
theorem Declarations.answers_renameAt {declarations : Declarations} {schema : Schema} {place : Nat}
    {declaration : TypeDeclaration} {new written : String → String}
    (h : declarations.build = .ok schema) (hplace : declarations.types[place]? = some declaration)
    (renames : declaration.Renames new written) :
    ∃ renamed, (declarations.renameAt place new written).build = .ok renamed ∧
      ∀ settings : Settings,
        let before : Context := ⟨schema, settings⟩
        let after : Context := ⟨renamed, settings⟩
        ((∀ key, schema.isMappable key →
            after.storedErasures key = before.storedErasures key) →
          ∀ earlier key, (Mapper.standard after).answerAfter earlier key =
            (Mapper.standard before).answerAfter earlier key) ∧
        (∀ earlier others key model other,
          (Mapper.standard before).answerAfter earlier key = .ok (some model) →
          (Mapper.standard after).answerAfter others key = .ok (some other) →
            (other.contents = model.contents ↔
              after.storedErasures key = before.storedErasures key)) ∧
        ((∀ node ∈ schema.nodes, ∀ param ∈ node.params, param.bound = none) →
          ∀ key, after.storedErasures key = before.storedErasures key) := by
  obtain ⟨renamed, hbuild⟩ := renames.exists_build hplace h
  refine ⟨schema.rename renamed, hbuild, fun settings => ?_⟩
  let context : Context := ⟨schema, settings⟩
  have hbefore : context.schema.Coherent := coherent h
  have hafter : (context.rename renamed).schema.Coherent := coherent hbuild
  refine ⟨?_, ?_, ?_⟩
  · exact Mapper.answerAfter_rename hbefore
  · intro _ _ _ _ _ hmodel hother
    have houtline := Mapper.contents_of_answerAfter hbefore hmodel
    exact context.outline_eq_iff houtline (Mapper.contents_of_answerAfter hafter hother)
  · exact context.storedErasures_eq_of_unbounded

/-! ### Names that mean nothing, and a name that is captured -/

def Declarations.pairs : Declarations :=
  .ofList [
    { name := "Pair", params := [("A", none), ("B", none)], fields := [
      { name := "first", type := "A" }, { name := "second", type := "B" }] },
    { name := "Entry", params := [("T", none)], superclass := some "Pair<List<T>, T>" }]

/-- Without bounds, a parameter may even be given the name of a parameter of the superclass. -/
theorem Declarations.answers_renameAt_pairs :
    ∃ renamed, (pairs.renameAt 1 (fun _ => "A") (fun _ => "Pair<List<A>, A>")).build = .ok renamed ∧
      (∀ settings earlier key, (Mapper.standard ⟨renamed, settings⟩).answerAfter earlier key =
        (Mapper.standard ⟨pairs.schema, settings⟩).answerAfter earlier key) ∧
      ∃ model, (Mapper.standard ⟨renamed, {}⟩).answerAfter [] ⟨26⟩ = .ok (some model) ∧
        model.properties.map (·.type.text renamed) = ["List<Object>", "Object"] := by
  let entry : TypeDeclaration :=
    { name := "Entry", params := [("T", none)], superclass := some "Pair<List<T>, T>" }
  let other := pairs.renameAt 1 (fun _ => "A") (fun _ => "Pair<List<A>, A>")
  have hplace : pairs.types[1]? = some entry := rfl
  have renames : entry.Renames (fun _ => "A") (fun _ => "Pair<List<A>, A>") :=
    ⟨by decide, by decide +kernel, by decide +kernel⟩
  have hbuild : pairs.build = .ok pairs.schema := build_eq_schema (by decide +kernel)
  have hother : other.build = .ok other.schema := build_eq_schema (by decide +kernel)
  have hunbounded : ∀ node ∈ pairs.schema.nodes, ∀ param ∈ node.params, param.bound = none := by
    decide +kernel
  obtain ⟨renamed, hrenamed, hanswers⟩ := answers_renameAt hbuild hplace renames
  obtain rfl : renamed = other.schema := Except.ok.inj (hrenamed.symm.trans hother)
  have hmodels : ((Mapper.standard ⟨other.schema, {}⟩).answerAfter [] ⟨26⟩).toOption.join.any
      fun model =>
        model.properties.map (·.type.text other.schema) = ["List<Object>", "Object"] := by
    decide +kernel
  obtain ⟨model, hmodel, htypes⟩ := ModelAnswer.exists_of_any hmodels
  refine ⟨other.schema, hother, fun settings => ?_, model, hmodel, of_decide_eq_true htypes⟩
  obtain ⟨hsame, -, hunseen⟩ := hanswers settings
  exact hsame fun key _ => hunseen hunbounded key

def Declarations.figures : Declarations :=
  .ofList [
    { name := "Shape" }, { name := "Circle", superclass := some "Shape" },
    { name := "Base", params := [("A", none), ("T", some "Shape")], fields := [
      { name := "first", type := "A" }] },
    { name := "Child", params := [("T", none)], superclass := some "Base<List<T>, Circle>" }]

/-- The parameter of the subclass is taken for the bounded parameter of its superclass, as long as
it has the name of that. -/
theorem Declarations.not_unseen_figures :
    ∃ schema renamed declaration, ∃ new written : String → String,
      figures.build = .ok schema ∧ figures.types[3]? = some declaration ∧
      declaration.Renames new written ∧ (figures.renameAt 3 new written).build = .ok renamed ∧
      ∃ model other, (Mapper.standard ⟨schema, {}⟩).answerAfter [] ⟨28⟩ = .ok (some model) ∧
        (Mapper.standard ⟨renamed, {}⟩).answerAfter [] ⟨28⟩ = .ok (some other) ∧
        model.properties.map (·.type.text schema) = ["List<Shape>"] ∧
        other.properties.map (·.type.text renamed) = ["List<Object>"] := by
  let renamed := figures.renameAt 3 (fun _ => "U") (fun _ => "Base<List<U>, Circle>")
  have hmodels : ((Mapper.standard ⟨figures.schema, {}⟩).answerAfter [] ⟨28⟩).toOption.join.any
      fun model => model.properties.map (·.type.text figures.schema) = ["List<Shape>"] := by
    decide +kernel
  have hothers : ((Mapper.standard ⟨renamed.schema, {}⟩).answerAfter [] ⟨28⟩).toOption.join.any
      fun other => other.properties.map (·.type.text renamed.schema) = ["List<Object>"] := by
    decide +kernel
  obtain ⟨model, hmodel, htypes⟩ := ModelAnswer.exists_of_any hmodels
  obtain ⟨other, hother, hothers⟩ := ModelAnswer.exists_of_any hothers
  exact ⟨figures.schema, renamed.schema, _, _, _, build_eq_schema (by decide +kernel), rfl,
    ⟨by decide, by decide +kernel, by decide +kernel⟩, build_eq_schema (by decide +kernel),
    model, other, hmodel, hother, of_decide_eq_true htypes, of_decide_eq_true hothers⟩

end ObjectDocument
