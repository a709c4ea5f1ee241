import ObjectDocument.Proofs.Draft.Settled
import ObjectDocument.Proofs.Lineage.Closure
import ObjectDocument.Proofs.Metadata

/-!
# Settings of an entity

What the metadata of a type do not say is said by those of its ancestors, nearest first, and then by
those of its interfaces, in the order in which these are found.  A marker counts as a whole: the
first type of this line that has one of a kind decides, and of its markers the first
(`Lineage.get?_metadata`).  So the collection of an entity, and whether and under which key it has a
discriminator, are told by one entity marker.  The value of the discriminator is not inherited at
all (`Declarations.settings_of_first`).
-/

namespace ObjectDocument

namespace Schema

/-- The types whose metadata a type has, in the order in which they count. -/
def line (schema : Schema) (key : TypeKey) : List TypeKey :=
  key :: schema.ancestors key ++ schema.allInterfaces key

/-- The first marker of a kind on the first of some types that has one. -/
def firstMarker? (schema : Schema) (keys : List TypeKey) (kind : MarkerKind) : Option Marker :=
  keys.findSome? fun key => (schema.node? key).bind (·.metadata.get? kind)

end Schema

/-- The metadata of a lineage are looked up along the line of its type. -/
theorem Lineage.get?_metadata {schema : Schema} {node : TypeNode}
    (hnode : schema.node? node.key = some node) (kind : MarkerKind) :
    (ofNode schema node).metadata.get? kind =
      schema.firstMarker? (schema.line node.key) kind := by
  have hmetadata : (ofNode schema node).metadata =
      (((schema.ancestors node.key ++ schema.allInterfaces node.key).filterMap
        schema.node?).map (·.metadata)).foldl Metadata.inherit node.metadata := by
    rw [List.foldl_map]
    rfl
  have hnodes (keys : List TypeKey) :
      (keys.filterMap schema.node?).findSome? (·.metadata.get? kind) =
        schema.firstMarker? keys kind := by
    rw [← List.head?_filterMap, List.filterMap_filterMap, List.head?_filterMap]
    rfl
  rw [hmetadata, Metadata.get?_foldl_inherit, List.findSome?_cons, List.findSome?_map,
    show (Metadata.get? · kind) ∘ (·.metadata) = fun other : TypeNode => other.metadata.get? kind
      from rfl, hnodes, Schema.line, Schema.firstMarker?, Schema.firstMarker?, List.cons_append,
    List.findSome?_cons, hnode]
  rfl

namespace ModelDraft

variable {draft : ModelDraft} {context : Context}

theorem collectionName_eq (draft : ModelDraft) (settings : Settings) :
    draft.collectionName settings =
      ((draft.metadata.entity?.bind (·.collection)).filter (· ≠ "")).getD
        (settings.collectionNaming.apply draft.name) := by
  unfold collectionName
  cases (draft.metadata.entity?.bind (·.collection)).filter (· ≠ "") <;> rfl

theorem discriminatorKey_settled (h : draft.discriminatorKey = none) :
    (draft.settled context).discriminatorKey =
      nonempty? (((draft.metadata.entity?.bind (·.discriminatorKey)).filter (· ≠ "")).getD
        context.settings.discriminatorKey) := by
  change (nonempty? _).or draft.discriminatorKey = _
  rw [h, Option.or_none]
  rfl

theorem discriminator_settled (h : draft.discriminator = none) :
    (draft.settled context).discriminator = nonempty? (draft.chosenDiscriminator context) := by
  change (nonempty? _).or draft.discriminator = _
  rw [h, Option.or_none]
  rfl

end ModelDraft

/-- In a schema that was built of declarations, let a mapper with the standard conventions give a
model of a type, by whatever rules and after whatever requests.  The line of the type is the type,
then its superclasses, nearest first and without the root, then the interfaces that a search from
these finds, in that order.  Each kind of marker is looked up on the first type of the line that has
one.  The collection of the model, and whether and under which key it has a discriminator, follow
the entity marker that is found so, and what this leaves open or empty follows the settings.  The
value of the discriminator follows the entity marker of the type itself, or else its name. -/
theorem Declarations.settings_of_first {declarations : Declarations} {schema : Schema}
    (h : declarations.build = .ok schema) (settings : Settings) (validator : Validator)
    {earlier : List TypeKey} {key : TypeKey} {model : EntityModel}
    (hmodel : (Mapper.checkedBy ⟨schema, settings⟩ validator).answerAfter earlier key =
      .ok (some model)) :
    (schema.Chain key (schema.ancestors key) ∧
      schema.Visits [] ((key :: schema.ancestors key).flatMap schema.interfacesOf)
        (schema.allInterfaces key)) ∧
    (∀ kind, model.metadata.get? kind = schema.firstMarker? (schema.line key) kind) ∧
    (∃ entity : Option EntityMarker,
      schema.firstMarker? (schema.line key) .entity = entity.map Marker.entity ∧
      model.collection = ((entity.bind (·.collection)).filter (· ≠ "")).getD
        (settings.collectionNaming.apply (schema.name key)) ∧
      model.discriminatorEnabled = (entity.map (·.useDiscriminator)).getD true ∧
      model.discriminatorKey = ModelDraft.nonempty?
        (((entity.bind (·.discriminatorKey)).filter (· ≠ "")).getD settings.discriminatorKey)) ∧
    ∃ own : Option EntityMarker, schema.firstMarker? [key] .entity = own.map Marker.entity ∧
      model.discriminator = ModelDraft.nonempty?
        (((own.bind (·.discriminator)).filter (· ≠ "")).getD
          (settings.discriminatorNaming.apply (schema.name key))) := by
  have coherent : (Context.mk schema settings).schema.Coherent := Declarations.coherent h
  have outlined := Mapper.outlined_of_answerAfter coherent hmodel
  obtain ⟨node, _, hnode, -, -⟩ := Context.exists_of_outline outlined.outline
  obtain rfl := coherent.key_eq hnode
  have hname : schema.name node.key = node.name := by rw [Schema.name, hnode]; rfl
  have hcontents := Context.eq_modelOf_of_outline hnode outlined.outline
  have hmetadata : model.metadata = (Lineage.ofNode schema node).metadata :=
    congrArg EntityModel.metadata hcontents
  have hlookup (kind : MarkerKind) :
      model.metadata.get? kind = schema.firstMarker? (schema.line node.key) kind := by
    rw [hmetadata, Lineage.get?_metadata hnode]
  have hown : schema.firstMarker? [node.key] .entity = node.metadata.get? .entity := by
    rw [Schema.firstMarker?, List.findSome?_singleton, hnode]
    rfl
  refine ⟨⟨coherent.chain_ancestors node.key, coherent.walksEnd.interfaces _⟩, hlookup,
    ⟨model.metadata.entity?, ?_, ?_, ?_, ?_⟩, node.metadata.entity?, ?_, ?_⟩
  · rw [← hlookup, Metadata.get?_entity]
  · rw [hmetadata, hname]
    exact (congrArg EntityModel.collection hcontents).trans (ModelDraft.collectionName_eq _ _)
  · rw [hmetadata]
    exact congrArg EntityModel.discriminatorEnabled hcontents
  · rw [hmetadata]
    exact (congrArg EntityModel.discriminatorKey hcontents).trans
      (ModelDraft.discriminatorKey_settled rfl)
  · rw [hown, Metadata.get?_entity]
  · have hnode' : ((schema.node? node.key).bind (·.metadata.entity?)) = node.metadata.entity? := by
      rw [hnode]
      rfl
    rw [hname, ← hnode']
    exact (congrArg EntityModel.discriminator hcontents).trans
      (ModelDraft.discriminator_settled rfl)

/-- An interface with settings, another that extends it and has no discriminator, a class that
implements the second, a subclass that implements the first, and a subclass of that with an entity
marker of its own, of which the collection is empty. -/
def Declarations.crew : Declarations :=
  .ofList [
    { name := "Named", kind := .interfaceType, metadata := ⟨[.entity {
        collection := some "named", discriminator := some "n",
        discriminatorKey := some "kind" }]⟩ },
    { name := "Audited", kind := .interfaceType, interfaces := ["Named"], metadata := ⟨[.entity {
        useDiscriminator := false }]⟩ },
    { name := "Sailor", interfaces := ["Audited"] },
    { name := "Captain", superclass := some "Sailor", interfaces := ["Named"] },
    { name := "Admiral", superclass := some "Captain", metadata := ⟨[.entity {
        collection := some "", discriminator := some "adm" }]⟩ }]

/-- The captain has the settings of the interface that is found first, but a discriminator of its
own; the admiral has nothing of these settings, although its own leave the key open. -/
theorem Declarations.settings_of_first_crew :
    let mapper := Mapper.checkedBy ⟨crew.schema, {}⟩ .standard
    (∃ model, mapper.answerAfter [] ⟨28⟩ = .ok (some model) ∧ model.collection = "named" ∧
      model.discriminatorEnabled ∧ model.discriminatorKey = some "kind" ∧
      model.discriminator = some "Captain") ∧
    ∃ model, mapper.answerAfter [⟨28⟩] ⟨29⟩ = .ok (some model) ∧ model.collection = "Admiral" ∧
      model.discriminatorKey = some "_t" ∧ model.discriminator = some "adm" := by
  intro mapper
  have hbuild : crew.build = .ok crew.schema := build_eq_schema (by decide +kernel)
  have hcaptain : (mapper.answerAfter [] ⟨28⟩).toOption.join.any fun _ => true := by decide +kernel
  have hadmiral : (mapper.answerAfter [⟨28⟩] ⟨29⟩).toOption.join.any fun _ => true := by
    decide +kernel
  obtain ⟨captain, hcaptain, -⟩ := ModelAnswer.exists_of_any hcaptain
  obtain ⟨admiral, hadmiral, -⟩ := ModelAnswer.exists_of_any hadmiral
  constructor
  · obtain ⟨-, -, ⟨entity, hentity, hcollection, henabled, hkey⟩, own, hown, hvalue⟩ :=
      settings_of_first hbuild {} .standard hcaptain
    have hfirst : crew.schema.firstMarker? (crew.schema.line ⟨28⟩) .entity =
        some (.entity {
          collection := some "named", discriminator := some "n",
          discriminatorKey := some "kind" }) := by
      decide +kernel
    have hnone : crew.schema.firstMarker? [⟨28⟩] .entity = none := by decide +kernel
    obtain ⟨settings, rfl, hsettings⟩ := Option.map_eq_some_iff.1 (hentity.symm.trans hfirst)
    cases hsettings
    obtain rfl := Option.map_eq_none_iff.1 (hown.symm.trans hnone)
    exact ⟨captain, hcaptain, hcollection, henabled, hkey, hvalue.trans (by decide +kernel)⟩
  · obtain ⟨-, -, ⟨entity, hentity, hcollection, -, hkey⟩, own, hown, hvalue⟩ :=
      settings_of_first hbuild {} .standard hadmiral
    have hfirst : crew.schema.firstMarker? (crew.schema.line ⟨29⟩) .entity =
        some (.entity { collection := some "", discriminator := some "adm" }) := by
      decide +kernel
    have hself : crew.schema.firstMarker? [⟨29⟩] .entity =
        some (.entity { collection := some "", discriminator := some "adm" }) := by
      decide +kernel
    obtain ⟨settings, rfl, hsettings⟩ := Option.map_eq_some_iff.1 (hentity.symm.trans hfirst)
    cases hsettings
    obtain ⟨settings, rfl, hsettings⟩ := Option.map_eq_some_iff.1 (hown.symm.trans hself)
    cases hsettings
    exact ⟨admiral, hadmiral, hcollection.trans (by decide +kernel), hkey, hvalue⟩

end ObjectDocument
