import ObjectDocument.Proofs.Lineage.Bindings
import ObjectDocument.Proofs.Mapper.Demands
import ObjectDocument.Proofs.Mapper.Inheritance

/-!
# What a type inherits from

A draft is started with the lineage of its type: with its ancestor classes, with the interfaces that
it and they implement, and with the bindings of the ancestors.  Each is found by a walk of its own
through the schema, and they agree (`Declarations.lineage_complete_of_start`).

The interfaces are found from several types together, and each is visited once.  What is found is
then closed, so everything that interfaces lead to is found, even if they extend each other in a
circle (`Schema.Coherent.mem_interfaceClosure_iff`).
-/

namespace ObjectDocument

namespace Schema

def Names (schema : Schema) (key interface : TypeKey) : Prop :=
  interface ∈ schema.interfacesOf key

variable {schema : Schema}

theorem nodup_collectInterfaces (steps : Nat) {found pending : List TypeKey} (h : found.Nodup) :
    (schema.collectInterfaces steps found pending).Nodup := by
  induction steps generalizing found pending with
  | zero => exact h
  | succ steps ih =>
      cases pending with
      | nil => exact h
      | cons interface pending =>
          rw [collectInterfaces]
          by_cases hmem : interface ∈ found
          · rw [if_pos hmem]
            exact ih h
          · rw [if_neg hmem]
            exact ih (List.nodup_append.2 ⟨h, List.nodup_singleton interface, by grind⟩)

theorem nodup_interfaceClosure (keys : List TypeKey) : (schema.interfaceClosure keys).Nodup :=
  nodup_collectInterfaces _ List.nodup_nil

/-- The interfaces of some types are those that one or more steps lead to, from a type to an
interface that it names. -/
theorem Coherent.mem_interfaceClosure_iff (coherent : schema.Coherent) {keys : List TypeKey}
    {interface : TypeKey} :
    interface ∈ schema.interfaceClosure keys ↔
      ∃ owner ∈ keys, Relation.TransGen schema.Names owner interface := by
  constructor
  · have hled : ∀ interface ∈ schema.interfaceClosure keys,
        ∃ owner ∈ keys, Relation.TransGen schema.Names owner interface := by
      refine mem_collectInterfaces_of ?_ _ (fun _ h => absurd h List.not_mem_nil) ?_
      · rintro other ⟨owner, howner, hnames⟩ further hfurther
        exact ⟨owner, howner, hnames.tail hfurther⟩
      · intro other hother
        obtain ⟨owner, howner, hnames⟩ := List.mem_flatMap.1 hother
        exact ⟨owner, howner, .single hnames⟩
    exact hled interface
  · rintro ⟨owner, howner, hnames⟩
    obtain ⟨hall, hclosed⟩ := collectInterfaces_closed coherent _
      (Nat.add_le_add_left (Nat.le_of_eq unfound_nil) (keys.flatMap schema.interfacesOf).length)
      (by simp)
    induction hnames with
    | single h => exact hall (List.mem_flatMap.2 ⟨owner, howner, h⟩)
    | tail _ h ih => exact hclosed _ ih h

end Schema

/-- A lineage holds everything that a type inherits from, and nothing else. -/
structure Lineage.Complete (schema : Schema) (key : TypeKey) (lineage : Lineage) : Prop where
  typeKey : lineage.typeKey = key
  classes : schema.Chain key lineage.classes
  classes_nodup : (key :: lineage.classes).Nodup
  interfaces_nodup : lineage.interfaces.Nodup
  mem_interfaces_iff : ∀ interface, interface ∈ lineage.interfaces ↔
    ∃ owner ∈ key :: lineage.classes, Relation.TransGen schema.Names owner interface
  parameterized : lineage.parameterization.map (·.1) = lineage.classes.reverse

theorem Lineage.keys_parameterization {schema : Schema} (coherent : schema.Coherent)
    (node : TypeNode) :
    (ofNode schema node).parameterization.map (·.1) = (schema.ancestors node.key).reverse := by
  have hchain := (coherent.walksEnd.bindings node.key).chain coherent
  rw [← hchain.unique (coherent.chain_ancestors node.key), List.reverse_reverse]
  exact Parameterization.keys_propagate _

theorem Lineage.complete_ofNode {schema : Schema} (coherent : schema.Coherent) (node : TypeNode) :
    (Lineage.ofNode schema node).Complete schema node.key where
  typeKey := rfl
  classes := coherent.chain_ancestors node.key
  classes_nodup := (coherent.chain_ancestors node.key).nodup coherent
  interfaces_nodup := Schema.nodup_interfaceClosure _
  mem_interfaces_iff := fun _ => coherent.mem_interfaceClosure_iff
  parameterized := keys_parameterization coherent node

theorem ModelDraft.lineage_of_start {context : Context} (coherent : context.schema.Coherent)
    {key : TypeKey} {request : Request} {state after : MapperState} {draft : ModelDraft}
    (h : (start context key).run.answer request state = (.ok draft, after)) :
    ∃ node, context.schema.node? key = some node ∧
      draft.lineage = Lineage.ofNode context.schema node := by
  obtain ⟨exchange, hyields, -⟩ := Serves.exists_yields_serves request (start context key).run state
  rw [h] at hyields
  obtain ⟨node, hnode, hmappable⟩ := mappable_of_start hyields
  rcases yields_start hnode (coherent.key_eq hnode) hmappable hyields with
    ⟨up, across, -, -, -, hdraft⟩ | ⟨_, _, _, _, _, hfailed⟩
  · cases hdraft
    exact ⟨node, hnode, rfl⟩
  · cases hfailed

/-- In a schema that was built of declarations, whatever the requests of a draft are answered: if it
is started, its classes are the superclasses of its type, nearest first and without the root, its
interfaces are all that the type and these lead to, each once, and the bindings are those of the
classes, in reverse.  From whatever types interfaces are collected, also in a circle of them, all
that they lead to is found, each once. -/
theorem Declarations.lineage_complete_of_start {declarations : Declarations} {schema : Schema}
    (h : declarations.build = .ok schema) :
    (∀ (settings : Settings) (key : TypeKey) (request : Request) (state after : MapperState)
      (draft : ModelDraft),
      (ModelDraft.start ⟨schema, settings⟩ key).run.answer request state = (.ok draft, after) →
        draft.lineage.Complete schema key) ∧
    ∀ keys, (schema.interfaceClosure keys).Nodup ∧ ∀ interface,
      interface ∈ schema.interfaceClosure keys ↔
        ∃ owner ∈ keys, Relation.TransGen schema.Names owner interface := by
  have coherent := coherent h
  constructor
  · intro settings key request state after draft hstart
    obtain ⟨node, hnode, hlineage⟩ := ModelDraft.lineage_of_start coherent hstart
    obtain rfl := coherent.key_eq hnode
    rw [hlineage]
    exact Lineage.complete_ofNode coherent node
  · exact fun keys =>
      ⟨Schema.nodup_interfaceClosure keys, fun _ => coherent.mem_interfaceClosure_iff⟩

def Declarations.tagged : Declarations :=
  .ofList [
    { name := "Named", kind := .interfaceType },
    { name := "Audited", kind := .interfaceType, interfaces := ["Named"] },
    { name := "Base", params := [("K", none)], interfaces := ["Audited"] },
    { name := "Child", superclass := some "Base<i64>", interfaces := ["Named"] }]

/-- A draft of the subclass is started, and it has each interface once.  The interfaces that extend
each other in a circle are found from both. -/
theorem Declarations.lineage_complete_of_start_tagged :
    let mapper := Mapper.standard ⟨tagged.schema, {}⟩
    (∃ draft after, (ModelDraft.start mapper.context ⟨28⟩).run.answer mapper.answer {} =
        (.ok draft, after) ∧
      draft.lineage.Complete tagged.schema ⟨28⟩ ∧ draft.lineage.classes = [⟨27⟩] ∧
      draft.lineage.interfaces = [⟨25⟩, ⟨26⟩]) ∧
    Relation.TransGen knot.schema.Names ⟨25⟩ ⟨25⟩ := by
  intro mapper
  have hstarts : ((ModelDraft.start mapper.context ⟨28⟩).run.answer mapper.answer {}).1.toOption.any
      fun draft => draft.lineage.classes = [⟨27⟩] ∧ draft.lineage.interfaces = [⟨25⟩, ⟨26⟩] := by
    decide +kernel
  have htagged : tagged.build = .ok tagged.schema := build_eq_schema (by decide +kernel)
  have hknot : knot.build = .ok knot.schema := build_eq_schema (by decide +kernel)
  constructor
  · obtain ⟨draft, hdraft, hlists⟩ := (Option.any_eq_true _ _).1 hstarts
    obtain ⟨hclasses, hinterfaces⟩ := of_decide_eq_true hlists
    cases hstart : (ModelDraft.start mapper.context ⟨28⟩).run.answer mapper.answer {} with
    | mk outcome after =>
    rw [hstart] at hdraft
    cases outcome with
    | error cause => cases hdraft
    | ok started =>
        cases hdraft
        exact ⟨draft, after, rfl, (lineage_complete_of_start htagged).1 {} ⟨28⟩ _ _ _ _ hstart,
          hclasses, hinterfaces⟩
  · have hfound : (⟨25⟩ : TypeKey) ∈ knot.schema.interfaceClosure [⟨25⟩] := by decide +kernel
    obtain ⟨owner, howner, hnames⟩ := (((lineage_complete_of_start hknot).2 [⟨25⟩]).2 ⟨25⟩).1 hfound
    rwa [List.mem_singleton.1 howner] at hnames

end ObjectDocument
