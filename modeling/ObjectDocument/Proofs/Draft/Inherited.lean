import ObjectDocument.Proofs.Draft.Members
import ObjectDocument.Proofs.Schema.Hierarchy

/-!
# Inherited properties

The properties of a class are found anew along its ancestors, whatever was found for its superclass.
They begin with those of the superclass all the same, each one parent link deeper
(`Context.properties_of_extends`), because the levels of a class are those of its superclass one
link further, and the class itself (`Lineage.levels_of_extends`).

What an ancestor's type variables stand for is followed one type further, which can change the type
of an inherited property.  It cannot if the superclass has no type parameters
(`Lineage.resolveVariable?_of_extends`).
-/

namespace ObjectDocument

def Accessor.deeper : Accessor → Accessor
  | .field name depth => .field name (depth + 1)
  | .method getter setter depth => .method getter setter (depth + 1)
  | .array name depth element => .array name (depth + 1) element

theorem Accessor.depth_deeper (accessor : Accessor) :
    accessor.deeper.depth = accessor.depth + 1 := by
  cases accessor <;> rfl

namespace DeclaredField

variable (schema : Schema) (depth : Nat) (type : TypeDescriptor) (name : String)

theorem depth_accessor : (accessor schema depth type name).depth = depth := by
  unfold accessor
  split
  · split <;> rfl
  · rfl

theorem accessor_succ :
    accessor schema (depth + 1) type name = (accessor schema depth type name).deeper := by
  unfold accessor
  split
  · split <;> rfl
  · rfl

end DeclaredField

/-- The second property is the first, inherited by a subclass, up to its type. -/
structure PropertyDescriptor.Inherited (above below : PropertyDescriptor) : Prop where
  name : below.name = above.name
  mappedName : below.mappedName = above.mappedName
  metadata : below.metadata = above.metadata
  declaringType : below.declaringType = above.declaringType
  depth : below.accessor.depth = above.accessor.depth + 1

/-- The second property is the first, inherited by a subclass, with its type. -/
structure PropertyDescriptor.Kept (above below : PropertyDescriptor) : Prop where
  type : below.type = above.type
  normalizedType : below.normalizedType = above.normalizedType
  accessor : below.accessor = above.accessor.deeper

namespace Schema

variable {schema : Schema} {key parent : TypeKey}

def superclassAfter? (schema : Schema) : Nat → TypeKey → Option TypeKey
  | 0, key => some key
  | links + 1, key => (schema.superclassOf? key).bind (schema.superclassAfter? links)

theorem Chain.unique {first second : List TypeKey} (hfirst : schema.Chain key first)
    (hsecond : schema.Chain key second) : first = second := by
  induction hfirst generalizing second with
  | last hlast =>
      cases hsecond with
      | last => rfl
      | cons extends_parent proper => exact absurd (hlast _ extends_parent) proper
  | cons extends_parent proper _ ih =>
      cases hsecond with
      | last hlast => exact absurd (hlast _ extends_parent) proper
      | cons extends_other _ chain =>
          rw [Extends, extends_parent] at extends_other
          cases extends_other
          rw [ih chain]

/-- The nearest ancestor is the superclass, and the others are those of the superclass. -/
theorem Coherent.ancestors_of_extends (coherent : schema.Coherent)
    (hextends : schema.Extends key parent) (proper : parent ≠ .object) :
    schema.ancestors key = parent :: schema.ancestors parent :=
  (coherent.chain_ancestors key).unique
    (.cons hextends proper (coherent.chain_ancestors parent))

theorem Chain.superclassAfter? {ancestors : List TypeKey} (chain : schema.Chain key ancestors) :
    ∀ level ∈ ancestors.zipIdx 1, schema.superclassAfter? level.2 key = some level.1 := by
  induction chain with
  | last => simp
  | @cons key parent ancestors extends_parent _ _ ih =>
      rw [List.zipIdx_cons, List.forall_mem_cons, List.zipIdx_succ, List.forall_mem_map]
      have hparent : schema.superclassOf? key = some parent := extends_parent
      refine ⟨by simp [Schema.superclassAfter?, hparent], fun level hlevel => ?_⟩
      rw [Schema.superclassAfter?, hparent]
      exact ih level hlevel

theorem Chain.directBindings_eq {ancestors : List TypeKey} (coherent : schema.Coherent)
    (chain : schema.Chain key ancestors) {steps steps' : Nat} (hsteps : ancestors.length ≤ steps)
    (hsteps' : ancestors.length ≤ steps') :
    schema.directBindings steps key = schema.directBindings steps' key := by
  induction chain generalizing steps steps' with
  | last hlast => rw [directBindings_top _ hlast, directBindings_top _ hlast]
  | cons extends_parent proper _ ih =>
      rw [List.length_cons] at hsteps hsteps'
      obtain ⟨steps, rfl⟩ : ∃ less, steps = less + 1 := ⟨steps - 1, by omega⟩
      obtain ⟨steps', rfl⟩ : ∃ less, steps' = less + 1 := ⟨steps' - 1, by omega⟩
      obtain ⟨args, hdeclared⟩ := coherent.exists_declared extends_parent
      rw [directBindings_up _ hdeclared proper, directBindings_up _ hdeclared proper,
        @ih steps steps' (by omega) (by omega)]

/-- The bindings of a class are those of its superclass, and those that it makes itself. -/
theorem Coherent.directBindings_of_extends (coherent : schema.Coherent)
    (hextends : schema.Extends key parent) (proper : parent ≠ .object) :
    ∃ args, schema.directBindings schema.size key =
      schema.directBindings schema.size parent ++ [(parent, schema.bindArgs parent args)] := by
  obtain ⟨args, hdeclared⟩ := coherent.exists_declared hextends
  have hlength := coherent.length_ancestors_lt key
  rw [coherent.ancestors_of_extends hextends proper, List.length_cons] at hlength
  obtain ⟨steps, hsteps⟩ : ∃ less, schema.size = less + 1 := ⟨schema.size - 1, by omega⟩
  refine ⟨args, ?_⟩
  rw [(coherent.chain_ancestors parent).directBindings_eq coherent (by omega)
    (show (schema.ancestors parent).length ≤ steps by omega), hsteps]
  exact directBindings_up steps hdeclared proper

end Schema

theorem GenericType.chase_concat_nil (frames : List Bindings) (declared : GenericType) :
    declared.chase (frames ++ [[]]) = declared.chase frames := by
  induction frames generalizing declared with
  | nil => cases declared <;> rfl
  | cons bindings frames ih =>
      cases declared with
      | applied | array => rfl
      | var name =>
          rw [List.cons_append, chase, chase]
          cases bindings.get? name with
          | none => rfl
          | some binding => exact ih binding

theorem Parameterization.propagate_concat_nil (key : TypeKey) (farther : Parameterization) :
    propagate (farther ++ [(key, [])]) = propagate farther ++ [(key, [])] := by
  induction farther with
  | nil => rfl
  | cons frame farther ih =>
      rw [List.cons_append, propagate, propagate, ih, List.map_append, List.cons_append]
      simp only [List.map_cons, List.map_nil, GenericType.chase_concat_nil]

namespace Member

variable {context : Context}

def deeper (member : Member) : Member :=
  { member with accessor := fun type => (member.accessor type).deeper }

def ofLevel (context : Context) (level : TypeKey × Nat) : List Member :=
  match context.settings.propertyDiscovery with
  | .fields => (((context.schema.node? level.1).map (·.fields)).getD []).map
      (ofField context.schema level)
  | .methods => (DeclaredMethod.groups
      (((context.schema.node? level.1).map (·.methods)).getD [])).filterMap fun group =>
        ofMethods? (level, group)

theorem ofField_succ (schema : Schema) (key : TypeKey) (depth : Nat) :
    ofField schema (key, depth + 1) = deeper ∘ ofField schema (key, depth) := by
  funext field
  simp only [ofField, deeper, DeclaredField.accessor_succ, Function.comp_apply]

theorem ofMethods?_succ (key : TypeKey) (depth : Nat) (group : String × List DeclaredMethod) :
    ofMethods? ((key, depth + 1), group) = (ofMethods? ((key, depth), group)).map deeper := by
  unfold ofMethods?
  cases DeclaredMethod.pair? group.2 with
  | none => rfl
  | some pair => cases hdeclared : pair.1.declared <;> simp [hdeclared, deeper, Accessor.deeper]

theorem ofLevel_succ (context : Context) (key : TypeKey) (depth : Nat) :
    ofLevel context (key, depth + 1) = (ofLevel context (key, depth)).map deeper := by
  unfold ofLevel
  cases context.settings.propertyDiscovery with
  | fields => simp only [ofField_succ, List.map_map]
  | methods => simp only [ofMethods?_succ, List.map_filterMap]

theorem of_mem_ofLevel {level : TypeKey × Nat} {member : Member}
    (h : member ∈ ofLevel context level) :
    member.declaring = level.1 ∧ ∀ type, (member.accessor type).depth = level.2 := by
  unfold ofLevel at h
  cases hdiscovery : context.settings.propertyDiscovery with
  | fields =>
      rw [hdiscovery] at h
      obtain ⟨field, -, rfl⟩ := List.mem_map.1 h
      exact ⟨rfl, fun type => DeclaredField.depth_accessor _ _ _ _⟩
  | methods =>
      rw [hdiscovery] at h
      obtain ⟨group, -, hgroup⟩ := List.mem_filterMap.1 h
      obtain ⟨pair, -, hgroup⟩ := Option.bind_eq_some_iff.1 hgroup
      obtain ⟨declared, -, hgroup⟩ := Option.bind_eq_some_iff.1 hgroup
      cases hgroup
      exact ⟨rfl, fun _ => rfl⟩

end Member

namespace Lineage

variable {context : Context} {node above : TypeNode}

theorem members_eq_flatMap (lineage : Lineage) (context : Context) :
    lineage.members context = lineage.levels.flatMap (Member.ofLevel context) := by
  unfold members Member.ofLevel levelFields methodGroups
  cases context.settings.propertyDiscovery with
  | fields =>
      simp only [List.map_flatMap, List.map_map]
      rfl
  | methods =>
      simp only [List.filterMap_flatMap, List.filterMap_map]
      rfl

/-- A member lies as deep as its declaring type, whatever its type is. -/
theorem exists_level {lineage : Lineage} {member : Member}
    (h : member ∈ lineage.storedMembers context) :
    ∃ level ∈ lineage.levels,
      member.declaring = level.1 ∧ ∀ type, (member.accessor type).depth = level.2 := by
  have hmember := List.mem_of_mem_filter h
  rw [members_eq_flatMap] at hmember
  obtain ⟨level, hlevel, hmember⟩ := List.mem_flatMap.1 hmember
  exact ⟨level, hlevel, Member.of_mem_ofLevel hmember⟩

/-- The levels of a class are those of its superclass one link further, and the class itself. -/
theorem levels_of_extends {schema : Schema} (coherent : schema.Coherent)
    (hextends : schema.Extends node.key above.key) (proper : above.key ≠ .object) :
    (ofNode schema node).levels =
      (ofNode schema above).levels.map (fun level => (level.1, level.2 + 1)) ++
        [(node.key, 0)] := by
  have hancestors := coherent.ancestors_of_extends hextends proper
  simp only [levels, ofNode, hancestors, List.zipIdx_cons, List.reverse_cons, List.zipIdx_succ,
    List.map_append, List.map_reverse, List.map_cons, List.map_nil]

theorem members_of_extends (coherent : context.schema.Coherent)
    (hextends : context.schema.Extends node.key above.key) (proper : above.key ≠ .object) :
    (ofNode context.schema node).members context =
      ((ofNode context.schema above).members context).map Member.deeper ++
        Member.ofLevel context (node.key, 0) := by
  rw [members_eq_flatMap, members_eq_flatMap, levels_of_extends coherent hextends proper,
    List.flatMap_append, List.flatMap_map, List.map_flatMap, List.flatMap_singleton]
  simp only [Member.ofLevel_succ]

theorem storedMembers_of_extends (coherent : context.schema.Coherent)
    (hextends : context.schema.Extends node.key above.key) (proper : above.key ≠ .object) :
    (ofNode context.schema node).storedMembers context =
      ((ofNode context.schema above).storedMembers context).map Member.deeper ++
        (Member.ofLevel context (node.key, 0)).filter Member.isStored := by
  rw [storedMembers, members_of_extends coherent hextends proper, List.filter_append,
    List.filter_map]
  rfl

/-- A superclass without type parameters hides nothing that the variables of its ancestors stand
for, and adds nothing to it. -/
theorem resolveVariable?_of_extends {schema : Schema} (coherent : schema.Coherent)
    (hextends : schema.Extends node.key above.key) (proper : above.key ≠ .object)
    (hparams : schema.paramsOf above.key = []) (declaring : TypeKey) (name : String) :
    (ofNode schema node).resolveVariable? declaring name =
      (ofNode schema above).resolveVariable? declaring name := by
  obtain ⟨args, hbindings⟩ := coherent.directBindings_of_extends hextends proper
  have hnone : schema.bindArgs above.key args = [] := by
    rw [Schema.bindArgs, hparams]
    rfl
  have hparameterization : (ofNode schema node).parameterization =
      (ofNode schema above).parameterization ++ [(above.key, [])] := by
    rw [hnone] at hbindings
    simp only [ofNode, hbindings, Parameterization.propagate_concat_nil]
  rw [resolveVariable?, resolveVariable?, hparameterization, List.lookup_append]
  cases (ofNode schema above).parameterization.lookup declaring with
  | some bindings => rfl
  | none =>
      rw [Option.none_or, List.lookup_cons, Option.bind_none]
      split <;> rfl

end Lineage

/-- What a superclass without type parameters declares or inherits has the same type in a class. -/
theorem Member.type_of_extends {schema : Schema} {node above : TypeNode}
    (coherent : schema.Coherent) (hextends : schema.Extends node.key above.key)
    (proper : above.key ≠ .object) (hparams : schema.paramsOf above.key = []) (member : Member) :
    member.type (Lineage.ofNode schema node) schema =
      member.type (Lineage.ofNode schema above) schema := by
  have hresolve : (Lineage.ofNode schema node).resolveVariable? member.declaring =
      (Lineage.ofNode schema above).resolveVariable? member.declaring :=
    funext (Lineage.resolveVariable?_of_extends coherent hextends proper hparams member.declaring)
  rw [Member.type, Member.type, Lineage.memberType, Lineage.memberType, hresolve]

namespace Context

variable {context : Context} {node above : TypeNode}

/-- The properties of a class begin with those of its superclass, each one link deeper. -/
theorem properties_of_extends (coherent : context.schema.Coherent)
    (hextends : context.schema.Extends node.key above.key) (proper : above.key ≠ .object) :
    ∃ inherited own, context.properties node = inherited ++ own ∧
      List.Forall₂ PropertyDescriptor.Inherited (context.properties above) inherited ∧
      (context.schema.paramsOf above.key = [] →
        List.Forall₂ PropertyDescriptor.Kept (context.properties above) inherited) := by
  let lineage := Lineage.ofNode context.schema node
  let finish (member : Member) : PropertyDescriptor :=
    member.property context node.key node.name (member.type lineage context.schema)
  let members := (Lineage.ofNode context.schema above).storedMembers context
  refine ⟨members.map (finish ∘ Member.deeper),
    ((Member.ofLevel context (node.key, 0)).filter Member.isStored).map finish, ?_, ?_, ?_⟩
  · rw [properties, Lineage.storedMembers_of_extends coherent hextends proper, List.map_append,
      List.map_map]
  · rw [properties, List.forall₂_map_left_iff, List.forall₂_map_right_iff, List.forall₂_same]
    intro member hmember
    obtain ⟨level, -, -, hdepth⟩ := Lineage.exists_level hmember
    have hbelow : (finish member.deeper).accessor.depth = level.2 + 1 := by
      rw [← hdepth (member.deeper.type lineage context.schema)]
      exact Accessor.depth_deeper _
    exact ⟨rfl, rfl, rfl, rfl, hbelow.trans (congrArg (· + 1) (hdepth _).symm)⟩
  · intro hparams
    rw [properties, List.forall₂_map_left_iff, List.forall₂_map_right_iff, List.forall₂_same]
    intro member _
    have htype := member.type_of_extends coherent hextends proper hparams
    exact ⟨htype, congrArg (·.normalized context.schema) htype,
      congrArg (fun type => (member.accessor type).deeper) htype⟩

/-- Each property is reached by as many superclass links as its accessor follows. -/
theorem superclassAfter?_of_mem_properties (coherent : context.schema.Coherent)
    {property : PropertyDescriptor} (h : property ∈ context.properties node) :
    context.schema.superclassAfter? property.accessor.depth node.key =
      some property.declaringType := by
  obtain ⟨member, hmember, rfl⟩ := List.mem_map.1 h
  obtain ⟨level, hlevel, hdeclaring, hdepth⟩ := Lineage.exists_level hmember
  have hreached : context.schema.superclassAfter? level.2 node.key = some level.1 := by
    rcases List.mem_append.1 hlevel with hlevel | hlevel
    · exact (coherent.chain_ancestors node.key).superclassAfter? level (List.mem_reverse.1 hlevel)
    · rw [List.mem_singleton.1 hlevel]
      rfl
  have haccessor : (member.property context node.key node.name
      (member.type (Lineage.ofNode context.schema node) context.schema)).accessor.depth = level.2 :=
    hdepth _
  rw [haccessor, hreached, ← hdeclaring]
  rfl

end Context

end ObjectDocument
