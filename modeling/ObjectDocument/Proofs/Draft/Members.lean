import ObjectDocument.Proofs.Draft.Names

/-!
# Members

The members that the standard conventions make properties of are told apart from their types here: a
`Member` is all that a declaration says of a property, and its draft is decided by it and the type
that the lineage gives to it (`drafts_eq`).  So is the final property (`Member.property`), unless
its mapped name is empty.
-/

namespace ObjectDocument

/-- What a declaration says of a property. -/
structure Member where
  declaring : TypeKey
  declared : GenericType
  metadata : Metadata
  name : String
  /-- How the property is read and written, given its type. -/
  accessor : TypeDescriptor → Accessor

namespace Member

def draft (member : Member) (settings : Settings) (type : TypeDescriptor) : PropertyDraft where
  name := some member.name
  mappedName := some (PropertyDraft.mappedNameOf settings member.name member.metadata)
  type := some type
  metadata := member.metadata
  accessor := some (member.accessor type)
  declaringType := some member.declaring

def isStored (member : Member) : Bool :=
  !member.metadata.has .transient || member.metadata.has .id

def type (member : Member) (lineage : Lineage) (schema : Schema) : TypeDescriptor :=
  lineage.memberType schema member.declaring
    (TypeDescriptor.describe schema member.declaring member.declared) member.declared

def ofField (schema : Schema) (level : TypeKey × Nat) (field : DeclaredField) : Member where
  declaring := level.1
  declared := field.declared
  metadata := field.metadata
  name := field.name
  accessor type := DeclaredField.accessor schema level.2 type field.name

/-- The member of a group of methods, if they make a property. -/
def ofMethods? (group : (TypeKey × Nat) × String × List DeclaredMethod) : Option Member := do
  let (getter, setter) ← DeclaredMethod.pair? group.2.2
  let declared ← getter.declared
  return {
    declaring := group.1.1
    declared
    metadata := getter.metadata.union setter.metadata
    name := group.2.1
    accessor := fun _ => .method getter.name setter.name group.1.2 }

end Member

namespace Lineage

def levelFields (lineage : Lineage) (schema : Schema) :
    List ((TypeKey × Nat) × DeclaredField) :=
  lineage.levels.flatMap fun level =>
    (((schema.node? level.1).map (·.fields)).getD []).map (level, ·)

def members (lineage : Lineage) (context : Context) : List Member :=
  match context.settings.propertyDiscovery with
  | .fields => (lineage.levelFields context.schema).map fun (level, field) =>
      .ofField context.schema level field
  | .methods => (lineage.methodGroups context.schema).filterMap Member.ofMethods?

/-- Properties are found as members with the types that the lineage gives to them. -/
theorem drafts_eq (lineage : Lineage) (context : Context) :
    lineage.drafts context = (lineage.members context).map fun member =>
      member.draft context.settings (member.type lineage context.schema) := by
  unfold drafts members
  cases context.settings.propertyDiscovery with
  | fields =>
      simp only [fieldDrafts, levelFields, List.map_map, List.map_flatMap]
      rfl
  | methods =>
      simp only [methodDrafts, List.map_filterMap]
      refine List.filterMap_congr fun group _ => ?_
      unfold Member.ofMethods?
      cases DeclaredMethod.pair? group.2.2 with
      | none => rfl
      | some pair =>
          cases hdeclared : pair.1.declared with
          | none => simp [DeclaredMethod.draft?, hdeclared]
          | some declared => simp [DeclaredMethod.draft?, hdeclared, Member.draft, Member.type]

/-- The members of a type that become stored properties. -/
def storedMembers (lineage : Lineage) (context : Context) : List Member :=
  (lineage.members context).filter Member.isStored

def stored (lineage : Lineage) (context : Context) : List PropertyDraft :=
  (lineage.drafts context).filter PropertyDraft.isStored

theorem stored_eq (lineage : Lineage) (context : Context) :
    lineage.stored context = (lineage.storedMembers context).map fun member =>
      member.draft context.settings (member.type lineage context.schema) := by
  rw [stored, drafts_eq, List.filter_map]
  rfl

end Lineage

namespace Member

variable {member : Member} {context : Context} {owner : TypeKey} {entity : String}

def property (member : Member) (context : Context) (owner : TypeKey) (entity : String)
    (type : TypeDescriptor) : PropertyDescriptor where
  name := member.name
  mappedName := PropertyDraft.mappedNameOf context.settings member.name member.metadata
  fullName := entity ++ "." ++ member.name
  type := type
  normalizedType := type.normalized context.schema
  isArray := context.schema.isArray type.base
  metadata := member.metadata
  accessor := member.accessor type
  owner := owner
  declaringType := member.declaring

/-- Nothing but an empty mapped name keeps the draft of a member from being made final. -/
theorem finish_draft_eq_ok_iff {type : TypeDescriptor} {property : PropertyDescriptor} :
    (member.draft context.settings type).finish context.schema owner entity = .ok property ↔
      PropertyDraft.mappedNameOf context.settings member.name member.metadata ≠ "" ∧
        property = member.property context owner entity type := by
  unfold PropertyDraft.finish draft
  simp only [PropertyDraft.require, Except.bind_eq_ok_iff, Except.ok.injEq, exists_eq_left']
  by_cases hempty : PropertyDraft.mappedNameOf context.settings member.name member.metadata = ""
  · rw [if_pos hempty]
    constructor
    · intro h
      cases h
    · exact fun h => absurd hempty h.1
  · rw [if_neg hempty]
    constructor
    · intro h
      cases h
      exact ⟨hempty, rfl⟩
    · rintro ⟨-, rfl⟩
      rfl

end Member

namespace ModelDraft

variable {context : Context} {owner : TypeKey} {entity : String}

/-- Members come to properties exactly if no mapped name is empty and the names differ. -/
theorem finishProperties_eq_ok_iff {names : List String} {members : List Member}
    {type : Member → TypeDescriptor} {properties : List PropertyDescriptor} :
    finishProperties context owner entity names
        (members.map fun member => member.draft context.settings (type member)) = .ok properties ↔
      (∀ member ∈ members,
        PropertyDraft.mappedNameOf context.settings member.name member.metadata ≠ "") ∧
      (members.map (·.name)).Nodup ∧ (∀ member ∈ members, member.name ∉ names) ∧
        properties =
          members.map fun member => member.property context owner entity (type member) := by
  induction members generalizing names properties with
  | nil =>
      constructor
      · intro h
        cases h
        simp
      · rintro ⟨-, -, -, rfl⟩
        rfl
  | cons member rest ih =>
      simp only [List.map_cons, finishProperties_cons_eq_ok_iff, Member.finish_draft_eq_ok_iff,
        List.forall_mem_cons, List.nodup_cons]
      constructor
      · rintro ⟨_, _, ⟨hempty, rfl⟩, hnew, hothers, rfl⟩
        obtain ⟨hempties, hnodup, hnames, rfl⟩ := ih.1 hothers
        refine ⟨⟨hempty, hempties⟩, ⟨fun hname => ?_, hnodup⟩, ⟨hnew, fun other hother => ?_⟩, rfl⟩
        · obtain ⟨other, hother, heq⟩ := List.mem_map.1 hname
          exact hnames other hother (heq ▸ List.mem_cons_self)
        · exact fun hname => hnames other hother (List.mem_cons_of_mem _ hname)
      · rintro ⟨⟨hempty, hempties⟩, ⟨hname, hnodup⟩, ⟨hnew, hnames⟩, rfl⟩
        refine ⟨_, _, ⟨hempty, rfl⟩, hnew,
          ih.2 ⟨hempties, hnodup, fun other hother => ?_, rfl⟩, rfl⟩
        rw [List.mem_cons, not_or]
        exact ⟨fun heq => hname (List.mem_map.2 ⟨other, hother, heq⟩), hnames other hother⟩

end ModelDraft

namespace Context

variable {context : Context} {key : TypeKey} {node : TypeNode} {model : EntityModel}

def properties (context : Context) (node : TypeNode) : List PropertyDescriptor :=
  let lineage := Lineage.ofNode context.schema node
  (lineage.storedMembers context).map fun member =>
    member.property context node.key node.name (member.type lineage context.schema)

/-- A type has an outline exactly if nothing is missing of its discriminator, its collection has a
name, and the names of its stored members differ and are mapped to names. -/
theorem outline_eq_ok_iff (hnode : context.schema.node? key = some node) :
    context.outline key = .ok model ↔
      (context.outlineDraft node).discriminatorFault? = none ∧
      (context.outlineDraft node).collectionName context.settings ≠ "" ∧
      (∀ member ∈ (Lineage.ofNode context.schema node).storedMembers context,
        PropertyDraft.mappedNameOf context.settings member.name member.metadata ≠ "") ∧
      (((Lineage.ofNode context.schema node).storedMembers context).map (·.name)).Nodup ∧
      model = (context.outlineDraft node).modelOf context (context.properties node) := by
  have houtline : context.outline key = (context.outlineDraft node).outcome context := by
    simp only [outline, Schema.node, hnode]
    rfl
  have hdrafts : (context.outlineDraft node).properties =
      (Lineage.ofNode context.schema node).stored context := rfl
  rw [houtline, ModelDraft.outcome_eq_ok_iff, hdrafts, Lineage.stored_eq]
  refine and_congr_right' (and_congr_right' ?_)
  simp only [ModelDraft.finishProperties_eq_ok_iff]
  constructor
  · rintro ⟨_, ⟨hempty, hnodup, -, rfl⟩, rfl⟩
    exact ⟨hempty, hnodup, rfl⟩
  · rintro ⟨hempty, hnodup, rfl⟩
    exact ⟨_, ⟨hempty, hnodup, fun _ _ => List.not_mem_nil, rfl⟩, rfl⟩

theorem properties_outline (hnode : context.schema.node? key = some node)
    (h : context.outline key = .ok model) : model.properties = context.properties node := by
  obtain ⟨-, -, -, -, rfl⟩ := (outline_eq_ok_iff hnode).1 h
  rfl

end Context

end ObjectDocument
