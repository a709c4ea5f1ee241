import Mathlib.Data.List.Permutation
import ObjectDocument.Proofs.Draft.Outline
import ObjectDocument.Proofs.Schema.Arranged
import ObjectDocument.Proofs.Schema.Built

/-!
# Getters and setters

A property is made of exactly two methods: the methods that belong to a name by their own names must
be a getter and a setter, in either order, and no third (`DeclaredMethod.Pairs`).  The grouping of
methods does not show in what this says, so the order in which they are declared decides the order
of the properties and nothing else of them (`Convention.methodDiscovery_pairs`).
-/

namespace ObjectDocument

namespace DeclaredMethod

/-- The name of the method is that of a property after `get`, `set` or `is`, but for the case of the
first character. -/
def BelongsTo (method : DeclaredMethod) (property : String) : Prop :=
  ∃ start ∈ ["get", "set", "is"], ∃ (c : Char) (rest : List Char),
    method.name.toList = start.toList ++ c :: rest ∧
      property = String.ofList (Text.lowerChar c ++ rest)

end DeclaredMethod

theorem stripStart?_eq_some_iff {start text rest : List Char} :
    stripStart? start text = some rest ↔ text = start ++ rest := by
  unfold stripStart?
  by_cases h : start <+: text
  · obtain ⟨after, rfl⟩ := h
    simp
  · rw [if_neg (by simpa using h)]
    constructor
    · intro hnone
      cases hnone
    · rintro rfl
      exact absurd (List.prefix_append _ _) h

namespace DeclaredMethod

/-- No two of the beginnings fit one name, so it does not matter which is tried first. -/
theorem stripped_eq_some_iff {text rest : List Char} :
    ((stripStart? "get".toList text).or <| (stripStart? "set".toList text).or <|
        stripStart? "is".toList text) = some rest ↔
      ∃ start ∈ ["get", "set", "is"], text = start.toList ++ rest := by
  simp only [Option.or_eq_some_iff, stripStart?_eq_some_iff, List.mem_cons, List.not_mem_nil,
    or_false, exists_eq_or_imp, exists_eq_left]
  constructor
  · rintro (h | ⟨-, h | ⟨-, h⟩⟩)
    · exact .inl h
    · exact .inr (.inl h)
    · exact .inr (.inr h)
  · rintro (h | rfl | rfl)
    · exact .inl h
    · exact .inr ⟨by simp [stripStart?], .inl rfl⟩
    · exact .inr ⟨by simp [stripStart?], .inr ⟨by simp [stripStart?], rfl⟩⟩

theorem propertyOfMethod?_eq_some_iff {method : DeclaredMethod} {property : String} :
    propertyOfMethod? method.name = some property ↔ method.BelongsTo property := by
  simp only [propertyOfMethod?, BelongsTo]
  generalize hstripped : ((stripStart? "get".toList method.name.toList).or <|
    (stripStart? "set".toList method.name.toList).or <|
      stripStart? "is".toList method.name.toList) = stripped
  have hstart (rest : List Char) :
      stripped = some rest ↔ ∃ start ∈ ["get", "set", "is"],
        method.name.toList = start.toList ++ rest := by
    rw [← hstripped, stripped_eq_some_iff]
  constructor
  · intro h
    match stripped, hstart with
    | some (c :: rest), hstart =>
        obtain ⟨start, hmem, htext⟩ := (hstart (c :: rest)).1 rfl
        exact ⟨start, hmem, c, rest, htext, (Option.some.inj h).symm⟩
    | some [], _ => cases h
    | none, _ => cases h
  · rintro ⟨start, hmem, c, rest, htext, rfl⟩
    rw [(hstart (c :: rest)).2 ⟨start, hmem, htext⟩]

instance (method : DeclaredMethod) (property : String) : Decidable (method.BelongsTo property) :=
  decidable_of_iff _ propertyOfMethod?_eq_some_iff

/-- The methods that belong to a property are a getter, which has a type, and a setter. -/
structure Pairs (methods : List DeclaredMethod) (property : String)
    (getter setter : DeclaredMethod) : Prop where
  group : (methods.filter (·.BelongsTo property)).Perm [getter, setter]
  isGetter : getter.isGetter
  returns : getter.declared.isSome
  isSetter : setter.isSetter

/-! ### Groups -/

theorem not_isSetter {method : DeclaredMethod} (h : method.isGetter) : ¬ method.isSetter := by
  intro hsetter
  simp only [DeclaredMethod.isGetter, DeclaredMethod.isSetter, Bool.and_eq_true,
    decide_eq_true_eq] at h hsetter
  exact absurd (h.2.symm.trans hsetter.2) (by decide)

theorem pair?_eq_some_iff {group : List DeclaredMethod} {getter setter : DeclaredMethod} :
    pair? group = some (getter, setter) ↔
      group.Perm [getter, setter] ∧ getter.isGetter ∧ setter.isSetter := by
  have hpair : pair? group = some (getter, setter) ↔ group.length = 2 ∧
      group.find? isGetter = some getter ∧ group.find? isSetter = some setter := by
    unfold pair?
    split
    next hlength =>
      cases group.find? isGetter <;> cases group.find? isSetter <;> simp [hlength]
    next hlength => simp [hlength]
  rw [hpair]
  constructor
  · rintro ⟨hlength, hgetter, hsetter⟩
    -- No getter is a setter, so the two that are found are different and make up the group.
    have hne : getter ≠ setter := fun heq =>
      not_isSetter (List.find?_some hgetter) (heq ▸ List.find?_some hsetter)
    refine ⟨?_, List.find?_some hgetter, List.find?_some hsetter⟩
    obtain ⟨first, second, rfl⟩ := List.length_eq_two.1 hlength
    have hgetter := List.mem_of_find?_eq_some hgetter
    have hsetter := List.mem_of_find?_eq_some hsetter
    simp only [List.mem_cons, List.not_mem_nil, or_false] at hgetter hsetter
    rw [List.perm_pair]
    rcases hgetter with rfl | rfl <;> rcases hsetter with rfl | rfl
    · exact absurd rfl hne
    · exact .inl rfl
    · exact .inr rfl
    · exact absurd rfl hne
  · rintro ⟨hperm, hgetter, hsetter⟩
    have hother : ¬ setter.isGetter := fun h => not_isSetter h hsetter
    refine ⟨hperm.length_eq, ?_⟩
    rcases List.perm_pair.1 hperm with rfl | rfl
    · simp [hgetter, hsetter, not_isSetter hgetter]
    · simp [hgetter, hsetter, hother]

theorem mem_groups_iff {methods group : List DeclaredMethod} {property : String} :
    (property, group) ∈ groups methods ↔
      (∃ method ∈ methods, method.BelongsTo property) ∧
        group = methods.filter (·.BelongsTo property) := by
  simp only [groups, List.mem_map, List.mem_eraseDups, List.mem_filterMap,
    propertyOfMethod?_eq_some_iff, Prod.mk.injEq]
  constructor
  · rintro ⟨_, hmethod, rfl, rfl⟩
    exact ⟨hmethod, rfl⟩
  · rintro ⟨hmethod, rfl⟩
    exact ⟨_, hmethod, rfl, rfl⟩

/-! ### The order of groups -/

section Order

variable {α β : Type} [DecidableEq β]

theorem eraseDups_filter (keep : β → Bool) (bs : List β) :
    (bs.filter keep).eraseDups = bs.eraseDups.filter keep := by
  induction hlength : bs.length using Nat.strong_induction_on generalizing bs with
  | _ length ih =>
    cases bs with
    | nil => rfl
    | cons b bs =>
        have hrest : ((bs.filter fun other => !other == b).filter keep).eraseDups =
            (bs.filter fun other => !other == b).eraseDups.filter keep :=
          ih _ (by
            have := List.length_filter_le (fun other => !other == b) bs
            simp only [List.length_cons] at hlength
            omega) _ rfl
        cases hkeep : keep b with
        | true =>
            rw [List.filter_cons_of_pos hkeep, List.eraseDups_cons, List.eraseDups_cons,
              List.filter_cons_of_pos hkeep, ← hrest, List.filter_comm]
        | false =>
            -- Nothing that is kept is a repetition of what is not.
            have hsame : (bs.filter fun other => !other == b).filter keep = bs.filter keep := by
              rw [List.filter_filter]
              refine List.filter_congr fun other _ => ?_
              cases hother : keep other with
              | false => rfl
              | true =>
                  have hne : other ≠ b := fun heq => by simp [heq, hkeep] at hother
                  simp [hne]
            rw [List.filter_cons_of_neg (by simp [hkeep]), List.eraseDups_cons,
              List.filter_cons_of_neg (by simp [hkeep]), ← hrest, hsame]

/-- What is found in a list, less its repetitions, stands in the order in which it is found. -/
theorem pairwise_findIdx (find : α → Option β) (as : List α) :
    (as.filterMap find).eraseDups.Pairwise fun b c =>
      (as.findIdx fun a => find a = some b) < as.findIdx fun a => find a = some c := by
  induction as with
  | nil => exact .nil
  | cons a as ih =>
      cases hfound : find a with
      | none =>
          rw [List.filterMap_cons_none hfound]
          refine ih.imp fun h => ?_
          simpa [List.findIdx_cons, hfound] using h
      | some first =>
          have hfirst : ((a :: as).findIdx fun a => find a = some first) = 0 := by
            simp [List.findIdx_cons, hfound]
          have hother {b : β} (h : b ≠ first) : ((a :: as).findIdx fun a => find a = some b) =
              (as.findIdx fun a => find a = some b) + 1 := by
            simp [List.findIdx_cons, hfound, h.symm]
          rw [List.filterMap_cons_some hfound, List.eraseDups_cons, eraseDups_filter]
          refine List.pairwise_cons.2 ⟨fun b hb => ?_, ?_⟩
          · have hne : b ≠ first := by simpa using List.of_mem_filter hb
            rw [hfirst, hother hne]
            omega
          · refine (ih.filter _).imp_of_mem fun hb hc h => ?_
            rw [hother (by simpa using List.of_mem_filter hb),
              hother (by simpa using List.of_mem_filter hc)]
            omega

end Order

/-- Groups are in the order of the first methods of each. -/
theorem pairwise_groups (methods : List DeclaredMethod) :
    (groups methods).Pairwise fun group other =>
      methods.findIdx (·.BelongsTo group.1) < methods.findIdx (·.BelongsTo other.1) := by
  have h := pairwise_findIdx (fun method => propertyOfMethod? method.name) methods
  simp only [propertyOfMethod?_eq_some_iff] at h
  exact List.pairwise_map.2 h

theorem name_ne_name {getter setter : DeclaredMethod} (hgetter : getter.isGetter)
    (hsetter : setter.isSetter) : getter.name ≠ setter.name := by
  intro hname
  simp only [DeclaredMethod.isGetter, DeclaredMethod.isSetter, startsWith, Bool.and_eq_true,
    Bool.or_eq_true, List.isPrefixOf_iff_prefix, hname] at hgetter hsetter
  obtain ⟨rest, hset⟩ := hsetter.1
  rcases hgetter.1 with ⟨rest, hstart⟩ | ⟨rest, hstart⟩
  · exact absurd (hstart.trans hset.symm) (by simp)
  · exact absurd (hstart.trans hset.symm) (by simp)

theorem Pairs.eq_of_names {methods : List DeclaredMethod} {property : String}
    {getter setter found other : DeclaredMethod} (h : Pairs methods property getter setter)
    (hfound : found ∈ methods) (hother : other ∈ methods) (hgetter : found.name = getter.name)
    (hsetter : other.name = setter.name) : found = getter ∧ other = setter := by
  have hmem {method : DeclaredMethod} :
      method ∈ methods ∧ method.BelongsTo property ↔ method = getter ∨ method = setter := by
    simpa using h.group.mem_iff (a := method)
  have hne := name_ne_name h.isGetter h.isSetter
  have hbelongs {method member : DeclaredMethod} (hname : method.name = member.name)
      (hmember : member.BelongsTo property) : method.BelongsTo property := by
    rwa [BelongsTo, hname]
  have hfound := hmem.1 ⟨hfound, hbelongs hgetter (hmem.2 (.inl rfl)).2⟩
  have hother := hmem.1 ⟨hother, hbelongs hsetter (hmem.2 (.inr rfl)).2⟩
  refine ⟨hfound.resolve_right ?_, hother.resolve_left ?_⟩
  · rintro rfl
    exact hne hgetter.symm
  · rintro rfl
    exact hne hsetter

theorem Pairs.mem {methods : List DeclaredMethod} {property : String}
    {getter setter : DeclaredMethod} (h : Pairs methods property getter setter) :
    getter ∈ methods ∧ setter ∈ methods :=
  ⟨List.mem_of_mem_filter (h.group.mem_iff.2 List.mem_cons_self),
    List.mem_of_mem_filter (h.group.mem_iff.2 (List.mem_cons_of_mem _ List.mem_cons_self))⟩

theorem Pairs.of_perm {methods others : List DeclaredMethod} {property : String}
    {getter setter : DeclaredMethod} (hperm : methods.Perm others)
    (h : Pairs methods property getter setter) : Pairs others property getter setter :=
  ⟨(hperm.filter _).symm.trans h.group, h.isGetter, h.returns, h.isSetter⟩

theorem draft?_arranged (context : Context) (arrange : TypeNode → List DeclaredMethod)
    (lineage : Lineage) (declaring : TypeKey) (depth : Nat) (property : String)
    (getter setter : DeclaredMethod) :
    draft? { context with schema := context.schema.arranged arrange } lineage declaring depth
        property getter setter =
      draft? context lineage declaring depth property getter setter := by
  simp only [draft?, TypeDescriptor.describe_arranged, Lineage.memberType_arranged]

end DeclaredMethod

def Schema.methodsOf (schema : Schema) (key : TypeKey) : List DeclaredMethod :=
  ((schema.node? key).map (·.methods)).getD []

theorem Schema.methodsOf_arranged_perm {schema : Schema}
    {arrange : TypeNode → List DeclaredMethod} (h : ∀ node, (arrange node).Perm node.methods)
    (key : TypeKey) : ((schema.arranged arrange).methodsOf key).Perm (schema.methodsOf key) := by
  unfold methodsOf
  rw [node?_arranged]
  cases schema.node? key with
  | none => exact .nil
  | some node => exact h node

namespace Lineage

variable {lineage : Lineage} {context : Context} {level : TypeKey × Nat}

def methodDraftsAt (lineage : Lineage) (context : Context) (level : TypeKey × Nat) :
    List PropertyDraft :=
  (DeclaredMethod.groups (context.schema.methodsOf level.1)).filterMap fun (name, methods) => do
    let (getter, setter) ← DeclaredMethod.pair? methods
    DeclaredMethod.draft? context lineage level.1 level.2 name getter setter

theorem methodDrafts_eq (lineage : Lineage) (context : Context) :
    lineage.methodDrafts context = lineage.levels.flatMap (lineage.methodDraftsAt context) := by
  rw [methodDrafts, methodGroups, List.filterMap_flatMap]
  simp only [List.filterMap_map]
  rfl

/-- A property is made of each pair of methods, and of nothing else. -/
theorem mem_methodDraftsAt_iff {property : PropertyDraft} :
    property ∈ lineage.methodDraftsAt context level ↔ ∃ name getter setter,
      DeclaredMethod.Pairs (context.schema.methodsOf level.1) name getter setter ∧
        DeclaredMethod.draft? context lineage level.1 level.2 name getter setter =
          some property := by
  simp only [methodDraftsAt, List.mem_filterMap, Prod.exists, DeclaredMethod.mem_groups_iff]
  constructor
  · rintro ⟨name, group, ⟨-, rfl⟩, h⟩
    obtain ⟨⟨getter, setter⟩, hpair, hdraft⟩ := Option.bind_eq_some_iff.1 h
    obtain ⟨hperm, hgetter, hsetter⟩ := DeclaredMethod.pair?_eq_some_iff.1 hpair
    obtain ⟨declared, hdeclared, -⟩ := Option.map_eq_some_iff.1 hdraft
    exact ⟨name, getter, setter, ⟨hperm, hgetter, Option.isSome_of_eq_some hdeclared, hsetter⟩,
      hdraft⟩
  · rintro ⟨name, getter, setter, pairs, hdraft⟩
    have hgetter := List.mem_filter.1 (pairs.group.mem_iff.2 List.mem_cons_self)
    refine ⟨name, _, ⟨⟨getter, hgetter.1, of_decide_eq_true hgetter.2⟩, rfl⟩, ?_⟩
    rw [DeclaredMethod.pair?_eq_some_iff.2 ⟨pairs.group, pairs.isGetter, pairs.isSetter⟩]
    exact hdraft

theorem name_of_draft? {declaring : TypeKey} {depth : Nat} {name : String}
    {getter setter : DeclaredMethod} {property : PropertyDraft}
    (h : DeclaredMethod.draft? context lineage declaring depth name getter setter =
      some property) :
    property.name = some name ∧
      property.accessor = some (.method getter.name setter.name depth) := by
  obtain ⟨declared, -, rfl⟩ := Option.map_eq_some_iff.1 h
  exact ⟨rfl, rfl⟩

/-- The properties are in the order of the first methods that belong to each. -/
theorem pairwise_methodDraftsAt (lineage : Lineage) (context : Context) (level : TypeKey × Nat) :
    (lineage.methodDraftsAt context level).Pairwise fun property other =>
      ∃ name, property.name = some name ∧ ∃ later, other.name = some later ∧
        (context.schema.methodsOf level.1).findIdx (·.BelongsTo name) <
          (context.schema.methodsOf level.1).findIdx (·.BelongsTo later) := by
  refine List.pairwise_filterMap.2 ((DeclaredMethod.pairwise_groups _).imp ?_)
  intro group other hlt property hproperty later hlater
  obtain ⟨_, -, hproperty⟩ := Option.bind_eq_some_iff.1 hproperty
  obtain ⟨_, -, hlater⟩ := Option.bind_eq_some_iff.1 hlater
  exact ⟨_, (name_of_draft? hproperty).1, _, (name_of_draft? hlater).1, hlt⟩

theorem nodup_methodDraftsAt (lineage : Lineage) (context : Context) (level : TypeKey × Nat) :
    (lineage.methodDraftsAt context level).Nodup := by
  refine (pairwise_methodDraftsAt lineage context level).imp ?_
  rintro property _ ⟨name, hname, later, hlater, hlt⟩ rfl
  rw [hname] at hlater
  cases hlater
  exact absurd hlt (Nat.lt_irrefl _)

/-- With methods in another order, the properties are the same in another order. -/
theorem methodDraftsAt_arranged_perm {arrange : TypeNode → List DeclaredMethod}
    (h : ∀ node, (arrange node).Perm node.methods) :
    (lineage.methodDraftsAt { context with schema := context.schema.arranged arrange } level).Perm
      (lineage.methodDraftsAt context level) := by
  have hmethods : ((context.schema.arranged arrange).methodsOf level.1).Perm
      (context.schema.methodsOf level.1) := Schema.methodsOf_arranged_perm h level.1
  rw [List.perm_ext_iff_of_nodup (nodup_methodDraftsAt _ _ _) (nodup_methodDraftsAt _ _ _)]
  intro property
  simp only [mem_methodDraftsAt_iff, DeclaredMethod.draft?_arranged]
  constructor
  · rintro ⟨name, getter, setter, pairs, hdraft⟩
    exact ⟨name, getter, setter, pairs.of_perm hmethods, hdraft⟩
  · rintro ⟨name, getter, setter, pairs, hdraft⟩
    exact ⟨name, getter, setter, pairs.of_perm hmethods.symm, hdraft⟩

/-- A type has a property of a name with a getter and a setter of its own exactly if these are a
pair. -/
theorem exists_methodDraftsAt_iff {name : String} {getter setter : DeclaredMethod}
    (hgetter : getter ∈ context.schema.methodsOf level.1)
    (hsetter : setter ∈ context.schema.methodsOf level.1) :
    (∃ property ∈ lineage.methodDraftsAt context level, property.name = some name ∧
      property.accessor = some (.method getter.name setter.name level.2)) ↔
      DeclaredMethod.Pairs (context.schema.methodsOf level.1) name getter setter := by
  constructor
  · rintro ⟨property, hproperty, hname, haccessor⟩
    obtain ⟨other, found, partner, pairs, hdraft⟩ := mem_methodDraftsAt_iff.1 hproperty
    obtain ⟨hother, hfound⟩ := name_of_draft? hdraft
    rw [hname] at hother
    rw [haccessor] at hfound
    cases hother
    -- The accessor has the names of the methods only, which decide them within the group.
    have hnames : getter.name = found.name ∧ setter.name = partner.name := by
      simpa using hfound
    obtain ⟨rfl, rfl⟩ := pairs.eq_of_names hgetter hsetter hnames.1 hnames.2
    exact pairs
  · intro pairs
    obtain ⟨declared, hdeclared⟩ := Option.isSome_iff_exists.1 pairs.returns
    have hdraft : ∃ property,
        DeclaredMethod.draft? context lineage level.1 level.2 name getter setter =
          some property := by
      rw [DeclaredMethod.draft?, hdeclared]
      exact ⟨_, rfl⟩
    obtain ⟨property, hdraft⟩ := hdraft
    exact ⟨property, mem_methodDraftsAt_iff.2 ⟨name, getter, setter, pairs, hdraft⟩,
      name_of_draft? hdraft⟩

end Lineage

/-- Of the methods of a type and its ancestors, the pass makes properties level by level.  Each pair
of a level makes one property, and nothing else does: a getter and a setter of the level have a
property of a name exactly if they are all the methods that belong to the name.  The properties of a
level have different names and are in the order in which methods that belong to these were first
declared.  If methods are declared in another order, then every type inherits the same, and the
properties of each level are the same, except for their order. -/
theorem Convention.methodDiscovery_pairs (context : Context) (draft : ModelDraft) :
    (∀ request state,
      (((methodDiscovery.apply context).run.run draft).answer request state).1 =
        (.ok (), draft.addProperties
          (draft.lineage.levels.flatMap (draft.lineage.methodDraftsAt context)))) ∧
    (∀ level : TypeKey × Nat,
      (∀ property, property ∈ draft.lineage.methodDraftsAt context level ↔
        ∃ name getter setter,
          DeclaredMethod.Pairs (context.schema.methodsOf level.1) name getter setter ∧
          DeclaredMethod.draft? context draft.lineage level.1 level.2 name getter setter =
            some property) ∧
      (∀ name, ∀ getter ∈ context.schema.methodsOf level.1,
        ∀ setter ∈ context.schema.methodsOf level.1,
          (∃ property ∈ draft.lineage.methodDraftsAt context level, property.name = some name ∧
            property.accessor = some (.method getter.name setter.name level.2)) ↔
          DeclaredMethod.Pairs (context.schema.methodsOf level.1) name getter setter) ∧
      (draft.lineage.methodDraftsAt context level).Pairwise fun property other =>
        ∃ name, property.name = some name ∧ ∃ later, other.name = some later ∧
          (context.schema.methodsOf level.1).findIdx (·.BelongsTo name) <
            (context.schema.methodsOf level.1).findIdx (·.BelongsTo later)) ∧
    ∀ arrange : TypeNode → List DeclaredMethod, (∀ node, (arrange node).Perm node.methods) →
      (∀ node, Lineage.ofNode (context.schema.arranged arrange) (node.arranged arrange) =
        Lineage.ofNode context.schema node) ∧
      ∀ level : TypeKey × Nat,
        (draft.lineage.methodDraftsAt
          { context with schema := context.schema.arranged arrange } level).Perm
            (draft.lineage.methodDraftsAt context level) := by
  refine ⟨fun request state => ?_, fun level => ⟨fun _ => Lineage.mem_methodDraftsAt_iff,
    fun _ _ hgetter _ hsetter => Lineage.exists_methodDraftsAt_iff hgetter hsetter,
    Lineage.pairwise_methodDraftsAt _ _ _⟩, fun arrange harrange => ⟨Lineage.ofNode_arranged,
    fun level => Lineage.methodDraftsAt_arranged_perm harrange⟩⟩
  obtain ⟨exchange, hyields, -⟩ := Serves.exists_yields_serves request
    ((methodDiscovery.apply context).run.run draft) state
  rw [← Lineage.methodDrafts_eq]
  exact (silent_methodDiscovery context _ _ _ hyields).2

def Declarations.till : Declarations :=
  .ofList [{ name := "Till", methods := [
    { name := "setOwner", shape := .setter, type := some "String" },
    { name := "isOpen", shape := .getter, type := some "bool" },
    { name := "getOwner", shape := .getter, type := some "String" },
    { name := "setOpen", shape := .setter, type := some "bool" },
    { name := "getSum", shape := .getter, type := some "i64" },
    { name := "setSum", shape := .setter, type := some "i64" },
    { name := "getsum", shape := .getter, type := some "i64" },
    { name := "getLimit", shape := .getter, type := some "i64" },
    { name := "setLimit", shape := .other, type := some "i64" }] }]

/-- The till has a property that tells whether it is open, and none for the sum or the limit, and
with its methods in reverse it has the same properties. -/
theorem Convention.methodDiscovery_pairs_till :
    let schema := Declarations.till.schema
    ∃ node, schema.node? ⟨25⟩ = some node ∧
      let lineage := Lineage.ofNode schema node
      (∃ property ∈ lineage.methodDraftsAt ⟨schema, {}⟩ (⟨25⟩, 0), property.name = some "open" ∧
        property.accessor = some (.method "isOpen" "setOpen" 0)) ∧
      (¬ ∃ property ∈ lineage.methodDraftsAt ⟨schema, {}⟩ (⟨25⟩, 0), property.name = some "sum" ∧
        property.accessor = some (.method "getSum" "setSum" 0)) ∧
      (¬ ∃ property ∈ lineage.methodDraftsAt ⟨schema, {}⟩ (⟨25⟩, 0), property.name = some "limit" ∧
        property.accessor = some (.method "getLimit" "setLimit" 0)) ∧
      (lineage.methodDraftsAt ⟨schema.arranged fun node => node.methods.reverse, {}⟩
        (⟨25⟩, 0)).Perm (lineage.methodDraftsAt ⟨schema, {}⟩ (⟨25⟩, 0)) := by
  intro schema
  obtain ⟨node, hnode⟩ : ∃ node, schema.node? ⟨25⟩ = some node :=
    Option.isSome_iff_exists.1 (by decide +kernel)
  obtain ⟨-, hlevel, harranged⟩ :=
    methodDiscovery_pairs ⟨schema, {}⟩ (.ofNode schema node none [])
  obtain ⟨-, hpairs, -⟩ := hlevel (⟨25⟩, 0)
  refine ⟨node, hnode, ?_, ?_, ?_, (harranged (fun node => node.methods.reverse)
    fun node => List.reverse_perm _).2 _⟩
  · exact (hpairs "open" ⟨"isOpen", .getter, some (.applied ⟨9⟩ []), {}⟩ (by decide +kernel)
      ⟨"setOpen", .setter, some (.applied ⟨9⟩ []), {}⟩ (by decide +kernel)).2
        ⟨by decide +kernel, by decide, rfl, by decide⟩
  · intro h
    have pairs := (hpairs "sum" ⟨"getSum", .getter, some (.applied ⟨13⟩ []), {}⟩
      (by decide +kernel) ⟨"setSum", .setter, some (.applied ⟨13⟩ []), {}⟩ (by decide +kernel)).1 h
    exact absurd pairs.group (by decide +kernel)
  · intro h
    have pairs := (hpairs "limit" ⟨"getLimit", .getter, some (.applied ⟨13⟩ []), {}⟩
      (by decide +kernel) ⟨"setLimit", .other, some (.applied ⟨13⟩ []), {}⟩ (by decide +kernel)).1 h
    exact absurd pairs.isSetter (by decide +kernel)

end ObjectDocument
