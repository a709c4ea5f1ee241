import Mathlib.Algebra.GroupWithZero.Nat
import Mathlib.Data.List.Nodup
import Mathlib.Data.List.Perm.Subperm
import Mathlib.Logic.Relation
import ObjectDocument.Proofs.Schema.Coherent

/-!
# Ancestors and interfaces

Ancestors and interfaces are computed in a number of steps.  In a coherent schema the steps are
enough: following superclasses comes to an end before the types of the schema are used up
(`chain_ancestors`), and the interfaces that are collected are closed (`mem_allInterfaces_iff`).
-/

namespace ObjectDocument.Schema

variable {schema : Schema} {key other : TypeKey}

def Extends (schema : Schema) (key parent : TypeKey) : Prop :=
  schema.superclassOf? key = some parent

/-- The list of all ancestors of a type, nearest first and without the root. -/
inductive Chain (schema : Schema) : TypeKey → List TypeKey → Prop where
  | last {key : TypeKey} (h : ∀ parent, schema.Extends key parent → parent = .object) :
      Chain schema key []
  | cons {key parent : TypeKey} {ancestors : List TypeKey}
      (extends_parent : schema.Extends key parent) (proper : parent ≠ .object)
      (chain : Chain schema parent ancestors) : Chain schema key (parent :: ancestors)

/-- What descends to an end is not part of a circle. -/
theorem not_transGen_of_acc {α : Type} {r : α → α → Prop} {a : α}
    (h : Acc (fun b a => r a b) a) : ¬Relation.TransGen r a a := by
  induction h with
  | intro a _ ih =>
      intro hcycle
      obtain ⟨b, hb, hrest⟩ := Relation.TransGen.head'_iff.1 hcycle
      exact ih b hb (Relation.TransGen.tail' hrest hb)

theorem length_le_size {keys : List TypeKey} (hnodup : keys.Nodup)
    (hkeys : ∀ key ∈ keys, ∃ node, schema.node? key = some node) : keys.length ≤ schema.size := by
  have hindices : (keys.map TypeKey.index).Nodup := hnodup.map fun _ _ => congrArg TypeKey.mk
  have hsubset : keys.map TypeKey.index ⊆ List.range schema.size := by
    intro index hindex
    obtain ⟨key, hkey, rfl⟩ := List.mem_map.1 hindex
    obtain ⟨node, hnode⟩ := hkeys key hkey
    exact List.mem_range.2 (List.getElem?_eq_some_iff.1 hnode).1
  simpa using (hindices.subperm hsubset).length_le

theorem exists_node_of_kind? {kind : TypeKind} (h : schema.kind? key = some kind) :
    ∃ node, schema.node? key = some node := by
  obtain ⟨node, hnode, -⟩ := Option.map_eq_some_iff.1 h
  exact ⟨node, hnode⟩

namespace Coherent

theorem exists_node_of_extends (coherent : schema.Coherent) (h : schema.Extends key other) :
    ∃ node, schema.node? other = some node :=
  exists_node_of_kind? (coherent.kind_of_superclassOf? h)

/-- Following superclasses without meeting a type again comes to an end. -/
theorem acc_of_repeatedAncestor? (coherent : schema.Coherent) (steps : Nat)
    {visited : List TypeKey} (hvisited : visited.Nodup)
    (hnodes : ∀ key ∈ visited, ∃ node, schema.node? key = some node)
    (hsteps : schema.size < steps + visited.length) (hextends : schema.Extends key other)
    (h : schema.repeatedAncestor? visited steps (some other) = none) :
    Acc (fun parent key => schema.Extends key parent) other := by
  induction steps generalizing visited key other with
  | zero =>
      have hlength := length_le_size hvisited hnodes
      omega
  | succ steps ih =>
      rw [repeatedAncestor?] at h
      by_cases hmem : other ∈ visited
      · rw [if_pos hmem] at h
        cases h
      · rw [if_neg hmem] at h
        refine Acc.intro other fun parent hparent => ?_
        rw [show schema.superclassOf? other = some parent from hparent] at h
        refine ih (List.nodup_cons.2 ⟨hmem, hvisited⟩) (fun key hkey => ?_) ?_ hparent h
        · rcases List.mem_cons.1 hkey with rfl | hkey
          · exact coherent.exists_node_of_extends hextends
          · exact hnodes key hkey
        · rw [List.length_cons]
          omega

theorem acc_extends (coherent : schema.Coherent) (key : TypeKey) :
    Acc (fun parent key => schema.Extends key parent) key := by
  refine Acc.intro key fun parent hparent => ?_
  obtain ⟨node, hnode, hsuperclass⟩ := Option.bind_eq_some_iff.1 hparent
  have hacyclic := coherent.acyclic hnode
  rw [hsuperclass] at hacyclic
  refine coherent.acc_of_repeatedAncestor? (schema.size + 1) (List.nodup_singleton key) ?_ ?_
    hparent hacyclic
  · intro other hother
    rw [List.mem_singleton.1 hother]
    exact ⟨node, hnode⟩
  · rw [List.length_singleton]
    omega

theorem exists_chain (coherent : schema.Coherent) (key : TypeKey) :
    ∃ ancestors, schema.Chain key ancestors := by
  induction coherent.acc_extends key with
  | intro key _ ih =>
      cases hparent : schema.superclassOf? key with
      | none =>
          refine ⟨[], .last fun parent h => ?_⟩
          rw [Extends, hparent] at h
          cases h
      | some parent =>
          by_cases hobject : parent = .object
          · refine ⟨[], .last fun other h => ?_⟩
            rw [Extends, hparent] at h
            cases h
            exact hobject
          · obtain ⟨ancestors, hancestors⟩ := ih parent hparent
            exact ⟨parent :: ancestors, .cons hparent hobject hancestors⟩

end Coherent

namespace Chain

variable {ancestors : List TypeKey}

theorem transGen (chain : schema.Chain key ancestors) (h : other ∈ ancestors) :
    Relation.TransGen schema.Extends key other := by
  induction chain with
  | last => cases h
  | cons extends_parent _ _ ih =>
      rcases List.mem_cons.1 h with rfl | h
      · exact .single extends_parent
      · exact .head extends_parent (ih h)

theorem notMem (coherent : schema.Coherent) (chain : schema.Chain key ancestors) :
    key ∉ ancestors :=
  fun h => not_transGen_of_acc (coherent.acc_extends key) (chain.transGen h)

theorem nodup (coherent : schema.Coherent) (chain : schema.Chain key ancestors) :
    (key :: ancestors).Nodup := by
  induction chain with
  | last => exact List.nodup_singleton _
  | cons extends_parent proper chain ih =>
      exact List.nodup_cons.2 ⟨notMem coherent (.cons extends_parent proper chain), ih⟩

theorem exists_extends (chain : schema.Chain key ancestors) (h : other ∈ ancestors) :
    other ≠ .object ∧ ∃ child, schema.Extends child other := by
  induction chain with
  | last => cases h
  | cons extends_parent proper _ ih =>
      rcases List.mem_cons.1 h with rfl | h
      · exact ⟨proper, _, extends_parent⟩
      · exact ih h

theorem length_lt (coherent : schema.Coherent) (chain : schema.Chain key ancestors)
    {node : TypeNode} (hnode : schema.node? key = some node) : ancestors.length < schema.size := by
  refine length_le_size (chain.nodup coherent) fun other hother => ?_
  rcases List.mem_cons.1 hother with rfl | hother
  · exact ⟨node, hnode⟩
  · obtain ⟨-, child, hchild⟩ := chain.exists_extends hother
    exact coherent.exists_node_of_extends hchild

theorem superclassChain_eq (coherent : schema.Coherent) (chain : schema.Chain key ancestors)
    (steps : Nat) (visited : List TypeKey) (hsteps : ancestors.length ≤ steps)
    (hvisited : ∀ other ∈ ancestors, other ∉ visited) :
    schema.superclassChain visited steps (schema.superclassOf? key) = ancestors := by
  induction chain generalizing steps visited with
  | @last key hlast =>
      cases hparent : schema.superclassOf? key with
      | none => cases steps <;> rfl
      | some parent =>
          have hobject := hlast parent hparent
          cases steps with
          | zero => rfl
          | succ steps => simp [superclassChain, hobject]
  | @cons key parent ancestors extends_parent proper chain ih =>
      rw [show schema.superclassOf? key = some parent from extends_parent]
      rw [List.length_cons] at hsteps
      obtain ⟨steps, rfl⟩ : ∃ less, steps = less + 1 := ⟨steps - 1, by omega⟩
      have hkind := coherent.kind_of_superclassOf? extends_parent
      rw [superclassChain, if_neg, ih steps _ (by omega)]
      · intro other hother
        rw [List.mem_cons, not_or]
        exact ⟨fun heq => chain.notMem coherent (heq ▸ hother),
          hvisited other (List.mem_cons_of_mem _ hother)⟩
      · simp [proper, hkind, hvisited parent List.mem_cons_self]

end Chain

theorem Coherent.chain_ancestors (coherent : schema.Coherent) (key : TypeKey) :
    schema.Chain key (schema.ancestors key) := by
  obtain ⟨ancestors, chain⟩ := coherent.exists_chain key
  have hlength : ancestors.length ≤ schema.size := by
    cases chain with
    | last => exact Nat.zero_le _
    | cons extends_parent proper chain =>
        obtain ⟨node, hnode⟩ := coherent.exists_node_of_extends extends_parent
        exact chain.length_lt coherent hnode
  have heq := chain.superclassChain_eq coherent schema.size [] hlength fun _ _ => List.not_mem_nil
  rw [Schema.ancestors, heq]
  exact chain

/-- A type has fewer ancestors than the schema has types, even a type of another schema. -/
theorem Coherent.length_ancestors_lt (coherent : schema.Coherent) (key : TypeKey) :
    (schema.ancestors key).length < schema.size := by
  have chain := coherent.chain_ancestors key
  cases hnode : schema.node? key with
  | some node => exact chain.length_lt coherent hnode
  | none =>
      obtain ⟨object, hobject⟩ := exists_node_of_kind? coherent.object_kind
      have hsize := (List.getElem?_eq_some_iff.1 hobject).1
      generalize hancestors : schema.ancestors key = ancestors at chain
      cases chain with
      | last => exact Nat.lt_of_le_of_lt (Nat.zero_le _) hsize
      | cons extends_parent =>
          rw [Extends, superclassOf?, hnode] at extends_parent
          cases extends_parent

theorem Chain.mem_of_extends {ancestors : List TypeKey} (chain : schema.Chain key ancestors)
    {parent : TypeKey} (h : other ∈ key :: ancestors) (hextends : schema.Extends other parent)
    (hproper : parent ≠ .object) : parent ∈ ancestors := by
  induction chain with
  | last hlast =>
      rw [List.mem_singleton.1 h] at hextends
      exact absurd (hlast parent hextends) hproper
  | @cons key next ancestors extends_next proper chain ih =>
      rcases List.mem_cons.1 h with rfl | h
      · rw [Extends, extends_next] at hextends
        cases hextends
        exact List.mem_cons_self
      · exact List.mem_cons_of_mem _ (ih h)

/-- A type implements an interface: it names it, or a superclass implements it, or it implements an
interface that names it. -/
inductive Implements (schema : Schema) : TypeKey → TypeKey → Prop where
  | direct {key interface : TypeKey} (h : interface ∈ schema.interfacesOf key) :
      Implements schema key interface
  | inherited {key parent interface : TypeKey} (extends_parent : schema.Extends key parent)
      (h : Implements schema parent interface) : Implements schema key interface
  | extended {key interface further : TypeKey} (h : Implements schema key interface)
      (names : further ∈ schema.interfacesOf interface) : Implements schema key further

theorem Coherent.not_implements_object (coherent : schema.Coherent) :
    ¬schema.Implements .object other := by
  intro h
  generalize hobject : TypeKey.object = key at h
  induction h with
  | direct h =>
      rw [← hobject, coherent.object_interfaces] at h
      cases h
  | inherited extends_parent =>
      rw [← hobject, Extends, coherent.object_superclass] at extends_parent
      cases extends_parent
  | extended _ _ ih => exact ih hobject

theorem Implements.of_transGen {ancestor : TypeKey}
    (h : Relation.TransGen schema.Extends key ancestor)
    (himplements : schema.Implements ancestor other) : schema.Implements key other := by
  induction h using Relation.TransGen.head_induction_on with
  | single h => exact .inherited h himplements
  | head h _ ih => exact .inherited h ih

/-! ### References to superclasses -/

theorem extends_of_declared {args : List GenericType}
    (h : schema.declaredSuperclass? key = some (.applied other args)) :
    schema.Extends key other := by
  obtain ⟨node, hnode, hsuperclass⟩ := Option.bind_eq_some_iff.1 h
  unfold Extends superclassOf?
  rw [hnode, Option.bind_some, TypeBody.superclassKey?, hsuperclass]
  rfl

theorem Coherent.exists_declared (coherent : schema.Coherent) (h : schema.Extends key other) :
    ∃ args, schema.declaredSuperclass? key = some (.applied other args) := by
  obtain ⟨node, hnode, hparent⟩ := Option.bind_eq_some_iff.1 h
  obtain ⟨declared, hdeclared, hbase⟩ := Option.bind_eq_some_iff.1 hparent
  obtain ⟨base, args, rfl, -⟩ := coherent.superclass_kind hnode hdeclared
  cases hbase
  exact ⟨args, by rw [declaredSuperclass?, hnode, Option.bind_some, hdeclared]⟩

theorem directBindings_top (steps : Nat)
    (h : ∀ parent, schema.Extends key parent → parent = .object) :
    schema.directBindings steps key = [] := by
  cases steps with
  | zero => rfl
  | succ steps =>
      rw [directBindings]
      split
      · next base args hdeclared => rw [if_pos (h base (extends_of_declared hdeclared))]
      · rfl

theorem directBindings_up {args : List GenericType} (steps : Nat)
    (h : schema.declaredSuperclass? key = some (.applied other args)) (proper : other ≠ .object) :
    schema.directBindings (steps + 1) key =
      schema.directBindings steps other ++ [(other, schema.bindArgs other args)] := by
  rw [directBindings, h]
  exact if_neg proper

/-! ### Collecting interfaces -/

/-- How often the types that are not found yet name interfaces. -/
def unfound (schema : Schema) (found : List TypeKey) : Nat :=
  (schema.nodes.map fun node => if node.key ∈ found then 0 else node.interfaceKeys.length).sum

theorem unfound_nil : schema.unfound [] = schema.implementsCount := by
  simp [unfound, implementsCount, List.length_flatMap]

theorem unfound_append_le (coherent : schema.Coherent) {found : List TypeKey} (h : key ∉ found) :
    schema.unfound (found ++ [key]) + (schema.interfacesOf key).length ≤ schema.unfound found := by
  have hle (nodes : List TypeNode) :
      (nodes.map fun node => if node.key ∈ found ++ [key] then 0 else
        node.interfaceKeys.length).sum ≤
      (nodes.map fun node => if node.key ∈ found then 0 else node.interfaceKeys.length).sum := by
    induction nodes with
    | nil => exact Nat.le_refl _
    | cons node nodes ih =>
        have hnode : (if node.key ∈ found ++ [key] then 0 else node.interfaceKeys.length) ≤
            if node.key ∈ found then 0 else node.interfaceKeys.length := by
          by_cases hfound : node.key ∈ found
          · simp [hfound]
          · by_cases hkey : node.key = key <;> simp [hfound, hkey]
        rw [List.map_cons, List.map_cons, List.sum_cons, List.sum_cons]
        exact Nat.add_le_add hnode ih
  unfold unfound interfacesOf
  cases hnode : schema.node? key with
  | none => exact hle schema.nodes
  | some node =>
      obtain ⟨before, after, hnodes⟩ := List.append_of_mem (List.mem_of_getElem? hnode)
      have hbefore := hle before
      have hafter := hle after
      have hkey := coherent.key_eq hnode
      simp only [hnodes, List.map_append, List.map_cons, List.sum_append, List.sum_cons, hkey, h,
        Option.map_some, Option.getD_some, List.mem_append, List.mem_singleton, or_true, if_true,
        if_false] at *
      omega

theorem mem_collectInterfaces_of {good : TypeKey → Prop}
    (closed : ∀ interface, good interface → ∀ further ∈ schema.interfacesOf interface, good further)
    (steps : Nat) {found pending : List TypeKey} (hfound : ∀ interface ∈ found, good interface)
    (hpending : ∀ interface ∈ pending, good interface) :
    ∀ interface ∈ schema.collectInterfaces steps found pending, good interface := by
  induction steps generalizing found pending with
  | zero => exact hfound
  | succ steps ih =>
      cases pending with
      | nil => exact hfound
      | cons interface pending =>
          rw [List.forall_mem_cons] at hpending
          rw [collectInterfaces]
          by_cases hmem : interface ∈ found
          · rw [if_pos hmem]
            exact ih hfound hpending.2
          · rw [if_neg hmem]
            refine ih (List.forall_mem_append.2 ⟨hfound, ?_⟩)
              (List.forall_mem_append.2 ⟨closed interface hpending.1, hpending.2⟩)
            simpa using hpending.1

/-- In enough steps, everything is collected that pending interfaces lead to. -/
theorem collectInterfaces_closed (coherent : schema.Coherent) (steps : Nat)
    {found pending : List TypeKey} (hsteps : pending.length + schema.unfound found ≤ steps)
    (hclosed : ∀ interface ∈ found, schema.interfacesOf interface ⊆ found ++ pending) :
    found ++ pending ⊆ schema.collectInterfaces steps found pending ∧
      ∀ interface ∈ schema.collectInterfaces steps found pending,
        schema.interfacesOf interface ⊆ schema.collectInterfaces steps found pending := by
  induction steps generalizing found pending with
  | zero =>
      obtain rfl : pending = [] := List.eq_nil_of_length_eq_zero (by omega)
      rw [List.append_nil] at *
      exact ⟨List.Subset.refl _, hclosed⟩
  | succ steps ih =>
      cases pending with
      | nil =>
          rw [List.append_nil] at *
          exact ⟨List.Subset.refl _, hclosed⟩
      | cons interface pending =>
          rw [List.length_cons] at hsteps
          rw [collectInterfaces]
          by_cases hmem : interface ∈ found
          · rw [if_pos hmem]
            have hsubset : found ++ interface :: pending ⊆ found ++ pending := by
              intro other hother
              rcases List.mem_append.1 hother with hother | hother
              · exact List.mem_append_left _ hother
              · rcases List.mem_cons.1 hother with rfl | hother
                · exact List.mem_append_left _ hmem
                · exact List.mem_append_right _ hother
            obtain ⟨hall, hresult⟩ := @ih found pending (by omega) fun other hother =>
              List.Subset.trans (hclosed other hother) hsubset
            exact ⟨List.Subset.trans hsubset hall, hresult⟩
          · rw [if_neg hmem]
            have hunfound := unfound_append_le coherent hmem
            have hsubset : found ++ interface :: pending ⊆
                found ++ [interface] ++ (schema.interfacesOf interface ++ pending) := by
              intro other hother
              simp only [List.mem_append, List.mem_cons, List.not_mem_nil, or_false] at hother ⊢
              grind
            obtain ⟨hall, hresult⟩ :=
              @ih (found ++ [interface]) (schema.interfacesOf interface ++ pending) (by
                rw [List.length_append]
                omega) fun other hother => by
                  rcases List.mem_append.1 hother with hother | hother
                  · exact List.Subset.trans (hclosed other hother) hsubset
                  · rw [List.mem_singleton.1 hother]
                    exact List.Subset.trans (List.subset_append_left _ _)
                      (List.subset_append_right _ _)
            exact ⟨List.Subset.trans hsubset hall, hresult⟩

theorem mem_allInterfaces_iff (coherent : schema.Coherent) :
    other ∈ schema.allInterfaces key ↔ schema.Implements key other := by
  have chain := coherent.chain_ancestors key
  constructor
  · refine mem_collectInterfaces_of (fun _ himplements _ hnames => .extended himplements hnames) _
      (by simp) (fun interface hinterface => ?_) other
    obtain ⟨owner, howner, hnames⟩ := List.mem_flatMap.1 hinterface
    rcases List.mem_cons.1 howner with rfl | howner
    · exact .direct hnames
    · exact .of_transGen (chain.transGen howner) (.direct hnames)
  · obtain ⟨hall, hclosed⟩ := collectInterfaces_closed coherent _
      (Nat.add_le_add_left (Nat.le_of_eq unfound_nil)
        ((key :: schema.ancestors key).flatMap schema.interfacesOf).length) (by simp)
    -- What an ancestor implements is found, and the root implements nothing.
    have hfound {owner : TypeKey} (h : schema.Implements owner other)
        (howner : owner ∈ key :: schema.ancestors key) : other ∈ schema.allInterfaces key := by
      induction h with
      | direct hnames => exact hall (List.mem_flatMap.2 ⟨_, howner, hnames⟩)
      | @inherited owner parent interface extends_parent himplements ih =>
          by_cases hobject : parent = .object
          · exact absurd (hobject ▸ himplements) coherent.not_implements_object
          · exact ih (List.mem_cons_of_mem _ (chain.mem_of_extends howner extends_parent hobject))
      | extended _ hnames ih => exact hclosed _ (ih howner) hnames
    exact fun h => hfound h List.mem_cons_self

end ObjectDocument.Schema
