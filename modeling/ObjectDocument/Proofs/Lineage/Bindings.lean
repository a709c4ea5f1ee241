import ObjectDocument.Proofs.OrderedMap
import ObjectDocument.Proofs.Schema.Built
import ObjectDocument.Proofs.Schema.Walks

/-!
# What type variables stand for

The bindings of an ancestor are found by following each variable through the bindings of all nearer
types.  Here they are told one reference at a time: a parameter stands for the argument that its
subclass passes, and if this is a variable of the subclass, for what that variable stands for, as
far as it is bound (`Schema.StandsFor`).  The bindings that are found are these, of every ancestor
and root-most first (`Declarations.mem_parameterization_iff`).

An ancestor is reached by one reference only, because no type is its own ancestor
(`Schema.Coherent.eq_of_extends`).  So the bindings between a type and its ancestor are those of a
rise from reference to reference (`Schema.Rises`), and what is found is shown by induction on it.
-/

namespace ObjectDocument

namespace Schema

/-- The argument that a reference passes to a parameter.  Of a repeated parameter the last argument
counts, and no arguments pass nothing. -/
def Passes (schema : Schema) (base : TypeKey) (args : List GenericType) (name : String)
    (arg : GenericType) : Prop :=
  ∃ before after, ((schema.paramsOf base).map (·.name)).zip args = before ++ (name, arg) :: after ∧
    name ∉ after.map Prod.fst

/-- A type is an ancestor of `key`, through a reference of its subclass `child` with some
arguments. -/
structure Reaches (schema : Schema) (key child ancestor : TypeKey) (args : List GenericType) :
    Prop where
  below : Relation.ReflTransGen schema.Extends key child
  declared : schema.declaredSuperclass? child = some (.applied ancestor args)
  proper : ancestor ≠ .object

/-- A parameter is one of a proper ancestor of `key`, and something is passed to it. -/
def IsBound (schema : Schema) (key ancestor : TypeKey) (name : String) : Prop :=
  ∃ child args arg, schema.Reaches key child ancestor args ∧ schema.Passes ancestor args name arg

/-- What a parameter of an ancestor of `key` stands for. -/
inductive StandsFor (schema : Schema) (key : TypeKey) : TypeKey → String → GenericType → Prop where
  | given {child ancestor : TypeKey} {args : List GenericType} {name : String} {arg : GenericType}
      (reaches : schema.Reaches key child ancestor args)
      (passes : schema.Passes ancestor args name arg) (settled : arg.isVariable = false) :
      StandsFor schema key ancestor name arg
  /-- A variable of the subclass stands for what it stands for there. -/
  | bound {child ancestor : TypeKey} {args : List GenericType} {name var : String}
      {result : GenericType} (reaches : schema.Reaches key child ancestor args)
      (passes : schema.Passes ancestor args name (.var var))
      (h : StandsFor schema key child var result) : StandsFor schema key ancestor name result
  /-- A variable that nothing is passed to stands for itself. -/
  | free {child ancestor : TypeKey} {args : List GenericType} {name var : String}
      (reaches : schema.Reaches key child ancestor args)
      (passes : schema.Passes ancestor args name (.var var))
      (unbound : ¬schema.IsBound key child var) :
      StandsFor schema key ancestor name (.var var)

/-- From `key` up to an ancestor, with what each reference on the way binds, root-most first. -/
inductive Rises (schema : Schema) (key : TypeKey) : TypeKey → Parameterization → Prop where
  | foot : Rises schema key key []
  | up {child ancestor : TypeKey} {args : List GenericType} {frames : Parameterization}
      (nearer : Rises schema key child frames)
      (declared : schema.declaredSuperclass? child = some (.applied ancestor args))
      (proper : ancestor ≠ .object) :
      Rises schema key ancestor ((ancestor, schema.bindArgs ancestor args) :: frames)

variable {schema : Schema} {key child other ancestor top : TypeKey} {args : List GenericType}
  {name : String} {arg result : GenericType} {frames : Parameterization}

theorem passes_iff :
    schema.Passes ancestor args name arg ↔ (schema.bindArgs ancestor args).get? name = some arg :=
  OrderedMap.get?_ofEntries_eq_some_iff.symm

/-! ### Rising -/

namespace Rises

theorem reflTransGen (rises : schema.Rises key top frames) :
    Relation.ReflTransGen schema.Extends key top := by
  induction rises with
  | foot => exact .refl
  | up _ declared _ ih => exact ih.tail (extends_of_declared declared)

theorem from_below (rises : schema.Rises ancestor top frames)
    (declared : schema.declaredSuperclass? key = some (.applied ancestor args))
    (proper : ancestor ≠ .object) :
    schema.Rises key top (frames ++ [(ancestor, schema.bindArgs ancestor args)]) := by
  induction rises with
  | foot => exact .up .foot declared proper
  | up _ declared_up proper_up ih => exact .up ih declared_up proper_up

end Rises

namespace Binds

/-- The bindings of all references are those of a rise. -/
theorem exists_rises (binds : schema.Binds key frames) : ∃ top, schema.Rises key top frames := by
  induction binds with
  | top => exact ⟨_, .foot⟩
  | up declared proper _ ih =>
      obtain ⟨top, rises⟩ := ih
      exact ⟨top, rises.from_below declared proper⟩

/-- The bindings are those of all ancestors, root-most first. -/
theorem chain (coherent : schema.Coherent) (binds : schema.Binds key frames) :
    schema.Chain key (frames.map (·.1)).reverse := by
  induction binds with
  | top h =>
      refine .last fun parent hparent => ?_
      obtain ⟨args, hdeclared⟩ := coherent.exists_declared hparent
      exact h parent args hdeclared
  | up declared proper _ ih =>
      rw [List.map_append, List.map_singleton, List.reverse_append, List.reverse_singleton,
        List.singleton_append]
      exact .cons (extends_of_declared declared) proper ih

end Binds

/-- Of the types from `key` on, no two have one superclass. -/
theorem Coherent.eq_of_extends (coherent : schema.Coherent)
    (hchild : Relation.ReflTransGen schema.Extends key child)
    (hother : Relation.ReflTransGen schema.Extends key other)
    (h : schema.Extends child ancestor) (h' : schema.Extends other ancestor) : child = other := by
  have hunique : Relator.RightUnique schema.Extends := fun key parent parent' hparent hparent' => by
    rw [Extends, hparent] at hparent'
    exact Option.some.inj hparent'
  -- If one were above the other, it would be above the superclass of both, and so above itself.
  have hbelow {low high : TypeKey} (hup : Relation.ReflTransGen schema.Extends low high)
      (hlow : schema.Extends low ancestor) (hhigh : schema.Extends high ancestor) : low = high := by
    rcases Relation.ReflTransGen.cases_head hup with heq | ⟨next, hnext, hrest⟩
    · exact heq
    · obtain rfl := hunique hnext hlow
      exact absurd (Relation.TransGen.tail' hrest hhigh)
        (not_transGen_of_acc (coherent.acc_extends _))
  rcases Relation.ReflTransGen.total_of_right_unique hunique hchild hother with hup | hup
  · exact hbelow hup h h'
  · exact (hbelow hup h' h).symm

namespace Reaches

theorem unique (coherent : schema.Coherent) {args' : List GenericType}
    (h : schema.Reaches key child ancestor args) (h' : schema.Reaches key other ancestor args') :
    child = other ∧ args = args' := by
  obtain rfl := coherent.eq_of_extends h.below h'.below (extends_of_declared h.declared)
    (extends_of_declared h'.declared)
  have hdeclared := h.declared
  rw [h'.declared] at hdeclared
  cases hdeclared
  exact ⟨rfl, rfl⟩

theorem not_self (coherent : schema.Coherent) : ¬schema.Reaches key child key args :=
  fun h => not_transGen_of_acc (coherent.acc_extends key)
    (Relation.TransGen.tail' h.below (extends_of_declared h.declared))

end Reaches

/-! ### Following variables -/

/-- A parameter stands for what the argument that is passed to it does. -/
theorem standsFor_iff_of_reaches (coherent : schema.Coherent)
    (reaches : schema.Reaches key child ancestor args) :
    schema.StandsFor key ancestor name result ↔
      ∃ arg, schema.Passes ancestor args name arg ∧
        ((arg.isVariable = false ∧ arg = result) ∨
          ∃ var, arg = .var var ∧ (schema.StandsFor key child var result ∨
            (.var var = result ∧ ¬schema.IsBound key child var))) := by
  constructor
  · intro h
    cases h with
    | given reaches' passes settled =>
        obtain ⟨rfl, rfl⟩ := reaches.unique coherent reaches'
        exact ⟨_, passes, .inl ⟨settled, rfl⟩⟩
    | bound reaches' passes h =>
        obtain ⟨rfl, rfl⟩ := reaches.unique coherent reaches'
        exact ⟨_, passes, .inr ⟨_, rfl, .inl h⟩⟩
    | free reaches' passes unbound =>
        obtain ⟨rfl, rfl⟩ := reaches.unique coherent reaches'
        exact ⟨_, passes, .inr ⟨_, rfl, .inr ⟨rfl, unbound⟩⟩⟩
  · rintro ⟨arg, passes, ⟨settled, rfl⟩ | ⟨var, rfl, h | ⟨rfl, unbound⟩⟩⟩
    · exact .given reaches passes settled
    · exact .bound reaches passes h
    · exact .free reaches passes unbound

theorem isBound_iff_of_reaches (coherent : schema.Coherent)
    (reaches : schema.Reaches key child ancestor args) :
    schema.IsBound key ancestor name ↔
      ∃ arg, (schema.bindArgs ancestor args).get? name = some arg := by
  constructor
  · rintro ⟨other, args', arg, reaches', passes⟩
    obtain ⟨rfl, rfl⟩ := reaches.unique coherent reaches'
    exact ⟨arg, passes_iff.1 passes⟩
  · rintro ⟨arg, harg⟩
    exact ⟨child, args, arg, reaches, passes_iff.2 harg⟩

theorem Coherent.not_isBound_self (coherent : schema.Coherent) : ¬schema.IsBound key key name :=
  fun ⟨_, _, _, reaches, _⟩ => reaches.not_self coherent

theorem StandsFor.isBound (h : schema.StandsFor key ancestor name result) :
    schema.IsBound key ancestor name := by
  cases h with
  | given reaches passes | bound reaches passes | free reaches passes =>
      exact ⟨_, _, _, reaches, passes⟩

/-- Following the argument through the nearer bindings finds what a parameter stands for. -/
theorem Rises.standsFor_iff (coherent : schema.Coherent) (rises : schema.Rises key child frames)
    (reaches : schema.Reaches key child ancestor args) :
    schema.StandsFor key ancestor name result ↔
      ∃ arg, (schema.bindArgs ancestor args).get? name = some arg ∧
        arg.chase (frames.map (·.2)) = result := by
  induction rises generalizing ancestor args name result with
  | foot =>
      have hunbound (var : String) : ¬schema.IsBound key key var := coherent.not_isBound_self
      have hnothing (var : String) : ¬schema.StandsFor key key var result :=
        fun h => hunbound var h.isBound
      rw [standsFor_iff_of_reaches coherent reaches]
      refine exists_congr fun arg => and_congr passes_iff ?_
      cases arg with
      | applied | array =>
          simp [GenericType.isVariable, GenericType.variableName?, GenericType.chase]
      | var var =>
          simp [GenericType.isVariable, GenericType.variableName?, GenericType.chase, hunbound,
            hnothing]
  | @up below child args' frames rises declared proper ih =>
      have hbelow : schema.Reaches key below child args' := ⟨rises.reflTransGen, declared, proper⟩
      rw [standsFor_iff_of_reaches coherent reaches]
      refine exists_congr fun arg => and_congr passes_iff ?_
      cases arg with
      | applied | array =>
          simp [GenericType.isVariable, GenericType.variableName?, GenericType.chase]
      | var var =>
          simp only [List.map_cons, GenericType.chase, ih hbelow,
            isBound_iff_of_reaches coherent hbelow, GenericType.var.injEq, exists_eq_left']
          cases (schema.bindArgs child args').get? var with
          | none | some => simp [GenericType.isVariable, GenericType.variableName?]

/-- The bindings of an ancestor, with each variable followed, are what its parameters stand for. -/
theorem Rises.mem_propagate (coherent : schema.Coherent) (rises : schema.Rises key top frames)
    {frame : TypeKey × Bindings} (h : frame ∈ frames.propagate) :
    (frame.2.map Prod.fst).Nodup ∧
      (∀ name, name ∈ frame.2.map Prod.fst ↔ schema.IsBound key frame.1 name) ∧
      ∀ name result, (name, result) ∈ frame.2 ↔ schema.StandsFor key frame.1 name result := by
  induction rises with
  | foot => cases h
  | @up child ancestor args frames rises declared proper ih =>
      rw [Parameterization.propagate] at h
      rcases List.mem_cons.1 h with rfl | h
      · have reaches : schema.Reaches key child ancestor args :=
          ⟨rises.reflTransGen, declared, proper⟩
        have hnodup : ((schema.bindArgs ancestor args).map Prod.fst).Nodup :=
          OrderedMap.nodup_ofEntries _
        refine ⟨?_, fun name => ?_, fun name result => ?_⟩
        · rw [List.map_map]
          exact hnodup
        · rw [List.map_map]
          change name ∈ (schema.bindArgs ancestor args).map Prod.fst ↔ _
          rw [isBound_iff_of_reaches coherent reaches, OrderedMap.mem_keys_iff]
        · rw [rises.standsFor_iff coherent reaches]
          simp [OrderedMap.mem_iff_get?_eq_some hnodup]
      · exact ih h

end Schema

theorem Parameterization.keys_propagate (parameterization : Parameterization) :
    parameterization.propagate.map (·.1) = parameterization.map (·.1) := by
  induction parameterization with
  | nil => rfl
  | cons frame nearer ih => rw [propagate, List.map_cons, ih, List.map_cons]

/-- In a schema that was built of declarations, the bindings of a type are those of its ancestors
without the root, root-most first.  The names that are bound are the parameters that a reference
passes an argument to, each once, and each is bound to what it stands for. -/
theorem Declarations.mem_parameterization_iff {declarations : Declarations} {schema : Schema}
    (h : declarations.build = .ok schema) {key : TypeKey} {node : TypeNode}
    (hnode : schema.node? key = some node) :
    (∃ ancestors, schema.Chain key ancestors ∧
      (Lineage.ofNode schema node).parameterization.map (·.1) = ancestors.reverse) ∧
    ∀ frame ∈ (Lineage.ofNode schema node).parameterization,
      (frame.2.map Prod.fst).Nodup ∧
      (∀ name, name ∈ frame.2.map Prod.fst ↔ schema.IsBound key frame.1 name) ∧
      ∀ name result, (name, result) ∈ frame.2 ↔ schema.StandsFor key frame.1 name result := by
  have coherent := coherent h
  obtain rfl := coherent.key_eq hnode
  have binds := coherent.walksEnd.bindings node.key
  obtain ⟨top, rises⟩ := binds.exists_rises
  refine ⟨⟨_, binds.chain coherent, ?_⟩, fun frame hframe => rises.mem_propagate coherent hframe⟩
  rw [List.reverse_reverse]
  exact Parameterization.keys_propagate _

def Declarations.swapped : Declarations :=
  .ofList [
    { name := "Pair", params := [("A", none), ("B", none)] },
    { name := "Swapped", params := [("A", none), ("B", none)], superclass := some "Pair<B, A>" },
    { name := "Leaf", params := [("T", none)], superclass := some "Swapped<T, List<T>>" },
    { name := "Plain", superclass := some "Swapped" }]

/-- The parameters of the pair stand for what is passed to those of the other name, and for these
themselves if nothing is. -/
theorem Declarations.mem_parameterization_iff_swapped :
    swapped.schema.StandsFor ⟨27⟩ ⟨25⟩ "A" (.applied .list [.var "T"]) ∧
    swapped.schema.StandsFor ⟨27⟩ ⟨25⟩ "B" (.var "T") ∧
    swapped.schema.StandsFor ⟨28⟩ ⟨25⟩ "A" (.var "B") ∧
    ¬swapped.schema.IsBound ⟨28⟩ ⟨26⟩ "A" := by
  have hbuild : swapped.build = .ok swapped.schema := build_eq_schema (by decide +kernel)
  have hleaf : (swapped.schema.node? ⟨27⟩).any fun node =>
      (Lineage.ofNode swapped.schema node).parameterization =
        [(⟨25⟩, [("A", .applied .list [.var "T"]), ("B", .var "T")]),
          (⟨26⟩, [("A", .var "T"), ("B", .applied .list [.var "T"])])] := by
    decide +kernel
  have hplain : (swapped.schema.node? ⟨28⟩).any fun node =>
      (Lineage.ofNode swapped.schema node).parameterization =
        [(⟨25⟩, [("A", .var "B"), ("B", .var "A")]), (⟨26⟩, [])] := by
    decide +kernel
  obtain ⟨leaf, hleaf, hleafFrames⟩ := (Option.any_eq_true _ _).1 hleaf
  obtain ⟨plain, hplain, hplainFrames⟩ := (Option.any_eq_true _ _).1 hplain
  obtain ⟨-, hleafBindings⟩ := mem_parameterization_iff hbuild hleaf
  obtain ⟨-, hplainBindings⟩ := mem_parameterization_iff hbuild hplain
  rw [of_decide_eq_true hleafFrames, List.forall_mem_cons] at hleafBindings
  rw [of_decide_eq_true hplainFrames, List.forall_mem_cons, List.forall_mem_singleton]
    at hplainBindings
  obtain ⟨⟨-, -, hleafPair⟩, -⟩ := hleafBindings
  obtain ⟨⟨-, -, hplainPair⟩, -, hplainSwapped, -⟩ := hplainBindings
  exact ⟨(hleafPair _ _).1 (by simp), (hleafPair _ _).1 (by simp), (hplainPair _ _).1 (by simp),
    fun h => List.not_mem_nil ((hplainSwapped _).2 h)⟩

end ObjectDocument
