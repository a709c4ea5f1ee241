import ObjectDocument.Proofs.OrderedMap
import ObjectDocument.Proofs.Renaming.Schema

/-!
# Lineages under renamed type parameters

The arguments that a type passes to its superclass are in the names of that type, and the bindings
of an ancestor may be in the names of any type between.  Renaming the parameters of a type therefore
renames the keys of its own bindings, and what is bound to the parameters of others where it is in
its names.  A variable of an ancestor still stands for the same, in names of one type or another
(`corresponds_ofNode`).

The descriptor of a binding with arguments erases the variables in them, and it looks for their
bounds among the parameters of the declaring type, of which they are none.  So the descriptor stays
exactly if these variables erase there to the same types (`memberType_eq_iff`).
-/

namespace ObjectDocument

namespace GenericType

variable {names : String → String}

mutual
def variableNames : GenericType → List String
  | .applied _ args => variableNamesIn args
  | .var name => [name]
  | .array _ _ => []

def variableNamesIn : List GenericType → List String
  | [] => []
  | declared :: rest => variableNames declared ++ variableNamesIn rest
end

mutual
theorem variableNames_rename : (declared : GenericType) →
    (declared.rename names).variableNames = declared.variableNames.map names
  | .applied _ args => by rw [rename, variableNames, variableNames, variableNamesIn_rename args]
  | .var name => rfl
  | .array _ _ => rfl

theorem variableNamesIn_rename : (declared : List GenericType) →
    variableNamesIn (renameList names declared) = (variableNamesIn declared).map names
  | [] => rfl
  | first :: rest => by
      rw [renameList, variableNamesIn, variableNamesIn, variableNames_rename first,
        variableNamesIn_rename rest, List.map_append]
end

end GenericType

namespace TypeDescriptor

variable {schema : Schema} {renames : Renaming} {names : String → String}

@[simp] theorem build_rename (base : TypeKey) (params : List TypeDescriptor) :
    build (schema.rename renames) base params = build schema base params := by
  simp [build]

@[simp] theorem withBase_rename (descriptor : TypeDescriptor) (base : TypeKey) :
    descriptor.withBase (schema.rename renames) base = descriptor.withBase schema base := by
  simp [withBase]

/-- What a type variable is described by: the type that it erases to, or its scalar. -/
def erasedVariable (schema : Schema) (owner : TypeKey) (name : String) : TypeKey :=
  schema.boxed (schema.erasure owner (.var name))

theorem erasedVariable_of_unbounded {owner : TypeKey}
    (h : ∀ param ∈ schema.paramsOf owner, param.bound = none) (name : String) :
    erasedVariable schema owner name = schema.boxed .object := by
  have hbound : ((schema.paramsOf owner).find? (·.name = name)).bind (·.bound) = none := by
    cases hparam : (schema.paramsOf owner).find? (·.name = name) with
    | none => rfl
    | some param => exact h param (List.mem_of_find?_eq_some hparam)
  simp [erasedVariable, Schema.erasure, Schema.eraseIn, hbound]

mutual
/-- A descriptor stays exactly if every variable is described by the same type. -/
theorem describe_rename_eq_iff (owner : TypeKey) : (declared : GenericType) →
    (describe (schema.rename renames) owner (declared.rename names) =
        describe schema owner declared ↔
      ∀ name ∈ declared.variableNames, erasedVariable (schema.rename renames) owner (names name) =
        erasedVariable schema owner name)
  | .applied base args => by
      rw [GenericType.rename, describe, describe, build_rename, GenericType.variableNames,
        ← describeList_rename_eq_iff owner args]
      simp [build]
  | .var name => by
      simp [GenericType.rename, describe, GenericType.variableNames, build, erasedVariable]
  | .array component erased => by
      simp [GenericType.rename, describe, GenericType.variableNames, Schema.erasure, Schema.eraseIn]

theorem describeList_rename_eq_iff (owner : TypeKey) : (declared : List GenericType) →
    (describeList (schema.rename renames) owner (GenericType.renameList names declared) =
        describeList schema owner declared ↔
      ∀ name ∈ GenericType.variableNamesIn declared,
        erasedVariable (schema.rename renames) owner (names name) =
          erasedVariable schema owner name)
  | [] => by simp [GenericType.renameList, describeList, GenericType.variableNamesIn]
  | first :: rest => by
      rw [GenericType.renameList, describeList, describeList, List.cons.injEq,
        describe_rename_eq_iff owner first, describeList_rename_eq_iff owner rest,
        GenericType.variableNamesIn, List.forall_mem_append]
end

theorem describe_rename (owner : TypeKey) (declared : GenericType) :
    describe (schema.rename renames) owner (declared.rename (renames.within owner)) =
      describe schema owner declared := by
  refine (describe_rename_eq_iff owner declared).2 fun name _ => ?_
  have herasure : (schema.rename renames).erasure owner (.var (renames.within owner name)) =
      schema.erasure owner (.var name) := Schema.erasure_rename owner (.var name)
  rw [erasedVariable, erasedVariable, Schema.boxed_rename, herasure]

end TypeDescriptor

/-! ### Bindings -/

namespace Parameterization

variable {renames : Renaming}

/-- The type in whose names the bindings before those of some nearer types are: the next type, and
after all of them `owner`. -/
def nextOwner (owner : TypeKey) : Parameterization → TypeKey
  | [] => owner
  | (key, _) :: _ => key

def rename (renames : Renaming) (owner : TypeKey) : Parameterization → Parameterization
  | [] => []
  | (key, bindings) :: nearer =>
    (key, bindings.map (Prod.map (renames.within key)
        (GenericType.rename (renames.within (nextOwner owner nearer))))) ::
      rename renames owner nearer

theorem rename_concat (owner base : TypeKey) (bindings : Bindings) (farther : Parameterization) :
    rename renames owner (farther ++ [(base, bindings)]) = rename renames base farther ++
      [(base, bindings.map (Prod.map (renames.within base)
        (GenericType.rename (renames.within owner))))] := by
  induction farther with
  | nil => rfl
  | cons entry farther ih =>
      have hnext : nextOwner owner (farther ++ [(base, bindings)]) = nextOwner base farther := by
        cases farther <;> rfl
      rw [List.cons_append, rename, ih, hnext, rename, List.cons_append]

/-- What a declared type stands for stays, in the names of one type or another. -/
theorem exists_chase_rename (owner : TypeKey) (nearer : Parameterization)
    (declared : GenericType) :
    ∃ names : String → String,
      (declared.rename (renames.within (nextOwner owner nearer))).chase
          ((rename renames owner nearer).map (·.2)) =
        (declared.chase (nearer.map (·.2))).rename names := by
  induction nearer generalizing declared with
  | nil =>
      refine ⟨renames.within owner, ?_⟩
      cases declared <;> rfl
  | cons entry nearer ih =>
      obtain ⟨key, bindings⟩ := entry
      cases declared with
      | applied base args => exact ⟨renames.within key, rfl⟩
      | array component erased => exact ⟨renames.within key, rfl⟩
      | var name =>
          simp only [rename, nextOwner, GenericType.rename, List.map_cons, GenericType.chase,
            OrderedMap.get?_map (renames.injective_within key)]
          cases OrderedMap.get? name bindings with
          | none => exact ⟨renames.within key, rfl⟩
          | some binding => exact ih binding

theorem propagate_cons (key : TypeKey) (bindings : Bindings) (nearer : Parameterization) :
    propagate ((key, bindings) :: nearer) =
      (key, bindings.map (Prod.map id (GenericType.chase (nearer.map (·.2))))) ::
        propagate nearer :=
  rfl

theorem exists_get?_propagate_rename (owner declaring : TypeKey) (name : String)
    (parameterization : Parameterization) :
    ∃ names : String → String,
      ((rename renames owner parameterization).propagate.lookup declaring).bind
          (OrderedMap.get? (renames.within declaring name)) =
        ((parameterization.propagate.lookup declaring).bind (OrderedMap.get? name)).map
          (GenericType.rename names) := by
  induction parameterization with
  | nil => exact ⟨id, rfl⟩
  | cons entry nearer ih =>
      obtain ⟨key, bindings⟩ := entry
      rw [rename, propagate_cons, propagate_cons, List.lookup_cons, List.lookup_cons]
      by_cases h : declaring = key
      · subst h
        have hchase (nearer : List Bindings) (bindings : Bindings) (name : String) :
            OrderedMap.get? name (bindings.map (Prod.map id (GenericType.chase nearer))) =
              (OrderedMap.get? name bindings).map (GenericType.chase nearer) :=
          OrderedMap.get?_map Function.injective_id _ name bindings
        simp only [beq_self_eq_true, Option.bind_some, hchase,
          OrderedMap.get?_map (renames.injective_within declaring)]
        cases OrderedMap.get? name bindings with
        | none => exact ⟨id, rfl⟩
        | some binding =>
            obtain ⟨names, hnames⟩ := exists_chase_rename owner nearer binding
            exact ⟨names, congrArg some hnames⟩
      · simpa [beq_false_of_ne h] using ih

end Parameterization

namespace Schema

variable {schema : Schema} {renames : Renaming}

theorem bindArgs_rename (base : TypeKey) (names : String → String) (args : List GenericType) :
    (schema.rename renames).bindArgs base (args.map (GenericType.rename names)) =
      (schema.bindArgs base args).map
        (Prod.map (renames.within base) (GenericType.rename names)) := by
  rw [bindArgs, bindArgs, ← OrderedMap.ofEntries_map (renames.injective_within base),
    paramsOf_rename, List.map_map, ← List.zip_map, List.map_map]
  rfl

theorem directBindings_rename (steps : Nat) (key : TypeKey) :
    (schema.rename renames).directBindings steps key =
      (schema.directBindings steps key).rename renames key := by
  induction steps generalizing key with
  | zero => rfl
  | succ steps ih =>
      rw [directBindings, directBindings, declaredSuperclass?_rename]
      cases schema.declaredSuperclass? key with
      | none => rfl
      | some declared =>
          cases declared with
          | var name => rfl
          | array component erased => rfl
          | applied base args =>
              simp only [Option.map_some, GenericType.rename]
              by_cases hobject : base = .object
              · rw [if_pos hobject, if_pos hobject]
                rfl
              · rw [if_neg hobject, if_neg hobject, ih, Parameterization.rename_concat,
                  GenericType.renameList_eq_map, bindArgs_rename]

end Schema

/-! ### Lineages -/

namespace Lineage

variable {schema : Schema} {renames : Renaming} {lineage other : Lineage}

/-- A lineage of the same types, in which the variables of the ancestors stand for the same, in the
names of one type or another. -/
structure Corresponds (renames : Renaming) (lineage other : Lineage) : Prop where
  same : other = { lineage with parameterization := other.parameterization }
  variable_eq : ∀ declaring name, ∃ names : String → String,
    other.resolveVariable? declaring (renames.within declaring name) =
      (lineage.resolveVariable? declaring name).map (GenericType.rename names)

theorem corresponds_ofNode (node : TypeNode) (names : String → String) :
    (ofNode schema node).Corresponds renames
      (ofNode (schema.rename renames) (node.rename names)) where
  same := by
    have hmetadata (keys : List TypeKey) :
        (keys.filterMap (schema.rename renames).node?).map (·.metadata) =
          (keys.filterMap schema.node?).map (·.metadata) := by
      have hnode (key : TypeKey) : ((schema.rename renames).node? key).map (·.metadata) =
          (schema.node? key).map (·.metadata) := by
        rw [Schema.node?_rename]
        cases schema.node? key <;> rfl
      simp only [List.map_filterMap, hnode]
    have hkey : (node.rename names).key = node.key := rfl
    have hown : (node.rename names).metadata = node.metadata := rfl
    simp only [ofNode, hkey, hown, Schema.ancestors_rename, Schema.interfaceClosure_rename,
      ← List.foldl_map (f := fun other : TypeNode => other.metadata) (g := Metadata.inherit),
      hmetadata]
  variable_eq := by
    intro declaring name
    have hparameterization : (ofNode (schema.rename renames) (node.rename names)).parameterization =
        ((schema.directBindings schema.size node.key).rename renames node.key).propagate := by
      have hsize : (schema.rename renames).size = schema.size := Schema.size_rename
      rw [← Schema.directBindings_rename, ← hsize]
      rfl
    rw [resolveVariable?, hparameterization]
    exact Parameterization.exists_get?_propagate_rename node.key declaring name _

/-- What the variables in the arguments of a binding are described by, if a member has the type of a
variable that stands for a binding with arguments. -/
def erasedArguments (lineage : Lineage) (schema : Schema) (declaring : TypeKey)
    (declared : GenericType) : List TypeKey :=
  match declared.variableName?.bind (lineage.resolveVariable? declaring) with
  | some (.applied _ args) =>
    (GenericType.variableNamesIn args).map (TypeDescriptor.erasedVariable schema declaring)
  | _ => []

/-- What a declared type of an ancestor is bound to stays, in the names of one type or another. -/
theorem Corresponds.exists_binding (corresponds : lineage.Corresponds renames other)
    (declaring : TypeKey) (declared : GenericType) :
    ∃ names : String → String,
      (declared.rename (renames.within declaring)).variableName?.bind
          (other.resolveVariable? declaring) =
        (declared.variableName?.bind (lineage.resolveVariable? declaring)).map
          (GenericType.rename names) := by
  rw [GenericType.variableName?_rename]
  cases declared.variableName? with
  | none => exact ⟨id, rfl⟩
  | some name => exact corresponds.variable_eq declaring name

/-- The type of a member stays exactly if the variables in the arguments of what it stands for are
described by the same types. -/
theorem memberType_eq_iff (corresponds : lineage.Corresponds renames other) (declaring : TypeKey)
    (suggested : TypeDescriptor) (declared : GenericType) :
    other.memberType (schema.rename renames) declaring suggested
          (declared.rename (renames.within declaring)) =
        lineage.memberType schema declaring suggested declared ↔
      other.erasedArguments (schema.rename renames) declaring
          (declared.rename (renames.within declaring)) =
        lineage.erasedArguments schema declaring declared := by
  obtain ⟨names, hnames⟩ := corresponds.exists_binding declaring declared
  rw [memberType, memberType, erasedArguments, erasedArguments, hnames]
  cases declared.variableName?.bind (lineage.resolveVariable? declaring) with
  | none => simp
  | some binding =>
      cases binding with
      | var bound => simp [GenericType.rename]
      | array component erased => simp [GenericType.rename]
      | applied base args =>
          cases args with
          | nil => simp [GenericType.rename, GenericType.renameList, GenericType.variableNamesIn]
          | cons arg args =>
              have hdescribe := @TypeDescriptor.describe_rename_eq_iff schema renames names
                declaring (.applied base (arg :: args))
              simp only [Option.map_some, GenericType.rename, GenericType.variableNames]
                at hdescribe ⊢
              rw [GenericType.variableNamesIn_rename, List.map_map, List.map_inj_left]
              exact hdescribe

theorem erasedArguments_eq (corresponds : lineage.Corresponds renames other) {declaring : TypeKey}
    (h : ∀ name found, TypeDescriptor.erasedVariable (schema.rename renames) declaring found =
      TypeDescriptor.erasedVariable schema declaring name) (declared : GenericType) :
    other.erasedArguments (schema.rename renames) declaring
        (declared.rename (renames.within declaring)) =
      lineage.erasedArguments schema declaring declared := by
  obtain ⟨names, hnames⟩ := corresponds.exists_binding declaring declared
  rw [erasedArguments, erasedArguments, hnames]
  cases declared.variableName?.bind (lineage.resolveVariable? declaring) with
  | none => rfl
  | some binding =>
      cases binding with
      | var bound => rfl
      | array component erased => rfl
      | applied base args =>
          simp only [Option.map_some, GenericType.rename, GenericType.variableNamesIn_rename,
            List.map_map, List.map_inj_left]
          exact fun name _ => h name (names name)

end Lineage

end ObjectDocument
