import ObjectDocument.Proofs.Schema.Identity

/-!
# Walks through a schema

The walks of lineages and rules are computed in a number of steps.  Here each of them is told
without: as a relation that holds between where a walk starts and what it finds exactly if the walk
comes to an end.  In a coherent schema all of them do, from every type, and find what is computed
(`Schema.Coherent.walksEnd`).

Different facts make them end.  Superclasses run out, because the schema was checked for circles; an
interface is visited once, however the interfaces extend each other; a variable is followed through
each nearer type once.
-/

namespace ObjectDocument

namespace Schema

/-- From superclass to superclass, up to the root or a type that was visited. -/
inductive Ascends (schema : Schema) : List TypeKey → Option TypeKey → List TypeKey → Prop where
  | top {visited} : Ascends schema visited none []
  | stop {visited key}
      (h : key = .object ∨ schema.kind? key = some .enumType ∨ key ∈ visited) :
      Ascends schema visited (some key) []
  | up {visited key above}
      (h : ¬(key = .object ∨ schema.kind? key = some .enumType ∨ key ∈ visited))
      (rest : Ascends schema (key :: visited) (schema.superclassOf? key) above) :
      Ascends schema visited (some key) (key :: above)

/-- Through some interfaces in turn, each with those that it extends unless it was found before. -/
inductive Visits (schema : Schema) : List TypeKey → List TypeKey → List TypeKey → Prop where
  | nil {found} : Visits schema found [] found
  | known {found key rest result} (h : key ∈ found) (others : Visits schema found rest result) :
      Visits schema found (key :: rest) result
  | new {found key rest inner result} (h : key ∉ found)
      (extended : Visits schema (found ++ [key]) (schema.interfacesOf key) inner)
      (others : Visits schema inner rest result) : Visits schema found (key :: rest) result

inductive Binds (schema : Schema) : TypeKey → Parameterization → Prop where
  | top {key} (h : ∀ base args, schema.declaredSuperclass? key = some (.applied base args) →
      base = .object) : Binds schema key []
  | up {key base args above} (h : schema.declaredSuperclass? key = some (.applied base args))
      (proper : base ≠ .object) (rest : Binds schema base above) :
      Binds schema key (above ++ [(base, schema.bindArgs base args)])

inductive Searches (schema : Schema) : Option TypeKey → Bool → Prop where
  | top : Searches schema none false
  | missing {key} (h : schema.node? key = none) : Searches schema (some key) false
  | found {key node} (h : schema.node? key = some node) (declares : Rule.declaresId node) :
      Searches schema (some key) true
  | up {key node result} (h : schema.node? key = some node) (declares : ¬Rule.declaresId node)
      (rest : Searches schema (node.superclassKey?.filter (· ≠ .object)) result) :
      Searches schema (some key) result

end Schema

/-- From variable to variable, through the bindings of each nearer type. -/
inductive GenericType.Follows : List Bindings → GenericType → GenericType → Prop where
  | settled {frames declared} (h : declared.isVariable = false) : Follows frames declared declared
  | last {name} : Follows [] (.var name) (.var name)
  | free {bindings nearer name} (h : bindings.get? name = none) :
      Follows (bindings :: nearer) (.var name) (.var name)
  | bound {bindings nearer name binding result} (h : bindings.get? name = some binding)
      (rest : Follows nearer binding result) : Follows (bindings :: nearer) (.var name) result

inductive Parameterization.Propagates : Parameterization → Parameterization → Prop where
  | nil : Propagates [] []
  | cons {key bindings followed nearer rest}
      (h : List.Forall₂ (fun entry target => target.1 = entry.1 ∧
        entry.2.Follows (nearer.map (·.2)) target.2) bindings followed)
      (others : Propagates nearer rest) :
      Propagates ((key, bindings) :: nearer) ((key, followed) :: rest)

/-- Every walk through a schema comes to an end, and finds what is computed. -/
structure Schema.WalksEnd (schema : Schema) : Prop where
  superclasses : ∀ key, schema.Ascends [] (schema.superclassOf? key) (schema.ancestors key)
  interfaces : ∀ keys,
    schema.Visits [] (keys.flatMap schema.interfacesOf) (schema.interfaceClosure keys)
  bindings : ∀ key, schema.Binds key (schema.directBindings schema.size key)
  propagation : ∀ key, (schema.directBindings schema.size key).Propagates
    (schema.directBindings schema.size key).propagate
  identity : ∀ key, schema.Searches (some key) (Rule.inheritsId schema schema.size key)

namespace GenericType

theorem follows_chase (frames : List Bindings) (declared : GenericType) :
    declared.Follows frames (declared.chase frames) := by
  induction frames generalizing declared with
  | nil =>
      rw [chase.eq_2 _ _ (by simp)]
      cases declared with
      | var name => exact .last
      | applied | array => exact .settled rfl
  | cons bindings nearer ih =>
      cases declared with
      | applied | array => exact .settled rfl
      | var name =>
          rw [chase]
          cases hbinding : bindings.get? name with
          | none => exact .free hbinding
          | some binding => exact .bound hbinding (ih binding)

end GenericType

theorem Parameterization.propagates_propagate (parameterization : Parameterization) :
    parameterization.Propagates parameterization.propagate := by
  induction parameterization with
  | nil => exact .nil
  | cons frame nearer ih =>
      refine .cons ?_ ih
      rw [List.forall₂_map_right_iff]
      exact List.forall₂_same.2 fun entry _ => ⟨rfl, GenericType.follows_chase _ _⟩

namespace Schema

variable {schema : Schema} {key other : TypeKey}

namespace Chain

variable {ancestors : List TypeKey}

theorem ascends (coherent : schema.Coherent) (chain : schema.Chain key ancestors)
    (visited : List TypeKey) (hvisited : ∀ other ∈ ancestors, other ∉ visited) :
    schema.Ascends visited (schema.superclassOf? key) ancestors := by
  induction chain generalizing visited with
  | @last key hlast =>
      cases hparent : schema.superclassOf? key with
      | none => exact .top
      | some parent => exact .stop (.inl (hlast parent hparent))
  | @cons key parent ancestors extends_parent proper chain ih =>
      rw [show schema.superclassOf? key = some parent from extends_parent]
      have hkind := coherent.kind_of_superclassOf? extends_parent
      refine .up (by simp [proper, hkind, hvisited parent List.mem_cons_self]) (ih _ ?_)
      intro other hother
      rw [List.mem_cons, not_or]
      exact ⟨fun heq => chain.notMem coherent (heq ▸ hother),
        hvisited other (List.mem_cons_of_mem _ hother)⟩

theorem binds (coherent : schema.Coherent) (chain : schema.Chain key ancestors) (steps : Nat)
    (hsteps : ancestors.length ≤ steps) : schema.Binds key (schema.directBindings steps key) := by
  induction chain generalizing steps with
  | @last key hlast =>
      rw [directBindings_top steps hlast]
      exact .top fun base args h => hlast base (extends_of_declared h)
  | @cons key parent ancestors extends_parent proper chain ih =>
      rw [List.length_cons] at hsteps
      obtain ⟨steps, rfl⟩ : ∃ less, steps = less + 1 := ⟨steps - 1, by omega⟩
      obtain ⟨args, hdeclared⟩ := coherent.exists_declared extends_parent
      rw [directBindings_up steps hdeclared proper]
      exact .up hdeclared proper (ih steps (by omega))

theorem searches (chain : schema.Chain key ancestors) (steps : Nat)
    (hsteps : ancestors.length < steps) :
    schema.Searches (some key) (Rule.inheritsId schema steps key) := by
  induction chain generalizing steps with
  | @last key hlast =>
      obtain ⟨steps, rfl⟩ : ∃ less, steps = less + 1 := ⟨steps - 1, by omega⟩
      rw [Rule.inheritsId]
      cases hnode : schema.node? key with
      | none => exact .missing hnode
      | some node =>
          have hparent : node.superclassKey?.filter (· ≠ .object) = none := by
            refine Option.eq_none_iff_forall_ne_some.2 fun parent hparent => ?_
            obtain ⟨hextends, proper⟩ := (filter_superclassKey?_eq_some_iff hnode).1 hparent
            exact proper (hlast parent hextends)
          simp only [hparent, Bool.or_false]
          by_cases hdeclares : Rule.declaresId node
          · rw [hdeclares]
            exact .found hnode hdeclares
          · rw [eq_false_of_ne_true hdeclares]
            exact .up hnode hdeclares (hparent ▸ .top)
  | @cons key parent ancestors extends_parent proper chain ih =>
      rw [List.length_cons] at hsteps
      obtain ⟨steps, rfl⟩ : ∃ less, steps = less + 1 := ⟨steps - 1, by omega⟩
      obtain ⟨node, hnode, -⟩ := Option.bind_eq_some_iff.1 extends_parent
      have hproper := (filter_superclassKey?_eq_some_iff hnode).2 ⟨extends_parent, proper⟩
      rw [Rule.inheritsId, hnode]
      simp only [hproper]
      by_cases hdeclares : Rule.declaresId node
      · rw [hdeclares, Bool.true_or]
        exact .found hnode hdeclares
      · rw [eq_false_of_ne_true hdeclares, Bool.false_or]
        exact .up hnode hdeclares (hproper ▸ ih steps (by omega))

end Chain

/-! ### Visiting interfaces -/

theorem Visits.exists_between {found first second result : List TypeKey}
    (h : schema.Visits found (first ++ second) result) :
    ∃ between, schema.Visits found first between ∧ schema.Visits between second result := by
  induction first generalizing found with
  | nil => exact ⟨found, .nil, h⟩
  | cons key first ih =>
      cases h with
      | known hkey others =>
          obtain ⟨between, hfirst, hsecond⟩ := ih others
          exact ⟨between, .known hkey hfirst, hsecond⟩
      | new hkey extended others =>
          obtain ⟨between, hfirst, hsecond⟩ := ih others
          exact ⟨between, .new hkey extended hfirst, hsecond⟩

/-- Interfaces that are not found yet grow fewer, so collecting them comes to an end. -/
theorem Coherent.visits_collectInterfaces (coherent : schema.Coherent) (steps : Nat)
    {found pending : List TypeKey} (hsteps : pending.length + schema.unfound found ≤ steps) :
    schema.Visits found pending (schema.collectInterfaces steps found pending) := by
  induction steps generalizing found pending with
  | zero =>
      obtain rfl : pending = [] := List.eq_nil_of_length_eq_zero (by omega)
      exact .nil
  | succ steps ih =>
      cases pending with
      | nil => exact .nil
      | cons interface pending =>
          rw [List.length_cons] at hsteps
          rw [collectInterfaces]
          by_cases hmem : interface ∈ found
          · rw [if_pos hmem]
            exact .known hmem (ih (by omega))
          · rw [if_neg hmem]
            have hunfound := unfound_append_le coherent hmem
            have hvisits := @ih (found ++ [interface])
              (schema.interfacesOf interface ++ pending) (by
              rw [List.length_append]
              omega)
            obtain ⟨inner, hextended, hothers⟩ := hvisits.exists_between
            exact .new hmem hextended hothers

/-- In a coherent schema every walk comes to an end, from every type. -/
theorem Coherent.walksEnd (coherent : schema.Coherent) : schema.WalksEnd where
  superclasses := fun key =>
    (coherent.chain_ancestors key).ascends coherent [] fun _ _ => List.not_mem_nil
  interfaces := fun keys => coherent.visits_collectInterfaces _
    (Nat.add_le_add_left (Nat.le_of_eq unfound_nil) (keys.flatMap schema.interfacesOf).length)
  bindings := fun key =>
    (coherent.chain_ancestors key).binds coherent _
      (Nat.le_of_lt (coherent.length_ancestors_lt key))
  propagation := fun _ => Parameterization.propagates_propagate _
  identity := fun key =>
    (coherent.chain_ancestors key).searches _ (coherent.length_ancestors_lt key)

end Schema

end ObjectDocument
