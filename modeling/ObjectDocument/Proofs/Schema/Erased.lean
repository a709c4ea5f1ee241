import ObjectDocument.Proofs.Schema.Closed

/-!
# Arrays and what their components erase to

An array carries the array type of what its component erased to when the array was looked up.  What
a component erases to is asked again of the finished schema, and there every parameter has its
bound.  Members are looked up after all bounds, so their arrays agree with the finished schema.  A
bound is looked up with the bounds before it alone: an array of a parameter whose own bound comes
later is an array of the root, and stays one.  `Declarations.arrays_erased_iff` says which arrays
agree; an array of arrays or of a named type always does, because these erase without a scope.
-/

namespace ObjectDocument

namespace GenericType

mutual
/-- The arrays in a declared type: the component of each, and its array type. -/
def arrays : GenericType → List (GenericType × TypeKey)
  | .applied _ args => arraysIn args
  | .var _ => []
  | .array component erased => (component, erased) :: arrays component

def arraysIn : List GenericType → List (GenericType × TypeKey)
  | [] => []
  | declared :: rest => arrays declared ++ arraysIn rest
end

end GenericType

def TypeParam.unbounded (param : TypeParam) : TypeParam :=
  { name := param.name }

namespace TypeBody

/-- The declared types of all members but the bounds of type parameters. -/
def memberTypes (body : TypeBody) : List GenericType :=
  body.superclass.toList ++ body.interfaces ++ body.fields.map (·.declared) ++
    body.methods.filterMap (·.declared)

theorem mem_declaredTypes_iff {body : TypeBody} {declared : GenericType} :
    declared ∈ body.declaredTypes ↔
      (∃ param ∈ body.params, param.bound = some declared) ∨ declared ∈ body.memberTypes := by
  simp only [declaredTypes, memberTypes, List.mem_append, List.mem_filterMap, or_assoc]

/-- The type parameters as the bound at a place sees them: those before it have their bounds. -/
def boundScope (body : TypeBody) (place : Nat) : List TypeParam :=
  body.params.take place ++ (body.params.drop place).map TypeParam.unbounded

end TypeBody

namespace Schema

variable {schema : Schema} {scope : List TypeParam} {types : List TypeDeclaration}

/-! ### Erasing in a part of a scope -/

theorem eraseIn_append_unbounded (params rest : List TypeParam) (declared : GenericType) :
    eraseIn (params ++ rest.map TypeParam.unbounded) declared = eraseIn params declared := by
  cases declared with
  | applied base args => rfl
  | array component erased => rfl
  | var used =>
      cases hfound : params.find? (·.name = used) with
      | some param => simp only [eraseIn, List.find?_append, hfound, Option.some_or]
      | none =>
          -- What follows has no bounds, so the parameter is the root whether it follows or not.
          have hrest : ((rest.map TypeParam.unbounded).find? (·.name = used)).bind (·.bound) =
              none := by
            refine Option.bind_eq_none_iff.2 fun param hparam => ?_
            obtain ⟨other, -, rfl⟩ := List.mem_map.1 (List.mem_of_find?_eq_some hparam)
            rfl
          simp only [eraseIn, List.find?_append, hfound, Option.none_or, hrest, Option.bind_none]

/-- Parameters that are left out of a scope make a difference to a variable alone, which is then the
root. -/
theorem eraseIn_take_eq_iff (params : List TypeParam) (place : Nat) (declared : GenericType) :
    eraseIn (params.take place) declared = eraseIn params declared ↔
      ∀ used ∈ declared.variableName?,
        used ∈ (params.take place).map (·.name) ∨ eraseIn params (.var used) = .object := by
  cases declared with
  | applied base args => simp [eraseIn, GenericType.variableName?]
  | array component erased => simp [eraseIn, GenericType.variableName?]
  | var used =>
      simp only [GenericType.variableName?, Option.mem_some_iff, forall_eq']
      cases hfound : (params.take place).find? (·.name = used) with
      | some param =>
          have hname : param.name = used := by simpa using List.find?_some hfound
          have hwhole : params.find? (·.name = used) = some param := by
            rw [← List.take_append_drop place params, List.find?_append, hfound, Option.some_or]
          have hmem : used ∈ (params.take place).map (·.name) :=
            hname ▸ List.mem_map_of_mem (List.mem_of_find?_eq_some hfound)
          exact iff_of_true (by simp only [eraseIn, hfound, hwhole]) (.inl hmem)
      | none =>
          have hnotin : used ∉ (params.take place).map (·.name) := fun hmem => by
            obtain ⟨param, hparam, hname⟩ := List.mem_map.1 hmem
            exact List.find?_eq_none.1 hfound param hparam (decide_eq_true hname)
          have hroot : eraseIn (params.take place) (.var used) = .object := by
            simp only [eraseIn, hfound, Option.bind_none]
          rw [hroot, or_iff_right hnotin, eq_comm]

/-! ### The scopes of members and bounds -/

mutual
/-- An array is that of what its component erases to in the scope that it was looked up in. -/
theorem Means.componentOf? : (expr : TypeExpr) → (found : GenericType) →
    schema.Means scope expr found → ∀ array ∈ found.arrays,
      schema.componentOf? array.2 = some (eraseIn scope array.1)
  | .named name args, .var used, _ => by
      rw [GenericType.arrays]
      exact List.forall_mem_nil _
  | .named name args, .applied base found, h => by
      rw [Means] at h
      rw [GenericType.arrays]
      exact MeansEach.componentOf? args found h.2.2
  | .array component, .array found erased, h => by
      rw [Means] at h
      rw [GenericType.arrays]
      exact List.forall_mem_cons.2 ⟨h.2, Means.componentOf? component found h.1⟩
  | .named .., .array .., h | .array _, .applied .., h | .array _, .var _, h => by simp [Means] at h

theorem MeansEach.componentOf? : (exprs : List TypeExpr) → (found : List GenericType) →
    schema.MeansEach scope exprs found → ∀ array ∈ GenericType.arraysIn found,
      schema.componentOf? array.2 = some (eraseIn scope array.1)
  | [], [], _ => by
      rw [GenericType.arraysIn]
      exact List.forall_mem_nil _
  | expr :: exprs, found :: others, h => by
      rw [MeansEach] at h
      rw [GenericType.arraysIn]
      exact List.forall_mem_append.2
        ⟨Means.componentOf? expr found h.1, MeansEach.componentOf? exprs others h.2⟩
  | [], _ :: _, h | _ :: _, [], h => by simp [MeansEach] at h
end

theorem MeansText.componentOf? {source : String} {found : GenericType}
    (h : schema.MeansText scope source found) : ∀ array ∈ found.arrays,
      schema.componentOf? array.2 = some (eraseIn scope array.1) := by
  obtain ⟨expr, -, hmeans⟩ := h
  exact Means.componentOf? expr found hmeans

theorem MeansParams.bound {done params : List TypeParam} {declared : List (String × Option String)}
    (h : schema.MeansParams done declared params) {place : Nat} {param : TypeParam}
    (hparam : params[place]? = some param) {bound : GenericType}
    (hbound : param.bound = some bound) :
    ∃ source, schema.MeansText
      (done ++ (params.take place ++ (params.drop place).map TypeParam.unbounded)) source
      bound := by
  induction declared generalizing done params place with
  | nil =>
      rw [show params = [] from h] at hparam
      cases hparam
  | cons first rest ih =>
      obtain ⟨name, source⟩ := first
      obtain ⟨found, others, rfl, hmeans, -, hothers⟩ := h
      cases place with
      | zero =>
          cases hparam
          obtain rfl : found = some bound := hbound
          have hpending : (others.map TypeParam.unbounded) =
              rest.map fun param => ({ name := param.1 } : TypeParam) := by
            have hnames := congrArg (List.map fun name => ({ name } : TypeParam)) hothers.names
            rwa [List.map_map, List.map_map] at hnames
          cases hmeans with
          | @some source _ hmeans =>
              refine ⟨source, ?_⟩
              rw [List.take_zero, List.drop_zero, List.map_cons, List.nil_append, hpending]
              exact hmeans
      | succ place =>
          obtain ⟨source, hmeans⟩ := ih hothers hparam
          exact ⟨source, by simpa using hmeans⟩

theorem MeansBody.member {declaration : TypeDeclaration} {body : TypeBody}
    (h : schema.MeansBody declaration body) :
    ∀ declared ∈ body.memberTypes, ∃ source, schema.MeansText body.params source declared := by
  have hrel {source : Option String} {found : Option GenericType}
      (hmeans : Option.Rel (schema.MeansText body.params) source found) :
      ∀ declared ∈ found, ∃ source, schema.MeansText body.params source declared := by
    rintro declared rfl
    cases hmeans with
    | some hmeans => exact ⟨_, hmeans⟩
  simp only [TypeBody.memberTypes, List.forall_mem_append, List.forall_mem_map, Option.mem_toList]
  refine ⟨⟨⟨hrel h.superclass, ?_⟩, ?_⟩, fun declared hdeclared => ?_⟩
  · exact h.interfaces.forall_mem_right fun _ _ hmeans => ⟨_, hmeans⟩
  · refine h.fields.forall_mem_right ?_
    rintro _ _ ⟨found, hmeans, rfl⟩
    exact ⟨_, hmeans⟩
  · obtain ⟨method, hmethod, hdeclared⟩ := List.mem_filterMap.1 hdeclared
    refine h.methods.forall_mem_right (p := fun method => ∀ declared ∈ method.declared,
      ∃ source, schema.MeansText body.params source declared) ?_ method hmethod declared hdeclared
    rintro _ _ ⟨found, hmeans, rfl⟩
    exact hrel hmeans

/-- The members of a type mean something with all of its bounds, and each bound with those before
it. -/
theorem Populated.scoped (populated : Populated types types.length schema) {key : TypeKey}
    {node : TypeNode} (h : schema.node? key = some node) :
    (∀ declared ∈ node.memberTypes, ∃ source, schema.MeansText node.params source declared) ∧
      ∀ place param, node.params[place]? = some param → ∀ bound ∈ param.bound,
        ∃ source, schema.MeansText (node.boundScope place) source bound := by
  rcases populated.node?_cases h with ⟨-, hbuiltin⟩ |
    ⟨place, declaration, body, -, rfl, rfl, hmeans⟩ | ⟨-, hbare, -⟩
  · obtain ⟨-, hnone, hbounds⟩ := builtin_of_node? hbuiltin
    refine ⟨fun declared hdeclared => ?_, fun place param hparam bound hbound => ?_⟩
    · have hmem := TypeBody.mem_declaredTypes_iff.2 (.inr hdeclared)
      rw [hnone] at hmem
      cases hmem
    · rw [hbounds param (List.mem_of_getElem? hparam)] at hbound
      cases hbound
  · exact ⟨hmeans.member, fun place param hparam bound hbound => hmeans.params.bound hparam hbound⟩
  · rw [hbare]
    exact ⟨List.forall_mem_nil _, fun place param hparam => by cases hparam⟩

end Schema

open Schema in
/-- In a schema that was built, the arrays of superclasses, interfaces, fields and methods are those
of what their components erase to.  So is an array in a bound, unless its component is a parameter
that is not among those before and that erases to another type than the root. -/
theorem Declarations.arrays_erased_iff {declarations : Declarations} {schema : Schema}
    (h : declarations.build = .ok schema) {owner : TypeKey} {node : TypeNode}
    (hnode : schema.node? owner = some node) :
    (∀ declared ∈ node.memberTypes, ∀ array ∈ declared.arrays,
      schema.componentOf? array.2 = some (schema.erasure owner array.1)) ∧
    ∀ place param, node.params[place]? = some param → ∀ bound ∈ param.bound,
      ∀ array ∈ bound.arrays,
        (schema.componentOf? array.2 = some (schema.erasure owner array.1) ↔
          ∀ used ∈ array.1.variableName?, used ∈ (node.params.take place).map (·.name) ∨
            schema.erasure owner (.var used) = .object) := by
  have populated := populated_of_ofTypes (ofTypes_of_build h)
  have herasure (declared : GenericType) :
      schema.erasure owner declared = eraseIn node.params declared := by
    rw [erasure, paramsOf, hnode]
    rfl
  obtain ⟨hmembers, hbounds⟩ := populated.scoped hnode
  refine ⟨fun declared hdeclared array harray => ?_,
    fun place param hparam bound hbound array harray => ?_⟩
  · obtain ⟨source, hmeans⟩ := hmembers declared hdeclared
    rw [herasure]
    exact hmeans.componentOf? array harray
  · obtain ⟨source, hmeans⟩ := hbounds place param hparam bound hbound
    simp only [herasure]
    rw [hmeans.componentOf? array harray, TypeBody.boundScope, eraseIn_append_unbounded,
      Option.some.injEq, eraseIn_take_eq_iff]

def Declarations.album : Declarations :=
  .ofList [
    { name := "Shape" },
    { name := "Album", params := [("P", some "Shape"), ("S", none), ("M", some "Map<[P], [S]>")],
      fields := [{ name := "pages", type := "[[P]]" }, { name := "maps", type := "List<[M]>" }] }]

/-- All arrays of the class are those of what their components erase to. -/
theorem Declarations.arrays_erased_album :
    album.build.isOk ∧ ∃ node, album.schema.node? ⟨26⟩ = some node ∧
      ∀ declared ∈ node.declaredTypes, ∀ array ∈ declared.arrays,
        album.schema.componentOf? array.2 = some (album.schema.erasure ⟨26⟩ array.1) := by
  have hbuild : album.build.isOk := by decide +kernel
  have hseen : (album.schema.node? ⟨26⟩).any fun node => decide (∀ entry ∈ node.params.zipIdx,
      ∀ bound ∈ entry.1.bound, ∀ array ∈ bound.arrays, ∀ used ∈ array.1.variableName?,
        used ∈ (node.params.take entry.2).map (·.name) ∨
          album.schema.erasure ⟨26⟩ (.var used) = .object) := by decide +kernel
  obtain ⟨node, hnode, hseen⟩ := (Option.any_eq_true _ _).1 hseen
  obtain ⟨hmembers, hbounds⟩ := arrays_erased_iff (build_eq_schema hbuild) hnode
  refine ⟨hbuild, node, hnode, fun declared hdeclared array harray => ?_⟩
  rcases TypeBody.mem_declaredTypes_iff.1 hdeclared with ⟨param, hparam, hbound⟩ | hmember
  · obtain ⟨place, hplace⟩ := List.mem_iff_getElem?.1 hparam
    exact (hbounds place param hplace declared hbound array harray).2
      (of_decide_eq_true hseen (param, place) (List.mk_mem_zipIdx_iff_getElem?.2 hplace) declared
        hbound array harray)
  · exact hmembers declared hmember array harray

/-- The bounds of a type do not depend on each other in a circle: the parameters have ranks, and a
bound uses parameters of lower ranks alone. -/
def TypeBody.Ranked (body : TypeBody) : Prop :=
  ∃ rank : String → Nat, ∀ param ∈ body.params, ∀ bound ∈ param.bound,
    ∀ used ∈ bound.usedNames, rank used < rank param.name

def Declarations.canvas : Declarations :=
  .ofList [
    { name := "Shape" },
    { name := "Canvas", params := [("T", some "List<[U]>"), ("U", some "Shape")] }]

/-- An array in a bound need not be that of what its component erases to, although no bound depends
on itself. -/
theorem Declarations.not_arrays_erased_canvas :
    ¬ ∀ (declarations : Declarations) (schema : Schema), declarations.build = .ok schema →
      ∀ owner node, schema.node? owner = some node → node.Ranked →
        ∀ declared ∈ node.declaredTypes, ∀ array ∈ declared.arrays,
          schema.componentOf? array.2 = some (schema.erasure owner array.1) := by
  intro h
  let rank (name : String) : Nat := if name = "T" then 1 else 0
  have hrefuted : (canvas.schema.node? ⟨26⟩).any fun node => decide (
      (∀ param ∈ node.params, ∀ bound ∈ param.bound, ∀ used ∈ bound.usedNames,
        rank used < rank param.name) ∧
      ∃ declared ∈ node.declaredTypes, ∃ array ∈ declared.arrays,
        canvas.schema.componentOf? array.2 ≠
          some (canvas.schema.erasure ⟨26⟩ array.1)) := by decide +kernel
  obtain ⟨node, hnode, hrefuted⟩ := (Option.any_eq_true _ _).1 hrefuted
  obtain ⟨hranked, declared, hdeclared, array, harray, hne⟩ := of_decide_eq_true hrefuted
  exact hne (h canvas canvas.schema (build_eq_schema (by decide +kernel)) ⟨26⟩ node hnode
    ⟨rank, hranked⟩ declared hdeclared array harray)

end ObjectDocument
