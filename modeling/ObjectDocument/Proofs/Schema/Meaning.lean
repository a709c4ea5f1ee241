import ObjectDocument.Proofs.Schema.Indexed

/-!
# What declarations mean in a schema

Looking a declaration up both reads a schema and adds to it.  `Means` says what has been found once
that is over, without the steps that led there: a name in a type expression is a type parameter in
scope, or the type that bears it, and an array is the array type of what its component erases to.
`MeansBody` says the same of all members of a type.  Neither depends on members, so what a
declaration means stays when types are added or members are filled in (`MeansBody.of_isPrefix`).

All that a meaning refers to is there: its keys are those of types (`Means.lt`), and its variables
are type parameters in scope (`Means.mem_names`).
-/

theorem List.Forall₂.forall_mem_right {α β : Type} {R : α → β → Prop} {p : β → Prop}
    {as : List α} {bs : List β} (h : List.Forall₂ R as bs) (hp : ∀ a b, R a b → p b) :
    ∀ b ∈ bs, p b := by
  induction h with
  | nil => exact List.forall_mem_nil _
  | cons hab _ ih => exact List.forall_mem_cons.2 ⟨hp _ _ hab, ih⟩

namespace ObjectDocument

/-! ### What members refer to -/

namespace GenericType

mutual
def keys : GenericType → List TypeKey
  | .applied base args => base :: keysIn args
  | .var _ => []
  | .array component erased => keys component ++ [erased]

def keysIn : List GenericType → List TypeKey
  | [] => []
  | declared :: rest => keys declared ++ keysIn rest
end

mutual
def usedNames : GenericType → List String
  | .applied _ args => usedNamesIn args
  | .var name => [name]
  | .array component _ => usedNames component

def usedNamesIn : List GenericType → List String
  | [] => []
  | declared :: rest => usedNames declared ++ usedNamesIn rest
end

end GenericType

namespace TypeBody

def declaredTypes (body : TypeBody) : List GenericType :=
  body.params.filterMap (·.bound) ++ body.superclass.toList ++ body.interfaces ++
    body.fields.map (·.declared) ++ body.methods.filterMap (·.declared)

theorem superclass_mem_declaredTypes {body : TypeBody} {declared : GenericType}
    (h : body.superclass = some declared) : declared ∈ body.declaredTypes := by
  simp [declaredTypes, h]

theorem interface_mem_declaredTypes {body : TypeBody} {declared : GenericType}
    (h : declared ∈ body.interfaces) : declared ∈ body.declaredTypes := by
  simp [declaredTypes, h]

theorem field_mem_declaredTypes {body : TypeBody} {field : DeclaredField}
    (h : field ∈ body.fields) : field.declared ∈ body.declaredTypes :=
  List.mem_append_left _ (List.mem_append_right _ (List.mem_map_of_mem h))

def keys (body : TypeBody) : List TypeKey :=
  body.declaredTypes.flatMap GenericType.keys

def paramNames (body : TypeBody) : List String :=
  body.params.map (·.name)

end TypeBody

def TypeKind.keys : TypeKind → List TypeKey
  | .primitive boxed => [boxed]
  | .array component => [component]
  | _ => []

def TypeNode.keys (node : TypeNode) : List TypeKey :=
  node.key :: node.kind.keys ++ node.toTypeBody.keys

namespace Schema

/-! ### The meaning of type expressions -/

mutual
/-- What a type expression means where some type parameters are in scope. -/
def Means (schema : Schema) (scope : List TypeParam) : TypeExpr → GenericType → Prop
  | .named name args, .var used =>
    used = name ∧ args = [] ∧ scope.any (·.name = name) = true
  | .named name args, .applied base found =>
    scope.any (·.name = name) = false ∧ schema.Bears base name ∧ MeansEach schema scope args found
  | .array component, .array found erased =>
    Means schema scope component found ∧
      schema.componentOf? erased = some (eraseIn scope found)
  | _, _ => False

def MeansEach (schema : Schema) (scope : List TypeParam) :
    List TypeExpr → List GenericType → Prop
  | [], [] => True
  | expr :: exprs, found :: others =>
    Means schema scope expr found ∧ MeansEach schema scope exprs others
  | _, _ => False
end

/-- What the text of a type expression means. -/
def MeansText (schema : Schema) (scope : List TypeParam) (source : String)
    (found : GenericType) : Prop :=
  ∃ expr, TypeExpr.parse source = .ok expr ∧ schema.Means scope expr found

/-- What type parameters mean after those in `done`, which have their bounds already. -/
def MeansParams (schema : Schema) (done : List TypeParam) :
    List (String × Option String) → List TypeParam → Prop
  | [], params => params = []
  | (name, bound) :: rest, params => ∃ found others, params = ⟨name, found⟩ :: others ∧
    Option.Rel (schema.MeansText (done ++ { name } :: rest.map fun param => { name := param.1 }))
      bound found ∧
    found.any (·.isVariable) = false ∧ MeansParams schema (done ++ [⟨name, found⟩]) rest others

def MeansField (schema : Schema) (scope : List TypeParam) (declaration : FieldDeclaration)
    (field : DeclaredField) : Prop :=
  ∃ declared, schema.MeansText scope declaration.type declared ∧
    field = ⟨declaration.name, declared, declaration.metadata⟩

def MeansMethod (schema : Schema) (scope : List TypeParam) (declaration : MethodDeclaration)
    (method : DeclaredMethod) : Prop :=
  ∃ declared, Option.Rel (schema.MeansText scope) declaration.type declared ∧
    method = ⟨declaration.name, declaration.shape, declared, declaration.metadata⟩

/-- What a declaration means. -/
structure MeansBody (schema : Schema) (declaration : TypeDeclaration) (body : TypeBody) :
    Prop where
  params : schema.MeansParams [] declaration.params body.params
  superclass : Option.Rel (schema.MeansText body.params) declaration.superclass body.superclass
  interfaces : List.Forall₂ (schema.MeansText body.params) declaration.interfaces body.interfaces
  metadata : body.metadata = declaration.metadata
  fields : List.Forall₂ (schema.MeansField body.params) declaration.fields body.fields
  methods : List.Forall₂ (schema.MeansMethod body.params) declaration.methods body.methods
  constructorParams : body.constructorParams = declaration.constructorParams

variable {schema before after : Schema} {scope : List TypeParam}

/-! ### Meanings stay -/

mutual
theorem Means.of_isPrefix (hinitial : before.heads <+: after.heads) :
    (expr : TypeExpr) → (found : GenericType) →
    before.Means scope expr found → after.Means scope expr found
  | .named name args, .var used, h => by
      rw [Means] at h ⊢
      exact h
  | .named name args, .applied base found, h => by
      rw [Means] at h ⊢
      exact ⟨h.1, h.2.1.of_isPrefix hinitial, MeansEach.of_isPrefix hinitial args found h.2.2⟩
  | .array component, .array found erased, h => by
      rw [Means] at h ⊢
      exact ⟨Means.of_isPrefix hinitial component found h.1, componentOf?_of_isPrefix hinitial h.2⟩
  | .named .., .array .., h | .array _, .applied .., h | .array _, .var _, h => by simp [Means] at h

theorem MeansEach.of_isPrefix (hinitial : before.heads <+: after.heads) :
    (exprs : List TypeExpr) → (found : List GenericType) →
    before.MeansEach scope exprs found → after.MeansEach scope exprs found
  | [], [], _ => by rw [MeansEach]; trivial
  | expr :: exprs, found :: others, h => by
      rw [MeansEach] at h ⊢
      exact ⟨Means.of_isPrefix hinitial expr found h.1,
        MeansEach.of_isPrefix hinitial exprs others h.2⟩
  | [], _ :: _, h | _ :: _, [], h => by simp [MeansEach] at h
end

section

variable (hinitial : before.heads <+: after.heads)

include hinitial

theorem MeansText.of_isPrefix {source : String} {found : GenericType}
    (h : before.MeansText scope source found) : after.MeansText scope source found := by
  obtain ⟨expr, hparse, hmeans⟩ := h
  exact ⟨expr, hparse, Means.of_isPrefix hinitial expr found hmeans⟩

theorem rel_meansText_of_isPrefix {source : Option String} {found : Option GenericType}
    (h : Option.Rel (before.MeansText scope) source found) :
    Option.Rel (after.MeansText scope) source found := by
  cases h with
  | some h => exact .some (h.of_isPrefix hinitial)
  | none => exact .none

theorem MeansParams.of_isPrefix {done params : List TypeParam}
    {declared : List (String × Option String)} (h : before.MeansParams done declared params) :
    after.MeansParams done declared params := by
  induction declared generalizing done params with
  | nil => exact h
  | cons param rest ih =>
      obtain ⟨found, others, rfl, hbound, hvariable, hothers⟩ := h
      exact ⟨found, others, rfl, rel_meansText_of_isPrefix hinitial hbound, hvariable, ih hothers⟩

theorem MeansField.of_isPrefix {declaration : FieldDeclaration} {field : DeclaredField}
    (h : before.MeansField scope declaration field) : after.MeansField scope declaration field := by
  obtain ⟨declared, hmeans, hfield⟩ := h
  exact ⟨declared, hmeans.of_isPrefix hinitial, hfield⟩

theorem MeansMethod.of_isPrefix {declaration : MethodDeclaration} {method : DeclaredMethod}
    (h : before.MeansMethod scope declaration method) :
    after.MeansMethod scope declaration method := by
  obtain ⟨declared, hmeans, hmethod⟩ := h
  exact ⟨declared, rel_meansText_of_isPrefix hinitial hmeans, hmethod⟩

theorem MeansBody.of_isPrefix {declaration : TypeDeclaration} {body : TypeBody}
    (h : before.MeansBody declaration body) : after.MeansBody declaration body where
  params := h.params.of_isPrefix hinitial
  superclass := rel_meansText_of_isPrefix hinitial h.superclass
  interfaces := h.interfaces.imp fun _ _ => MeansText.of_isPrefix hinitial
  metadata := h.metadata
  fields := h.fields.imp fun _ _ => MeansField.of_isPrefix hinitial
  methods := h.methods.imp fun _ _ => MeansMethod.of_isPrefix hinitial
  constructorParams := h.constructorParams

end

/-! ### Meanings refer to what is there -/

mutual
theorem Means.lt : (expr : TypeExpr) → (found : GenericType) → schema.Means scope expr found →
    ∀ key ∈ found.keys, key.index < schema.size
  | .named name args, .var used, _ => by
      rw [GenericType.keys]
      exact List.forall_mem_nil _
  | .named name args, .applied base found, h => by
      rw [Means] at h
      rw [GenericType.keys]
      exact List.forall_mem_cons.2 ⟨h.2.1.lt, MeansEach.lt args found h.2.2⟩
  | .array component, .array found erased, h => by
      rw [Means] at h
      rw [GenericType.keys]
      refine List.forall_mem_append.2 ⟨Means.lt component found h.1, ?_⟩
      exact List.forall_mem_singleton.2 (lt_of_componentOf? h.2)
  | .named .., .array .., h | .array _, .applied .., h | .array _, .var _, h => by simp [Means] at h

theorem MeansEach.lt : (exprs : List TypeExpr) → (found : List GenericType) →
    schema.MeansEach scope exprs found → ∀ key ∈ GenericType.keysIn found, key.index < schema.size
  | [], [], _ => by
      rw [GenericType.keysIn]
      exact List.forall_mem_nil _
  | expr :: exprs, found :: others, h => by
      rw [MeansEach] at h
      rw [GenericType.keysIn]
      exact List.forall_mem_append.2 ⟨Means.lt expr found h.1, MeansEach.lt exprs others h.2⟩
  | [], _ :: _, h | _ :: _, [], h => by simp [MeansEach] at h
end

mutual
theorem Means.mem_names : (expr : TypeExpr) → (found : GenericType) →
    schema.Means scope expr found → ∀ name ∈ found.usedNames, name ∈ scope.map (·.name)
  | .named name args, .var used, h => by
      rw [Means] at h
      obtain ⟨param, hparam, hname⟩ := List.any_eq_true.1 h.2.2
      rw [GenericType.usedNames, h.1]
      exact List.forall_mem_singleton.2 (List.mem_map.2 ⟨param, hparam, by simpa using hname⟩)
  | .named name args, .applied base found, h => by
      rw [Means] at h
      rw [GenericType.usedNames]
      exact MeansEach.mem_names args found h.2.2
  | .array component, .array found erased, h => by
      rw [Means] at h
      rw [GenericType.usedNames]
      exact Means.mem_names component found h.1
  | .named .., .array .., h | .array _, .applied .., h | .array _, .var _, h => by simp [Means] at h

theorem MeansEach.mem_names : (exprs : List TypeExpr) → (found : List GenericType) →
    schema.MeansEach scope exprs found →
      ∀ name ∈ GenericType.usedNamesIn found, name ∈ scope.map (·.name)
  | [], [], _ => by
      rw [GenericType.usedNamesIn]
      exact List.forall_mem_nil _
  | expr :: exprs, found :: others, h => by
      rw [MeansEach] at h
      rw [GenericType.usedNamesIn]
      exact List.forall_mem_append.2
        ⟨Means.mem_names expr found h.1, MeansEach.mem_names exprs others h.2⟩
  | [], _ :: _, h | _ :: _, [], h => by simp [MeansEach] at h
end

/-- A declared type refers to types of the schema, and to parameters of the names in scope. -/
def Grounded (schema : Schema) (names : List String) (found : GenericType) : Prop :=
  (∀ key ∈ found.keys, key.index < schema.size) ∧ ∀ name ∈ found.usedNames, name ∈ names

theorem MeansText.grounded {source : String} {found : GenericType}
    (h : schema.MeansText scope source found) :
    schema.Grounded (scope.map (·.name)) found := by
  obtain ⟨expr, -, hmeans⟩ := h
  exact ⟨Means.lt expr found hmeans, Means.mem_names expr found hmeans⟩

theorem MeansParams.names {done params : List TypeParam}
    {declared : List (String × Option String)} (h : schema.MeansParams done declared params) :
    params.map (·.name) = declared.map (·.1) := by
  induction declared generalizing done params with
  | nil =>
      rw [show params = [] from h]
      rfl
  | cons param rest ih =>
      obtain ⟨found, others, rfl, -, -, hothers⟩ := h
      rw [List.map_cons, List.map_cons, ih hothers]

/-- A declared type is what some text means, with parameters of the names in scope. -/
def Written (schema : Schema) (names : List String) (found : GenericType) : Prop :=
  ∃ scope source, scope.map (·.name) = names ∧ schema.MeansText scope source found

theorem MeansText.written {source : String} {found : GenericType}
    (h : schema.MeansText scope source found) : schema.Written (scope.map (·.name)) found :=
  ⟨scope, source, rfl, h⟩

theorem Written.grounded {names : List String} {found : GenericType}
    (h : schema.Written names found) : schema.Grounded names found := by
  obtain ⟨scope, source, rfl, hmeans⟩ := h
  exact hmeans.grounded

theorem MeansParams.written {done params : List TypeParam}
    {declared : List (String × Option String)} (h : schema.MeansParams done declared params) :
    ∀ param ∈ params, ∀ bound ∈ param.bound, bound.isVariable = false ∧
      schema.Written (done.map (·.name) ++ params.map (·.name)) bound := by
  induction declared generalizing done params with
  | nil =>
      rw [show params = [] from h]
      exact List.forall_mem_nil _
  | cons param rest ih =>
      obtain ⟨name, source⟩ := param
      obtain ⟨found, others, rfl, hbound, hvariable, hothers⟩ := h
      refine List.forall_mem_cons.2 ⟨?_, ?_⟩
      · intro bound hfound
        rw [show found = some bound from hfound] at hbound hvariable
        cases hbound with
        | some hbound =>
            exact ⟨by simpa using hvariable,
              by simpa [hothers.names, Function.comp_def] using hbound.written⟩
      · simpa using ih hothers

/-- Every declared type of a type is written with its parameters. -/
theorem MeansBody.written {declaration : TypeDeclaration} {body : TypeBody}
    (h : schema.MeansBody declaration body) :
    ∀ declared ∈ body.declaredTypes, schema.Written body.paramNames declared := by
  have hrel {source : Option String} {found : Option GenericType}
      (hmeans : Option.Rel (schema.MeansText body.params) source found) :
      ∀ declared ∈ found, schema.Written body.paramNames declared := by
    rintro declared rfl
    cases hmeans with
    | some hmeans => exact hmeans.written
  intro declared hdeclared
  simp only [TypeBody.declaredTypes, List.mem_append, List.mem_filterMap, Option.mem_toList,
    List.mem_map] at hdeclared
  rcases hdeclared with (((⟨param, hparam, hbound⟩ | hsuperclass) | hinterface) |
    ⟨field, hfield, rfl⟩) | ⟨method, hmethod, hdeclared⟩
  · exact (h.params.written param hparam declared hbound).2
  · exact hrel h.superclass declared hsuperclass
  · exact h.interfaces.forall_mem_right (fun _ _ hmeans => hmeans.written) _ hinterface
  · refine h.fields.forall_mem_right
      (p := fun field => schema.Written body.paramNames field.declared) ?_ field hfield
    rintro _ _ ⟨found, hmeans, rfl⟩
    exact hmeans.written
  · refine h.methods.forall_mem_right
      (p := fun method => ∀ declared ∈ method.declared,
        schema.Written body.paramNames declared) ?_ method hmethod declared hdeclared
    rintro _ _ ⟨found, hmeans, rfl⟩
    exact hrel hmeans

end Schema

end ObjectDocument
