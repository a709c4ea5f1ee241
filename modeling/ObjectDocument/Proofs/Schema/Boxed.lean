import ObjectDocument.Proofs.Schema.Displayed

/-!
# Primitives and their scalars in descriptors

A descriptor has scalars where a declared type has primitives.  `Boxes` relates type expressions of
which one has scalars for some primitives of the other.  Wherever these stand as base types, at the
top or inside of arguments, the descriptors are the same.

An array is described by its array type, and an array of a primitive is another type than an array
of its scalar.  So what counts of an array is its `element`, the name inside of all brackets: the
descriptors are the same exactly if the arrays have the same elements
(`Declarations.describe_eq_iff_of_boxes`).  What the arguments of an element are does not count,
because they are erased.
-/

namespace ObjectDocument

namespace TypeExpr

/-- A name is that of a primitive, and another that of its scalar.  What is named like a type
parameter is neither. -/
def BoxesName (params : List String) (name scalar : String) : Prop :=
  (name, scalar) ∈ Schema.primitiveNames.zip Schema.boxedNames ∧ name ∉ params ∧ scalar ∉ params

mutual
/-- The second type expression has scalars for some primitives of the first. -/
def Boxes (params : List String) : TypeExpr → TypeExpr → Prop
  | .named name args, .named other others =>
    (name = other ∨ BoxesName params name other) ∧ BoxesEach params args others
  | .array component, .array other => Boxes params component other
  | _, _ => False

def BoxesEach (params : List String) : List TypeExpr → List TypeExpr → Prop
  | [], [] => True
  | expr :: exprs, other :: others => Boxes params expr other ∧ BoxesEach params exprs others
  | _, _ => False
end

def element : TypeExpr → String
  | .named name _ => name
  | .array component => component.element

mutual
/-- The arrays of two type expressions have the same elements, those inside of arrays apart. -/
def SameElements : TypeExpr → TypeExpr → Prop
  | .named _ args, .named _ others => SameElementsEach args others
  | .array component, .array other => component.element = other.element
  | _, _ => False

def SameElementsEach : List TypeExpr → List TypeExpr → Prop
  | [], [] => True
  | expr :: exprs, other :: others => SameElements expr other ∧ SameElementsEach exprs others
  | _, _ => False
end

end TypeExpr

namespace Schema

variable {schema : Schema} {scope : List TypeParam} {key other component : TypeKey}
  {name scalar : String}

/-! ### Boxing -/

def HasBuiltins (schema : Schema) : Prop :=
  ∀ key : TypeKey, key.index < builtins.size → schema.node? key = builtins.node? key

theorem boxed_eq_of_boxesName (indexed : schema.Indexed) (builtin : schema.HasBuiltins)
    {params : List String} (hboxes : TypeExpr.BoxesName params name scalar)
    (hbears : schema.Bears key name) (hother : schema.Bears other scalar) :
    schema.boxed key = schema.boxed other := by
  -- The scalars lie behind the root, and the primitives behind them in the same order.
  have hall : ∀ entry ∈ (primitiveNames.zip boxedNames).zipIdx,
      builtins.heads[entry.2 + 9]? = some (entry.1.1, .primitive ⟨entry.2 + 1⟩) ∧
        builtins.heads[entry.2 + 1]? = some (entry.1.2, .scalar) := by decide +kernel
  obtain ⟨place, hplace⟩ := List.mem_iff_getElem?.1 hboxes.1
  obtain ⟨hname, hscalar⟩ := hall _ (List.mk_mem_zipIdx_iff_getElem?.2 hplace)
  have hhead {place : Nat} (hplace : place < builtins.size) :
      schema.heads[place]? = builtins.heads[place]? := by
    rw [heads, heads, List.getElem?_map, List.getElem?_map]
    exact congrArg (Option.map fun node => (node.name, node.kind)) (builtin ⟨place⟩ hplace)
  rw [← hhead (lt_of_getElem?_heads hname)] at hname
  rw [← hhead (lt_of_getElem?_heads hscalar)] at hscalar
  obtain rfl : key = ⟨place + 9⟩ := indexed.named hbears ⟨_, hname, rfl⟩
  obtain rfl : other = ⟨place + 1⟩ := indexed.named hother ⟨_, hscalar, rfl⟩
  rw [Schema.boxed, Schema.boxed, kind?_eq_some_iff.2 ⟨_, hname⟩, kind?_eq_some_iff.2 ⟨_, hscalar⟩]

theorem boxed_of_componentOf? (h : schema.componentOf? key = some component) :
    schema.boxed key = key := by
  obtain ⟨name, hhead⟩ := componentOf?_eq_some_iff.1 h
  rw [boxed, kind?_eq_some_iff.2 ⟨name, hhead⟩]

theorem Indexed.array_eq_iff (indexed : schema.Indexed) {second : TypeKey}
    (h : schema.componentOf? key = some component)
    (hother : schema.componentOf? other = some second) :
    key = other ↔ component = second := by
  constructor
  · rintro rfl
    exact Option.some.inj (h.symm.trans hother)
  · rintro rfl
    exact indexed.array h hother

/-! ### Meanings by expression -/

/-- A name means a parameter in scope, or else the type that bears it. -/
theorem means_named_iff {args : List TypeExpr} {found : GenericType} :
    schema.Means scope (.named name args) found ↔
      scope.any (·.name = name) = true ∧ args = [] ∧ found = .var name ∨
      scope.any (·.name = name) = false ∧ ∃ base others, found = .applied base others ∧
        schema.Bears base name ∧ schema.MeansEach scope args others := by
  cases found with
  | var used =>
      rw [Means]
      simp only [GenericType.var.injEq, reduceCtorEq, false_and, exists_false, and_false, or_false]
      tauto
  | applied base others =>
      rw [Means]
      simp
  | array component erased => simp [Means]

theorem means_array_iff {component : TypeExpr} {found : GenericType} :
    schema.Means scope (.array component) found ↔ ∃ inner erased, found = .array inner erased ∧
      schema.Means scope component inner ∧
        schema.componentOf? erased = some (eraseIn scope inner) := by
  cases found with
  | var used => simp [Means]
  | applied base others => simp [Means]
  | array inner erased =>
      rw [Means]
      simp

/-! ### Descriptors -/

/-- Of a primitive and its scalar neither is in scope, so a name stays in scope or out of it. -/
theorem any_name_of_boxes
    (h : name = scalar ∨ TypeExpr.BoxesName (scope.map (·.name)) name scalar) :
    scope.any (·.name = name) = scope.any (·.name = scalar) := by
  rcases h with rfl | ⟨-, hname, hscalar⟩
  · rfl
  · have hnone {found : String} (h : found ∉ scope.map (·.name)) :
        scope.any (·.name = found) = false := by
      simpa using h
    rw [hnone hname, hnone hscalar]

theorem eq_of_boxes (hscope : scope.any (·.name = name) = true)
    (h : name = scalar ∨ TypeExpr.BoxesName (scope.map (·.name)) name scalar) : name = scalar := by
  refine h.resolve_right fun hboxes => hboxes.2.1 ?_
  obtain ⟨param, hparam, hname⟩ := List.any_eq_true.1 hscope
  exact List.mem_map.2 ⟨param, hparam, of_decide_eq_true hname⟩

/-- Types erase to the same type if they have the same element. -/
theorem eraseIn_eq_iff_of_boxes (indexed : schema.Indexed) : (expr other : TypeExpr) →
    expr.Boxes (scope.map (·.name)) other → ∀ found found', schema.Means scope expr found →
    schema.Means scope other found' →
      (eraseIn scope found = eraseIn scope found' ↔ expr.element = other.element)
  | .named name args, .named other others, hboxes, found, found', h, h' => by
      rw [TypeExpr.Boxes] at hboxes
      rw [TypeExpr.element, TypeExpr.element]
      rcases means_named_iff.1 h with ⟨hscope, -, rfl⟩ | ⟨hscope, base, _, rfl, hbears, -⟩
      · obtain rfl := eq_of_boxes hscope hboxes.1
        rcases means_named_iff.1 h' with ⟨-, -, rfl⟩ | ⟨hnone, -⟩
        · exact iff_of_true rfl rfl
        · rw [hscope] at hnone
          cases hnone
      · rw [any_name_of_boxes hboxes.1] at hscope
        rcases means_named_iff.1 h' with ⟨hsome, -⟩ | ⟨-, base', _, rfl, hbears', -⟩
        · rw [hscope] at hsome
          cases hsome
        · rw [eraseIn, eraseIn]
          constructor
          · rintro rfl
            exact hbears.name_eq.symm.trans hbears'.name_eq
          · rintro rfl
            exact indexed.named hbears hbears'
  | .array component, .array other, hboxes, found, found', h, h' => by
      rw [TypeExpr.Boxes] at hboxes
      obtain ⟨inner, erased, rfl, hinner, herased⟩ := means_array_iff.1 h
      obtain ⟨inner', erased', rfl, hinner', herased'⟩ := means_array_iff.1 h'
      rw [eraseIn, eraseIn, TypeExpr.element, TypeExpr.element,
        indexed.array_eq_iff herased herased']
      exact eraseIn_eq_iff_of_boxes indexed component other hboxes inner inner' hinner hinner'
  | .named .., .array _, hboxes, _, _, _, _ | .array _, .named .., hboxes, _, _, _, _ => by
      simp [TypeExpr.Boxes] at hboxes

mutual
theorem describe_eq_iff_of_means (indexed : schema.Indexed) (builtin : schema.HasBuiltins)
    (owner : TypeKey) : (expr other : TypeExpr) → expr.Boxes (scope.map (·.name)) other →
    ∀ found found', schema.Means scope expr found → schema.Means scope other found' →
      (TypeDescriptor.describe schema owner found = TypeDescriptor.describe schema owner found' ↔
        expr.SameElements other)
  | .named name args, .named other others, hboxes, found, found', h, h' => by
      rw [TypeExpr.Boxes] at hboxes
      rw [TypeExpr.SameElements]
      rcases means_named_iff.1 h with ⟨hscope, rfl, rfl⟩ | ⟨hscope, base, args', rfl, hbears, hargs⟩
      · obtain rfl := eq_of_boxes hscope hboxes.1
        rcases means_named_iff.1 h' with ⟨-, rfl, rfl⟩ | ⟨hnone, -⟩
        · rw [TypeExpr.SameElementsEach]
          exact iff_of_true rfl trivial
        · rw [hscope] at hnone
          cases hnone
      · rw [any_name_of_boxes hboxes.1] at hscope
        rcases means_named_iff.1 h' with ⟨hsome, -⟩ | ⟨-, base', others', rfl, hbears', hothers⟩
        · rw [hscope] at hsome
          cases hsome
        · have hbase : schema.boxed base = schema.boxed base' := by
            rcases hboxes.1 with rfl | hname
            · rw [indexed.named hbears hbears']
            · exact boxed_eq_of_boxesName indexed builtin hname hbears hbears'
          rw [TypeDescriptor.describe, TypeDescriptor.describe, TypeDescriptor.build,
            TypeDescriptor.build, TypeDescriptor.mk.injEq, and_iff_right hbase]
          exact describeList_eq_iff_of_means indexed builtin owner args others hboxes.2 args'
            others'
            hargs hothers
  | .array component, .array other, hboxes, found, found', h, h' => by
      rw [TypeExpr.Boxes] at hboxes
      obtain ⟨inner, erased, rfl, hinner, herased⟩ := means_array_iff.1 h
      obtain ⟨inner', erased', rfl, hinner', herased'⟩ := means_array_iff.1 h'
      rw [TypeDescriptor.describe, TypeDescriptor.describe, erasure, erasure, eraseIn, eraseIn,
        TypeDescriptor.build, TypeDescriptor.build, TypeDescriptor.mk.injEq,
        and_iff_left rfl, boxed_of_componentOf? herased, boxed_of_componentOf? herased',
        indexed.array_eq_iff herased herased', TypeExpr.SameElements]
      exact eraseIn_eq_iff_of_boxes indexed component other hboxes inner inner' hinner hinner'
  | .named .., .array _, hboxes, _, _, _, _ | .array _, .named .., hboxes, _, _, _, _ => by
      simp [TypeExpr.Boxes] at hboxes

theorem describeList_eq_iff_of_means (indexed : schema.Indexed) (builtin : schema.HasBuiltins)
    (owner : TypeKey) : (exprs others : List TypeExpr) →
    TypeExpr.BoxesEach (scope.map (·.name)) exprs others → ∀ found found',
    schema.MeansEach scope exprs found → schema.MeansEach scope others found' →
      (TypeDescriptor.describeList schema owner found =
        TypeDescriptor.describeList schema owner found' ↔
          TypeExpr.SameElementsEach exprs others)
  | [], [], _, [], [], _, _ => by
      rw [TypeExpr.SameElementsEach]
      exact iff_of_true rfl trivial
  | expr :: exprs, other :: others, hboxes, first :: found, first' :: found', h, h' => by
      rw [TypeExpr.BoxesEach] at hboxes
      rw [MeansEach] at h h'
      rw [TypeDescriptor.describeList, TypeDescriptor.describeList, List.cons.injEq,
        TypeExpr.SameElementsEach,
        describe_eq_iff_of_means indexed builtin owner expr other hboxes.1 first first' h.1 h'.1,
        describeList_eq_iff_of_means indexed builtin owner exprs others hboxes.2 found found' h.2
          h'.2]
  | [], _ :: _, hboxes, _, _, _, _ | _ :: _, [], hboxes, _, _, _, _ => by
      simp [TypeExpr.BoxesEach] at hboxes
  | [], [], _, _ :: _, _, h, _ | [], [], _, [], _ :: _, _, h => by simp [MeansEach] at h
  | _ :: _, _ :: _, _, [], _, h, _ | _ :: _, _ :: _, _, _ :: _, [], _, h => by
      simp [MeansEach] at h
end

/-! ### Looking up with scalars -/

mutual
theorem isIdentifier_of_boxes {params : List String} : (expr other : TypeExpr) →
    expr.Boxes params other → (∀ name ∈ expr.mentioned, Text.isIdentifier name) →
      ∀ name ∈ other.mentioned, Text.isIdentifier name
  | .named name args, .named other others, hboxes, hnames => by
      rw [TypeExpr.Boxes] at hboxes
      rw [TypeExpr.mentioned, List.forall_mem_cons] at hnames ⊢
      refine ⟨?_, isIdentifier_of_boxesEach args others hboxes.2 hnames.2⟩
      rcases hboxes.1 with rfl | hname
      · exact hnames.1
      · have hall : ∀ pair ∈ primitiveNames.zip boxedNames, Text.isIdentifier pair.2 := by
          decide +kernel
        exact hall _ hname.1
  | .array component, .array other, hboxes, hnames => by
      rw [TypeExpr.Boxes] at hboxes
      rw [TypeExpr.mentioned] at hnames ⊢
      exact isIdentifier_of_boxes component other hboxes hnames
  | .named .., .array _, hboxes, _ | .array _, .named .., hboxes, _ => by
      simp [TypeExpr.Boxes] at hboxes

theorem isIdentifier_of_boxesEach {params : List String} : (exprs others : List TypeExpr) →
    TypeExpr.BoxesEach params exprs others →
      (∀ name ∈ TypeExpr.mentionedIn exprs, Text.isIdentifier name) →
      ∀ name ∈ TypeExpr.mentionedIn others, Text.isIdentifier name
  | [], [], _, _ => List.forall_mem_nil _
  | expr :: exprs, other :: others, hboxes, hnames => by
      rw [TypeExpr.BoxesEach] at hboxes
      rw [TypeExpr.mentionedIn, List.forall_mem_append] at hnames ⊢
      exact ⟨isIdentifier_of_boxes expr other hboxes.1 hnames.1,
        isIdentifier_of_boxesEach exprs others hboxes.2 hnames.2⟩
  | [], _ :: _, hboxes, _ | _ :: _, [], hboxes, _ => by simp [TypeExpr.BoxesEach] at hboxes
end

mutual
/-- If a type expression means something, it can be looked up with scalars for its primitives. -/
theorem exists_run_of_boxes : (expr other : TypeExpr) → expr.Boxes (scope.map (·.name)) other →
    ∀ found, schema.Means scope expr found →
      ∀ before, ∃ found' after, (resolve scope other).run before = .ok (found', after)
  | .named name args, .named other others, hboxes, found, h => by
      intro before
      rw [TypeExpr.Boxes] at hboxes
      rcases means_named_iff.1 h with ⟨hscope, rfl, rfl⟩ | ⟨hscope, _, args', rfl, -, hargs⟩
      · obtain rfl := eq_of_boxes hscope hboxes.1
        cases others with
        | nil =>
            refine ⟨.var name, before, ?_⟩
            rw [resolve, if_pos hscope]
            rfl
        | cons other others => simp [TypeExpr.BoxesEach] at hboxes
      · rw [any_name_of_boxes hboxes.1] at hscope
        obtain ⟨base, between, hbase⟩ := exists_run_internName other before
        obtain ⟨declared, after, hothers⟩ :=
          exists_runList_of_boxes args others hboxes.2 args' hargs between
        refine ⟨.applied base declared, after, ?_⟩
        rw [resolve, if_neg (by simp [hscope])]
        exact SchemaM.run_bind_eq_ok_iff.2
          ⟨_, _, hbase, SchemaM.run_bind_eq_ok_iff.2 ⟨_, _, hothers, rfl⟩⟩
  | .array component, .array other, hboxes, found, h => by
      intro before
      rw [TypeExpr.Boxes] at hboxes
      obtain ⟨inner, erased, rfl, hinner, -⟩ := means_array_iff.1 h
      obtain ⟨declared, between, hcomponent⟩ :=
        exists_run_of_boxes component other hboxes inner hinner before
      obtain ⟨array, after, harray⟩ := exists_run_internArray (eraseIn scope declared) between
      refine ⟨.array declared array, after, ?_⟩
      rw [resolve]
      exact SchemaM.run_bind_eq_ok_iff.2
        ⟨_, _, hcomponent, SchemaM.run_bind_eq_ok_iff.2 ⟨_, _, harray, rfl⟩⟩
  | .named .., .array _, hboxes, _, _ | .array _, .named .., hboxes, _, _ => by
      simp [TypeExpr.Boxes] at hboxes

theorem exists_runList_of_boxes : (exprs others : List TypeExpr) →
    TypeExpr.BoxesEach (scope.map (·.name)) exprs others →
    ∀ found, schema.MeansEach scope exprs found →
      ∀ before, ∃ found' after, (resolveList scope others).run before = .ok (found', after)
  | [], [], _, _, _ => fun before => ⟨[], before, by rw [resolveList]; rfl⟩
  | expr :: exprs, other :: others, hboxes, first :: found, h => by
      intro before
      rw [TypeExpr.BoxesEach] at hboxes
      rw [MeansEach] at h
      obtain ⟨declared, between, hfirst⟩ :=
        exists_run_of_boxes expr other hboxes.1 first h.1 before
      obtain ⟨rest, after, hrest⟩ :=
        exists_runList_of_boxes exprs others hboxes.2 found h.2 between
      refine ⟨declared :: rest, after, ?_⟩
      rw [resolveList]
      exact SchemaM.run_bind_eq_ok_iff.2
        ⟨_, _, hfirst, SchemaM.run_bind_eq_ok_iff.2 ⟨_, _, hrest, rfl⟩⟩
  | [], _ :: _, hboxes, _, _ | _ :: _, [], hboxes, _, _ => by simp [TypeExpr.BoxesEach] at hboxes
  | _ :: _, _ :: _, _, [], h => by simp [MeansEach] at h
end

end Schema

open Schema in
/-- In a schema that was built, a type expression that can be looked up can be looked up with
scalars for some of its primitives as well.  (Its names are identifiers, as they are whenever it was
read from a text.)  The descriptors of what is found, as declared on any owner, are the same exactly
if the arrays have the same elements: so they are if no scalar stands for the element of an array.
-/
theorem Declarations.describe_eq_iff_of_boxes {declarations : Declarations} {schema : Schema}
    (h : declarations.build = .ok schema) {scope : List TypeParam} (covers : schema.Covers scope)
    {expr other : TypeExpr} (hnames : ∀ name ∈ expr.mentioned, Text.isIdentifier name)
    (hboxes : expr.Boxes (scope.map (·.name)) other) {found : GenericType} {after : Schema}
    (hfound : (resolve scope expr).run schema = .ok (found, after)) :
    ∃ found' last, (resolve scope other).run after = .ok (found', last) ∧ ∀ owner,
      (TypeDescriptor.describe last owner found = TypeDescriptor.describe last owner found' ↔
        expr.SameElements other) := by
  have populated := populated_of_ofTypes (ofTypes_of_build h)
  obtain ⟨first, hmeans⟩ := finds_resolve expr hnames populated.indexed covers hfound
  obtain ⟨found', last, hother⟩ := exists_run_of_boxes expr other hboxes found hmeans after
  obtain ⟨second, hmeans'⟩ := finds_resolve other (isIdentifier_of_boxes expr other hboxes hnames)
    first.indexed (covers.mono first.size_le) hother
  have builtin : last.HasBuiltins := fun key hkey => by
    have hlt := populated.lt_of_builtin hkey
    rw [second.node?_eq (Nat.lt_of_lt_of_le hlt first.size_le), first.node?_eq hlt,
      populated.builtin hkey]
  exact ⟨found', last, hother, fun owner => describe_eq_iff_of_means second.indexed builtin owner
    expr other hboxes found found' (Means.of_isPrefix second.heads_isPrefix expr found hmeans)
    hmeans'⟩

def Declarations.sample : Declarations :=
  .ofList [
    { name := "Sample", params := [("N", some "i64")],
      fields := [{ name := "series", type := "Map<i32, [List<u8>]>" }] }]

/-- The map is described like one from boxed numbers to arrays of lists of boxed bytes. -/
theorem Declarations.describe_eq_of_boxes_sample :
    let schema := sample.schema
    let declared : GenericType := .applied .map
      [.applied ⟨12⟩ [], .array (.applied .list [.applied ⟨10⟩ []]) ⟨26⟩]
    (schema.node? ⟨25⟩).map (fun node => node.fields.map (·.declared)) = some [declared] ∧
    ∃ found last,
      (Schema.resolve (schema.paramsOf ⟨25⟩) (.named "Map" [.named "Int32" [],
        .array (.named "List" [.named "Byte" []])])).run schema = .ok (found, last) ∧
      TypeDescriptor.describe last ⟨25⟩ declared = TypeDescriptor.describe last ⟨25⟩ found := by
  intro schema declared
  have hbuild : sample.build = .ok schema := build_eq_schema (by decide +kernel)
  have hscope : (schema.paramsOf ⟨25⟩).map (·.name) = ["N"] := by decide +kernel
  have hboxes : TypeExpr.Boxes ((schema.paramsOf ⟨25⟩).map (·.name))
      (.named "Map" [.named "i32" [], .array (.named "List" [.named "u8" []])])
      (.named "Map" [.named "Int32" [], .array (.named "List" [.named "Byte" []])]) := by
    rw [hscope]
    simp [TypeExpr.Boxes, TypeExpr.BoxesEach, TypeExpr.BoxesName, Schema.primitiveNames,
      Schema.boxedNames]
  have hdeclared : (Schema.resolve (schema.paramsOf ⟨25⟩) (.named "Map" [.named "i32" [],
      .array (.named "List" [.named "u8" []])])).run schema = .ok (declared, schema) := by
    decide +kernel
  obtain ⟨found, last, hfound, hdescribe⟩ := describe_eq_iff_of_boxes hbuild
    ((Schema.populated_of_ofTypes (ofTypes_of_build hbuild)).covers_paramsOf ⟨25⟩)
    (by decide +kernel) hboxes hdeclared
  refine ⟨by decide +kernel, found, last, hfound, (hdescribe ⟨25⟩).2 ?_⟩
  simp [TypeExpr.SameElements, TypeExpr.SameElementsEach, TypeExpr.element]

def Declarations.readings : Declarations :=
  .ofList [
    { name := "Readings", fields := [
      { name := "raw", type := "[i32]" }, { name := "boxed", type := "[Int32]" }] },
    { name := "Counter", params := [("Int32", none)] }]

/-- The array of a primitive is described by another type than the array of its scalar.  So is a
primitive by another type than what its scalar is called, where a parameter has that name. -/
theorem Declarations.not_describe_eq_of_boxes :
    (¬ ∀ (declarations : Declarations) (schema : Schema), declarations.build = .ok schema →
      ∀ (scope : List TypeParam), schema.Covers scope → ∀ expr other : TypeExpr,
        expr.Boxes (scope.map (·.name)) other → ∀ found after found' last,
          (Schema.resolve scope expr).run schema = .ok (found, after) →
          (Schema.resolve scope other).run after = .ok (found', last) → ∀ owner,
            TypeDescriptor.describe last owner found =
              TypeDescriptor.describe last owner found') ∧
    let schema := readings.schema
    let scope := schema.paramsOf ⟨26⟩
    ∃ found found', (Schema.resolve scope (.named "i32" [])).run schema = .ok (found, schema) ∧
      (Schema.resolve scope (.named "Int32" [])).run schema = .ok (found', schema) ∧
      TypeDescriptor.describe schema ⟨26⟩ found ≠ TypeDescriptor.describe schema ⟨26⟩ found' := by
  refine ⟨fun h => ?_, .applied ⟨12⟩ [], .var "Int32", by decide +kernel, by decide +kernel,
    by decide +kernel⟩
  have hboxes : TypeExpr.Boxes [] (.array (.named "i32" [])) (.array (.named "Int32" [])) := by
    simp [TypeExpr.Boxes, TypeExpr.BoxesEach, TypeExpr.BoxesName, Schema.primitiveNames,
      Schema.boxedNames]
  have hdescribe := h readings readings.schema (build_eq_schema (by decide +kernel)) []
    (List.forall_mem_nil _) _ _ hboxes (.array (.applied ⟨12⟩ []) ⟨27⟩) readings.schema
    (.array (.applied ⟨4⟩ []) ⟨28⟩) readings.schema (by decide +kernel) (by decide +kernel) ⟨25⟩
  revert hdescribe
  decide +kernel

end ObjectDocument
