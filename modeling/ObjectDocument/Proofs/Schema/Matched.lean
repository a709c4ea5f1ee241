import ObjectDocument.Proofs.Schema.Rekeyed

/-!
# The same types in two schemas

Two schemas may have the same types under different keys.  `Matches` pairs the keys: a type that is
no array with the one of the same name, and an array with the array of what its component is paired
with.  A key has at most one partner, its `counterpart`.

What one declaration means in two schemas is then the same but for the keys, and all of these have
partners (`MeansBody.rekeyed`).  A type that is neither built-in nor declared is there because a
declaration mentions it.  So if two schemas were made of the same declarations, every key of one has
a partner in the other, and pairing them takes one schema to the other (`isomorphicBy_counterpart`).
-/

theorem List.Forall₂.eq_map_of {α β : Type} {R S : α → β → Prop} {f : β → β} {p : β → Prop}
    (hstep : ∀ a b c, R a b → S a c → c = f b ∧ p b) {as : List α} {bs cs : List β}
    (h : List.Forall₂ R as bs) (h' : List.Forall₂ S as cs) : cs = bs.map f ∧ ∀ b ∈ bs, p b := by
  induction h generalizing cs with
  | nil =>
      cases h'
      exact ⟨rfl, List.forall_mem_nil _⟩
  | cons hab _ ih =>
      cases h' with
      | cons hac hrest =>
          obtain ⟨rfl, hb⟩ := hstep _ _ _ hab hac
          obtain ⟨rfl, hbs⟩ := ih hrest
          exact ⟨rfl, List.forall_mem_cons.2 ⟨hb, hbs⟩⟩

theorem Option.Rel.eq_map_of {α β : Type} {R S : α → β → Prop} {f : β → β} {p : β → Prop}
    (hstep : ∀ a b c, R a b → S a c → c = f b ∧ p b) {a : Option α} {b c : Option β}
    (h : Option.Rel R a b) (h' : Option.Rel S a c) : c = b.map f ∧ ∀ found ∈ b, p found := by
  cases h with
  | none =>
      cases h'
      exact ⟨rfl, fun _ hnone => by cases hnone⟩
  | some hab =>
      cases h' with
      | some hac =>
          obtain ⟨rfl, hb⟩ := hstep _ _ _ hab hac
          exact ⟨rfl, fun _ hfound => by cases hfound; exact hb⟩

namespace ObjectDocument.Schema

/-- Two keys are those of the same type in two schemas. -/
inductive Matches (schema other : Schema) : TypeKey → TypeKey → Prop where
  | named {key found : TypeKey} {name : String} (hkey : schema.Bears key name)
    (hfound : other.Bears found name) : Matches schema other key found
  | array {key found component counterpart : TypeKey}
    (hkey : schema.componentOf? key = some component)
    (hfound : other.componentOf? found = some counterpart)
    (hcomponent : Matches schema other component counterpart) : Matches schema other key found

variable {schema other : Schema} {key found : TypeKey} {name : String}

namespace Matches

theorem symm (h : schema.Matches other key found) : other.Matches schema found key := by
  induction h with
  | named hkey hfound => exact .named hfound hkey
  | array hkey hfound _ ih => exact .array hfound hkey ih

theorem lt (h : schema.Matches other key found) : key.index < schema.size := by
  cases h with
  | named hkey _ => exact hkey.lt
  | array hkey _ _ => exact lt_of_componentOf? hkey

theorem unique (indexed : other.Indexed) {found' : TypeKey} (h : schema.Matches other key found)
    (h' : schema.Matches other key found') : found = found' := by
  induction h generalizing found' with
  | named hkey hfound =>
      cases h' with
      | named hkey' hfound' =>
          rw [← hkey.name_eq, hkey'.name_eq] at hfound
          exact indexed.named hfound hfound'
      | array hkey' _ _ =>
          rw [hkey.componentOf?_eq_none] at hkey'
          cases hkey'
  | array hkey hfound _ ih =>
      cases h' with
      | named hkey' _ =>
          rw [hkey'.componentOf?_eq_none] at hkey
          cases hkey
      | array hkey' hfound' hcomponent' =>
          rw [hkey, Option.some.injEq] at hkey'
          subst hkey'
          rw [ih hcomponent'] at hfound
          exact indexed.array hfound hfound'

theorem exists_component (h : schema.Matches other key found) {component : TypeKey}
    (hkey : schema.componentOf? key = some component) :
    ∃ counterpart, other.componentOf? found = some counterpart ∧
      schema.Matches other component counterpart := by
  cases h with
  | named hkey' _ =>
      rw [hkey'.componentOf?_eq_none] at hkey
      cases hkey
  | array hkey' hfound hcomponent =>
      rw [hkey, Option.some.injEq] at hkey'
      subst hkey'
      exact ⟨_, hfound, hcomponent⟩

theorem name_eq (indexed : schema.Indexed) (indexed' : other.Indexed)
    (h : schema.Matches other key found) : other.name found = schema.name key := by
  have harray {schema : Schema} {key component : TypeKey} (indexed : schema.Indexed)
      (hkey : schema.componentOf? key = some component) :
      schema.name key = "[" ++ schema.name component ++ "]" := by
    obtain ⟨name, hhead⟩ := componentOf?_eq_some_iff.1 hkey
    rw [← indexed.array_name hhead, name_eq_heads, hhead]
    rfl
  induction h with
  | named hkey hfound => rw [hkey.name_eq, hfound.name_eq]
  | array hkey hfound _ ih => rw [harray indexed hkey, harray indexed' hfound, ih]

end Matches

open Classical in
noncomputable def counterpart (schema other : Schema) (key : TypeKey) : TypeKey :=
  if h : ∃ found, schema.Matches other key found then h.choose else key

theorem Matches.counterpart_eq (indexed : other.Indexed) (h : schema.Matches other key found) :
    schema.counterpart other key = found := by
  have hexists : ∃ found, schema.Matches other key found := ⟨found, h⟩
  rw [counterpart, dif_pos hexists]
  exact hexists.choose_spec.unique indexed h

/-! ### The meaning of a declaration in two schemas -/

/-- A declared type erases to the same under other keys. -/
theorem eraseIn_rekeyed {rekey : TypeKey → TypeKey} (hobject : rekey .object = .object)
    (scope : List TypeParam) (declared : GenericType) :
    eraseIn (scope.map (TypeParam.rekeyed rekey)) (declared.rekeyed rekey) =
      rekey (eraseIn scope declared) := by
  cases declared with
  | applied base args => rfl
  | array component erased => rfl
  | var name =>
      have hfind : (scope.map (TypeParam.rekeyed rekey)).find? (·.name = name) =
          (scope.find? (·.name = name)).map (TypeParam.rekeyed rekey) := by
        rw [List.find?_map]
        rfl
      simp only [GenericType.rekeyed, eraseIn, hfind]
      cases hparam : scope.find? (·.name = name) with
      | none => simp [hobject]
      | some param =>
          cases hbound : param.bound with
          | none => simp [TypeParam.rekeyed, hbound, hobject]
          | some bound =>
              cases bound <;> simp [TypeParam.rekeyed, GenericType.rekeyed, hbound, hobject]

/-- A function gives the partner of every key that has one, and the roots are partners. -/
structure Pairs (schema other : Schema) (rekey : TypeKey → TypeKey) : Prop where
  eq : ∀ {key found : TypeKey}, schema.Matches other key found → rekey key = found
  object : schema.Matches other .object .object

def Paired (schema other : Schema) (rekey : TypeKey → TypeKey) (keys : List TypeKey) : Prop :=
  ∀ key ∈ keys, schema.Matches other key (rekey key)

def PairedIn (schema other : Schema) (rekey : TypeKey → TypeKey) (scope : List TypeParam) : Prop :=
  ∀ param ∈ scope, ∀ bound ∈ param.bound, schema.Paired other rekey bound.keys

variable {rekey : TypeKey → TypeKey} {scope : List TypeParam}

theorem matches_eraseIn (pairs : schema.Pairs other rekey)
    (hscope : schema.PairedIn other rekey scope) {declared : GenericType}
    (hkeys : schema.Paired other rekey declared.keys) :
    schema.Matches other (eraseIn scope declared) (rekey (eraseIn scope declared)) := by
  rcases eraseIn_cases scope declared with herased | hkey | ⟨param, hparam, bound, hbound, hkey⟩
  · rw [herased, pairs.eq pairs.object]
    exact pairs.object
  · exact hkeys _ hkey
  · exact hscope param hparam bound hbound _ hkey

theorem any_rekeyed (name : String) :
    (scope.map (TypeParam.rekeyed rekey)).any (·.name = name) = scope.any (·.name = name) := by
  rw [List.any_map]
  rfl

mutual
/-- A type expression means the same in both schemas, under other keys. -/
theorem Means.rekeyed (pairs : schema.Pairs other rekey)
    (hscope : schema.PairedIn other rekey scope) :
    (expr : TypeExpr) → (found found' : GenericType) → schema.Means scope expr found →
    other.Means (scope.map (TypeParam.rekeyed rekey)) expr found' →
      found' = found.rekeyed rekey ∧ schema.Paired other rekey found.keys
  | .named name args, .var used, found', h, h' => by
      rw [Means] at h
      cases found' with
      | var used' =>
          rw [Means] at h'
          rw [h.1, h'.1, GenericType.rekeyed, GenericType.keys]
          exact ⟨rfl, List.forall_mem_nil _⟩
      | applied base' found' =>
          rw [Means, any_rekeyed, h.2.2] at h'
          cases h'.1
      | array component' erased' => simp [Means] at h'
  | .named name args, .applied base found, found', h, h' => by
      rw [Means] at h
      cases found' with
      | var used' =>
          rw [Means, any_rekeyed, h.1] at h'
          cases h'.2.2
      | applied base' found' =>
          rw [Means] at h'
          have hbase : schema.Matches other base base' := .named h.2.1 h'.2.1
          obtain ⟨rfl, hargs⟩ :=
            MeansEach.rekeyed pairs hscope args found found' h.2.2 h'.2.2
          rw [GenericType.rekeyed, pairs.eq hbase, GenericType.keys]
          exact ⟨rfl, List.forall_mem_cons.2 ⟨(pairs.eq hbase).symm ▸ hbase, hargs⟩⟩
      | array component' erased' => simp [Means] at h'
  | .array component, .array found erased, found', h, h' => by
      rw [Means] at h
      cases found' with
      | var used' => simp [Means] at h'
      | applied base' found' => simp [Means] at h'
      | array found' erased' =>
          rw [Means] at h'
          obtain ⟨rfl, hkeys⟩ :=
            Means.rekeyed pairs hscope component found found' h.1 h'.1
          -- What the component erases to is looked at in the scope of each schema.
          have herased : schema.Matches other erased erased' := by
            refine .array h.2 ?_ (matches_eraseIn pairs hscope hkeys)
            rw [h'.2, eraseIn_rekeyed (pairs.eq pairs.object)]
          rw [GenericType.rekeyed, pairs.eq herased, GenericType.keys]
          exact ⟨rfl, List.forall_mem_append.2
            ⟨hkeys, List.forall_mem_singleton.2 ((pairs.eq herased).symm ▸ herased)⟩⟩
  | .named .., .array .., _, h, _ | .array _, .applied .., _, h, _ | .array _, .var _, _, h, _ => by
      simp [Means] at h

theorem MeansEach.rekeyed (pairs : schema.Pairs other rekey)
    (hscope : schema.PairedIn other rekey scope) :
    (exprs : List TypeExpr) → (found found' : List GenericType) →
    schema.MeansEach scope exprs found →
    other.MeansEach (scope.map (TypeParam.rekeyed rekey)) exprs found' →
      found' = GenericType.rekeyedList rekey found ∧
        schema.Paired other rekey (GenericType.keysIn found)
  | [], [], found', _, h' => by
      cases found' with
      | nil => exact ⟨rfl, List.forall_mem_nil _⟩
      | cons => simp [MeansEach] at h'
  | expr :: exprs, found :: others, found', h, h' => by
      rw [MeansEach] at h
      cases found' with
      | nil => simp [MeansEach] at h'
      | cons found' others' =>
          rw [MeansEach] at h'
          obtain ⟨rfl, hfirst⟩ :=
            Means.rekeyed pairs hscope expr found found' h.1 h'.1
          obtain ⟨rfl, hrest⟩ :=
            MeansEach.rekeyed pairs hscope exprs others others' h.2 h'.2
          rw [GenericType.rekeyedList, GenericType.keysIn]
          exact ⟨rfl, List.forall_mem_append.2 ⟨hfirst, hrest⟩⟩
  | [], _ :: _, _, h, _ | _ :: _, [], _, h, _ => by simp [MeansEach] at h
end

theorem MeansText.rekeyed (pairs : schema.Pairs other rekey)
    (hscope : schema.PairedIn other rekey scope) (source : String) (found found' : GenericType)
    (h : schema.MeansText scope source found)
    (h' : other.MeansText (scope.map (TypeParam.rekeyed rekey)) source found') :
    found' = found.rekeyed rekey ∧ schema.Paired other rekey found.keys := by
  obtain ⟨expr, hparse, hmeans⟩ := h
  obtain ⟨expr', hparse', hmeans'⟩ := h'
  rw [hparse] at hparse'
  cases hparse'
  exact hmeans.rekeyed pairs hscope expr found found' hmeans'

theorem MeansParams.rekeyed (pairs : schema.Pairs other rekey)
    {done params params' : List TypeParam} {declared : List (String × Option String)}
    (hdone : schema.PairedIn other rekey done)
    (h : schema.MeansParams done declared params)
    (h' : other.MeansParams (done.map (TypeParam.rekeyed rekey)) declared params') :
    params' = params.map (TypeParam.rekeyed rekey) ∧ schema.PairedIn other rekey params := by
  induction declared generalizing done params params' with
  | nil =>
      rw [show params = [] from h, show params' = [] from h']
      exact ⟨rfl, List.forall_mem_nil _⟩
  | cons param rest ih =>
      obtain ⟨name, source⟩ := param
      obtain ⟨found, others, rfl, hbound, -, hothers⟩ := h
      obtain ⟨found', others', rfl, hbound', -, hothers'⟩ := h'
      let pending : List TypeParam := ⟨name, none⟩ :: rest.map fun param => ⟨param.1, none⟩
      have hpending : pending.map (TypeParam.rekeyed rekey) = pending := by
        simp [pending, TypeParam.rekeyed]
      have hscope : schema.PairedIn other rekey (done ++ pending) := by
        refine List.forall_mem_append.2 ⟨hdone, fun param hparam bound hbound => ?_⟩
        rw [bound_eq_none_of_pending hparam] at hbound
        cases hbound
      have hbound' : Option.Rel
          (other.MeansText ((done ++ pending).map (TypeParam.rekeyed rekey))) source found' := by
        rw [List.map_append, hpending]
        exact hbound'
      obtain ⟨rfl, hfound⟩ := hbound.eq_map_of (MeansText.rekeyed pairs hscope) hbound'
      have hthis : schema.PairedIn other rekey [⟨name, found⟩] :=
        List.forall_mem_singleton.2 hfound
      have hothers' : other.MeansParams
          ((done ++ [TypeParam.mk name found]).map (TypeParam.rekeyed rekey)) rest others' := by
        rw [List.map_append]
        exact hothers'
      obtain ⟨rfl, hrest⟩ := ih (List.forall_mem_append.2 ⟨hdone, hthis⟩) hothers hothers'
      exact ⟨rfl, List.forall_mem_cons.2 ⟨hfound, hrest⟩⟩

theorem MeansField.rekeyed (pairs : schema.Pairs other rekey)
    (hscope : schema.PairedIn other rekey scope) (declaration : FieldDeclaration)
    (field field' : DeclaredField) (h : schema.MeansField scope declaration field)
    (h' : other.MeansField (scope.map (TypeParam.rekeyed rekey)) declaration field') :
    field' = field.rekeyed rekey ∧ schema.Paired other rekey field.declared.keys := by
  obtain ⟨declared, hmeans, rfl⟩ := h
  obtain ⟨declared', hmeans', rfl⟩ := h'
  obtain ⟨rfl, hkeys⟩ := MeansText.rekeyed pairs hscope _ _ _ hmeans hmeans'
  exact ⟨rfl, hkeys⟩

theorem MeansMethod.rekeyed (pairs : schema.Pairs other rekey)
    (hscope : schema.PairedIn other rekey scope) (declaration : MethodDeclaration)
    (method method' : DeclaredMethod) (h : schema.MeansMethod scope declaration method)
    (h' : other.MeansMethod (scope.map (TypeParam.rekeyed rekey)) declaration method') :
    method' = method.rekeyed rekey ∧
      ∀ declared ∈ method.declared, schema.Paired other rekey declared.keys := by
  obtain ⟨declared, hmeans, rfl⟩ := h
  obtain ⟨declared', hmeans', rfl⟩ := h'
  obtain ⟨rfl, hkeys⟩ := hmeans.eq_map_of (MeansText.rekeyed pairs hscope) hmeans'
  exact ⟨rfl, hkeys⟩

/-- A declaration means the same in both schemas under other keys, and these all have partners. -/
theorem MeansBody.rekeyed (pairs : schema.Pairs other rekey) {declaration : TypeDeclaration}
    {body body' : TypeBody} (h : schema.MeansBody declaration body)
    (h' : other.MeansBody declaration body') :
    body' = body.rekeyed rekey ∧ schema.Paired other rekey body.keys := by
  obtain ⟨params, superclass, interfaces, metadata, fields, methods, constructorParams⟩ := body
  obtain ⟨params', superclass', interfaces', metadata', fields', methods', constructorParams'⟩ :=
    body'
  obtain ⟨hparams, hsuperclass, hinterfaces, rfl, hfields, hmethods, rfl⟩ := h
  obtain ⟨hparams', hsuperclass', hinterfaces', rfl, hfields', hmethods', rfl⟩ := h'
  obtain ⟨rfl, hscope⟩ := MeansParams.rekeyed pairs (List.forall_mem_nil _) hparams hparams'
  obtain ⟨rfl, hsuperclass⟩ :=
    hsuperclass.eq_map_of (MeansText.rekeyed pairs hscope) hsuperclass'
  obtain ⟨rfl, hinterfaces⟩ :=
    hinterfaces.eq_map_of (MeansText.rekeyed pairs hscope) hinterfaces'
  obtain ⟨rfl, hfields⟩ := hfields.eq_map_of (MeansField.rekeyed pairs hscope) hfields'
  obtain ⟨rfl, hmethods⟩ := hmethods.eq_map_of (MeansMethod.rekeyed pairs hscope) hmethods'
  refine ⟨rfl, fun key hkey => ?_⟩
  obtain ⟨declared, hdeclared, hkey⟩ := List.mem_flatMap.1 hkey
  simp only [TypeBody.declaredTypes, List.mem_append, List.mem_filterMap, Option.mem_toList,
    List.mem_map] at hdeclared
  rcases hdeclared with (((⟨param, hparam, hbound⟩ | hmem) | hmem) | ⟨field, hfield, rfl⟩) |
    ⟨method, hmethod, hmem⟩
  · exact hscope param hparam declared hbound key hkey
  · exact hsuperclass declared hmem key hkey
  · exact hinterfaces declared hmem key hkey
  · exact hfields field hfield key hkey
  · exact hmethods method hmethod declared hmem key hkey

/-! ### Schemas of the same declarations -/

theorem rekeyed_of_builtin (hrekey : ∀ key : TypeKey, key.index < builtins.size → rekey key = key)
    {node : TypeNode} (h : builtins.node? key = some node) : node.rekeyed rekey = node := by
  have hkinds : node.kind.rekeyed rekey = node.kind := by
    have hkeys := (builtin_of_node? h).1
    cases hkind : node.kind with
    | primitive boxed =>
        rw [hkind] at hkeys
        rw [TypeKind.rekeyed, hrekey boxed (hkeys boxed List.mem_cons_self)]
    | array component =>
        rw [hkind] at hkeys
        rw [TypeKind.rekeyed, hrekey component (hkeys component List.mem_cons_self)]
    | _ => rfl
  have hkey : rekey node.key = node.key := by
    rw [indexed_builtins.keyed h]
    exact hrekey _ (lt_of_node? h)
  have hbody : node.toTypeBody.rekeyed rekey = node.toTypeBody := by
    obtain ⟨entry, -, rfl⟩ := List.mem_map.1 (List.mem_of_getElem? h)
    simp [TypeBody.rekeyed, TypeParam.rekeyed]
  rw [TypeNode.rekeyed, hkinds, hkey, hbody]

theorem Matches.kind_eq (pairs : schema.Pairs other rekey) (h : schema.Matches other key found)
    {node node' : TypeNode} (hnode : schema.node? key = some node)
    (hnode' : other.node? found = some node')
    (hkind : node.kind = .undeclared ∨ ∃ component, node.kind = .array component)
    (hkind' : node'.kind = .undeclared ∨ ∃ component, node'.kind = .array component) :
    node'.kind = node.kind.rekeyed rekey := by
  have hcomponent := componentOf?_of_node? hnode
  have hcomponent' := componentOf?_of_node? hnode'
  rcases hkind with hkind | ⟨component, hkind⟩ <;>
    rcases hkind' with hkind' | ⟨component', hkind'⟩ <;>
      rw [hkind] at hcomponent ⊢ <;> rw [hkind'] at hcomponent' ⊢
  · rfl
  · obtain ⟨_, hnone, -⟩ := h.symm.exists_component hcomponent'
    rw [hcomponent] at hnone
    cases hnone
  · obtain ⟨_, hnone, -⟩ := h.exists_component hcomponent
    rw [hcomponent'] at hnone
    cases hnone
  · obtain ⟨counterpart, hfound, hmatches⟩ := h.exists_component hcomponent
    rw [TypeKind.rekeyed, pairs.eq hmatches]
    rw [hcomponent'] at hfound
    cases hfound
    rfl

section

variable {types others : List TypeDeclaration} (populated : Populated types types.length schema)
  (populated' : Populated others others.length other)

include populated populated'

theorem matches_builtin (h : key.index < builtins.size) : schema.Matches other key key := by
  obtain ⟨node, hnode⟩ := exists_node_of_lt h
  have hkind : node.kind.component? = none := by
    rw [← componentOf?_of_node? hnode, componentOf?_builtins]
  exact .named (bears_of_node? ((populated.builtin h).trans hnode) hkind)
    (bears_of_node? ((populated'.builtin h).trans hnode) hkind)

theorem matches_declared {place place' : Nat} {declaration : TypeDeclaration}
    (h : types[place]? = some declaration) (h' : others[place']? = some declaration) :
    schema.Matches other (declaredKey place) (declaredKey place') := by
  obtain ⟨_, hnode, -⟩ := populated.declared h
  obtain ⟨_, hnode', -⟩ := populated'.declared h'
  have hkey : schema.Bears (declaredKey place) declaration.name :=
    bears_of_node? hnode declaration.kind.component?_typeKind
  exact .named hkey (bears_of_node? hnode' declaration.kind.component?_typeKind)

theorem pairs_counterpart : schema.Pairs other (schema.counterpart other) where
  eq := fun h => h.counterpart_eq populated'.indexed
  object := matches_builtin populated populated' (by decide +kernel)

/-- What a declaration means in one schema, it means in the other with the counterparts. -/
theorem body_eq_rekeyed {place' : Nat} {declaration : TypeDeclaration} {body : TypeBody}
    (h' : others[place']? = some declaration) (hmeans : schema.MeansBody declaration body) :
    other.node? (declaredKey place') = some ⟨body.rekeyed (schema.counterpart other),
        declaredKey place', declaration.name, declaration.kind.typeKind⟩ ∧
      schema.Paired other (schema.counterpart other) body.keys := by
  obtain ⟨body', hnode, hmeans'⟩ := populated'.declared h'
  obtain ⟨rfl, hkeys⟩ := hmeans.rekeyed (pairs_counterpart populated populated')
    (hmeans' (List.getElem?_eq_some_iff.1 h').1)
  exact ⟨hnode, hkeys⟩

/-- Every type has a partner, if everything that is declared in one schema is in the other. -/
theorem exists_matches (hmem : ∀ declaration ∈ types, declaration ∈ others)
    (h : key.index < schema.size) : ∃ found, schema.Matches other key found := by
  obtain ⟨node, hnode⟩ := exists_node_of_lt h
  have hplace {place : Nat} {declaration : TypeDeclaration}
      (hdeclaration : types[place]? = some declaration) :
      ∃ place', others[place']? = some declaration :=
    List.mem_iff_getElem?.1 (hmem _ (List.mem_of_getElem? hdeclaration))
  rcases populated.node?_cases hnode with ⟨hbuiltin, -⟩ |
    ⟨place, declaration, body, hdeclaration, rfl, -, -⟩ | ⟨-, -, -, place, hlt, owner, howner, hkey⟩
  · exact ⟨key, matches_builtin populated populated' hbuiltin⟩
  · obtain ⟨place', hdeclaration'⟩ := hplace hdeclaration
    exact ⟨_, matches_declared populated populated' hdeclaration hdeclaration'⟩
  · obtain ⟨place', hdeclaration'⟩ := hplace (List.getElem?_eq_getElem hlt)
    obtain ⟨body, hbody, hmeans⟩ := populated.declared (List.getElem?_eq_getElem hlt)
    rw [howner, Option.some.injEq] at hbody
    subst hbody
    exact ⟨_, (body_eq_rekeyed populated populated' hdeclaration' (hmeans hlt)).2 key hkey⟩

theorem Matches.eq_of_builtin (h : schema.Matches other key found)
    (hbuiltin : key.index < builtins.size) : found = key :=
  h.unique populated'.indexed (matches_builtin populated populated' hbuiltin)

/-- A type that is neither built-in nor declared has a partner that is neither. -/
theorem Matches.further (hmem' : ∀ declaration ∈ others, declaration ∈ types)
    (h : schema.Matches other key found) (hfurther : builtins.size + types.length ≤ key.index)
    {node : TypeNode} (hnode : other.node? found = some node) :
    node.toTypeBody = {} ∧
      (node.kind = .undeclared ∨ ∃ component, node.kind = .array component) := by
  rcases populated'.node?_cases hnode with ⟨hbuiltin, -⟩ |
    ⟨place, declaration, -, hdeclaration, rfl, -, -⟩ | ⟨-, hbare, hkind, -⟩
  · rw [h.symm.eq_of_builtin populated' populated hbuiltin] at hfurther
    omega
  · obtain ⟨place', hdeclaration'⟩ :=
      List.mem_iff_getElem?.1 (hmem' _ (List.mem_of_getElem? hdeclaration))
    have hkey := h.symm.unique populated.indexed
      (matches_declared populated' populated hdeclaration hdeclaration')
    have hlt := (List.getElem?_eq_some_iff.1 hdeclaration').1
    rw [hkey] at hfurther
    simp only [declaredKey] at hfurther
    omega
  · exact ⟨hbare, hkind⟩

/-- Partners are the same type under different keys. -/
theorem Matches.node?_eq (hmem : ∀ declaration ∈ types, declaration ∈ others)
    (hmem' : ∀ declaration ∈ others, declaration ∈ types) (h : schema.Matches other key found) :
    other.node? found =
      (schema.node? key).map (TypeNode.rekeyed (schema.counterpart other)) := by
  obtain ⟨node, hnode⟩ := exists_node_of_lt h.lt
  have hfound : schema.counterpart other key = found := h.counterpart_eq populated'.indexed
  rw [hnode, Option.map_some]
  rcases populated.node?_cases hnode with ⟨hbuiltin, hnode'⟩ |
    ⟨place, declaration, body, hdeclaration, rfl, rfl, hmeans⟩ | ⟨hfurther, hbare, hkind, -⟩
  · rw [h.eq_of_builtin populated populated' hbuiltin, populated'.builtin hbuiltin, hnode',
      rekeyed_of_builtin (fun key hkey => ?_) hnode']
    exact (matches_builtin populated populated' hkey).counterpart_eq populated'.indexed
  · obtain ⟨place', hdeclaration'⟩ :=
      List.mem_iff_getElem?.1 (hmem _ (List.mem_of_getElem? hdeclaration))
    have hpartner := h.unique populated'.indexed
      (matches_declared populated populated' hdeclaration hdeclaration')
    have hkind : declaration.kind.typeKind.rekeyed (schema.counterpart other) =
        declaration.kind.typeKind := by
      cases declaration.kind <;> rfl
    rw [TypeNode.rekeyed, hfound, hkind, hpartner]
    exact (body_eq_rekeyed populated populated' hdeclaration' hmeans).1
  -- What neither schema declares has no members on either side, only a name and a kind.
  · obtain ⟨node', hnode'⟩ := exists_node_of_lt h.symm.lt
    obtain ⟨hbare', hkind'⟩ := h.further populated populated' hmem' hfurther hnode'
    have hname : node'.name = node.name := by
      have hnames := h.name_eq populated.indexed populated'.indexed
      rwa [name, hnode', name, hnode] at hnames
    have hkinds := h.kind_eq (pairs_counterpart populated populated') hnode hnode' hkind hkind'
    rw [hnode', Option.some.injEq]
    calc node' = ⟨node'.toTypeBody, node'.key, node'.name, node'.kind⟩ := rfl
      _ = ⟨{}, found, node.name, node.kind.rekeyed (schema.counterpart other)⟩ := by
        rw [hbare', populated'.indexed.keyed hnode', hname, hkinds]
      _ = node.rekeyed (schema.counterpart other) := by
        rw [TypeNode.rekeyed, hbare, populated.indexed.keyed hnode]
        exact congrArg (fun key => (⟨{}, key, _, _⟩ : TypeNode)) hfound.symm

theorem matches_counterpart (hmem : ∀ declaration ∈ types, declaration ∈ others)
    (h : key.index < schema.size) : schema.Matches other key (schema.counterpart other key) := by
  obtain ⟨found, hfound⟩ := exists_matches populated populated' hmem h
  rwa [hfound.counterpart_eq populated'.indexed]

theorem bijOn_counterpart (hmem : ∀ declaration ∈ types, declaration ∈ others)
    (hmem' : ∀ declaration ∈ others, declaration ∈ types) :
    Set.BijOn (schema.counterpart other) {key | key.index < schema.size}
      {key | key.index < other.size} := by
  refine ⟨fun key hkey => ?_, fun key hkey key' hkey' heq => ?_, fun found hfound => ?_⟩
  · exact (matches_counterpart populated populated' hmem hkey).symm.lt
  · have hpartner := (matches_counterpart populated populated' hmem hkey).symm
    rw [heq] at hpartner
    exact hpartner.unique populated.indexed
      (matches_counterpart populated populated' hmem hkey').symm
  · obtain ⟨key, hkey⟩ := exists_matches populated' populated hmem' hfound
    exact ⟨key, hkey.symm.lt, hkey.symm.counterpart_eq populated'.indexed⟩

/-- The array type of a partner is the partner of the array type. -/
theorem Matches.arrayOf?_eq (hmem : ∀ declaration ∈ types, declaration ∈ others)
    (hmem' : ∀ declaration ∈ others, declaration ∈ types) (h : schema.Matches other key found) :
    other.arrayOf? found = (schema.arrayOf? key).map (schema.counterpart other) := by
  have indexed := populated.indexed
  have indexed' := populated'.indexed
  refine Option.ext fun array => ?_
  rw [Option.map_eq_some_iff]
  constructor
  · intro harray
    rw [indexed'.arrayOf?_eq_some_iff] at harray
    obtain ⟨original, horiginal⟩ :=
      exists_matches populated' populated hmem' (lt_of_componentOf? harray)
    obtain ⟨component, hcomponent, hpartner⟩ := horiginal.exists_component harray
    rw [hpartner.unique indexed h.symm] at hcomponent
    exact ⟨original, indexed.arrayOf?_eq_some_iff.2 hcomponent,
      horiginal.symm.counterpart_eq indexed'⟩
  · rintro ⟨original, horiginal, rfl⟩
    rw [indexed.arrayOf?_eq_some_iff] at horiginal
    obtain ⟨component, hcomponent, hpartner⟩ :=
      (matches_counterpart populated populated' hmem
        (lt_of_componentOf? horiginal)).exists_component horiginal
    rwa [indexed'.arrayOf?_eq_some_iff, h.unique indexed' hpartner]

/-- Schemas of the same declarations are isomorphic. -/
theorem isomorphicBy_counterpart (hmem : ∀ declaration ∈ types, declaration ∈ others)
    (hmem' : ∀ declaration ∈ others, declaration ∈ types) :
    schema.IsomorphicBy other (schema.counterpart other) where
  bijective := bijOn_counterpart populated populated' hmem hmem'
  builtin := fun hkey =>
    (matches_builtin populated populated' hkey).counterpart_eq populated'.indexed
  node := fun hkey =>
    (matches_counterpart populated populated' hmem hkey).node?_eq populated populated' hmem hmem'
  array := fun hkey =>
    (matches_counterpart populated populated' hmem hkey).arrayOf?_eq populated populated' hmem
      hmem'

end

end ObjectDocument.Schema
