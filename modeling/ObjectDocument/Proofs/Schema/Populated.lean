import ObjectDocument.Proofs.Schema.Resolved

/-!
# How a schema is populated

All declared types are there before any has members, and then they get their members one after the
other.  `Populated` is what holds meanwhile: which types lie where, that those that have members
have the ones that their declarations mean, and that all further types are there because some member
refers to them.  Once all declarations are looked up, this describes the whole schema
(`populated_of_ofTypes`).
-/

namespace ObjectDocument.Schema

/-- The schema of declared types, of which the first `done` have members. -/
structure Populated (types : List TypeDeclaration) (done : Nat) (schema : Schema) : Prop where
  indexed : schema.Indexed
  size : builtins.size + types.length ≤ schema.size
  builtin : ∀ {key : TypeKey}, key.index < builtins.size → schema.node? key = builtins.node? key
  declared : ∀ {place : Nat} {declaration : TypeDeclaration}, types[place]? = some declaration →
    ∃ body : TypeBody, schema.node? (declaredKey place) =
        some ⟨body, declaredKey place, declaration.name, declaration.kind.typeKind⟩ ∧
      (place < done → schema.MeansBody declaration body)
  added : ∀ {key : TypeKey} {node : TypeNode}, builtins.size + types.length ≤ key.index →
    schema.node? key = some node → node.toTypeBody = {} ∧
      (node.kind = .undeclared ∨ ∃ component, node.kind = .array component) ∧
      ∃ place < done, ∃ owner, schema.node? (declaredKey place) = some owner ∧
        key ∈ owner.toTypeBody.keys

variable {schema before after : Schema} {types : List TypeDeclaration}
  {declaration : TypeDeclaration} {key : TypeKey} {place : Nat}

theorem Populated.lt_of_builtin {done : Nat} (populated : Populated types done schema)
    (h : key.index < builtins.size) : key.index < schema.size :=
  Nat.lt_of_lt_of_le h (Nat.le_trans (Nat.le_add_right _ _) populated.size)

theorem declaredKey_inj {other : Nat} : declaredKey place = declaredKey other ↔ place = other := by
  simp [declaredKey]

theorem node?_insert_of_lt {name : String} {kind : TypeKind} (h : key.index < schema.size) :
    (schema.insert name kind).node? key = schema.node? key :=
  List.getElem?_append_left h

theorem node?_insert_self {name : String} {kind : TypeKind} :
    (schema.insert name kind).node? ⟨schema.size⟩ = some ⟨{}, ⟨schema.size⟩, name, kind⟩ := by
  simp [node?, insert, size]

theorem node?_fill_self {body : TypeBody} {node : TypeNode} (h : schema.node? key = some node) :
    (schema.fill key body).node? key = some { node with toTypeBody := body } := by
  rw [node?, getElem?_fill, if_pos rfl, show schema.nodes[key.index]? = some node from h,
    Option.map_some]

theorem node?_fill_of_ne {body : TypeBody} {other : TypeKey} (h : other ≠ key) :
    (schema.fill key body).node? other = schema.node? other := by
  rw [node?, getElem?_fill, if_neg fun hindex => h (by cases other; cases key; simp_all)]
  rfl

theorem builtin_of_node? {node : TypeNode} (h : builtins.node? key = some node) :
    (∀ other ∈ node.kind.keys, other.index < builtins.size) ∧ node.declaredTypes = [] ∧
      ∀ param ∈ node.params, param.bound = none := by
  have hall : ∀ node ∈ builtins.nodes, (∀ other ∈ node.kind.keys, other.index < builtins.size) ∧
      node.declaredTypes = [] ∧ ∀ param ∈ node.params, param.bound = none := by decide +kernel
  exact hall node (List.mem_of_getElem? h)

/-! ### The names -/

theorem populated_builtins : Populated [] 0 builtins where
  indexed := indexed_builtins
  size := Nat.le_refl _
  builtin := fun _ => rfl
  declared := fun h => by simp at h
  added := fun hkey hnode => absurd (lt_of_node? hnode) (Nat.not_lt.2 hkey)

theorem declare_eq_ok_iff :
    before.declare declaration = .ok after ↔ before.lookup? declaration.name = none ∧
      after = before.insert declaration.name declaration.kind.typeKind := by
  unfold declare
  cases before.lookup? declaration.name with
  | none => simp [eq_comm]
  | some key => simp

/-- A type is declared behind all others, as long as there are no further types. -/
theorem Populated.declare (populated : Populated types 0 before)
    (hsize : before.size = builtins.size + types.length)
    (h : before.declare declaration = .ok after) :
    Populated (types ++ [declaration]) 0 after ∧
      after.size = builtins.size + (types ++ [declaration]).length := by
  obtain ⟨hfree, rfl⟩ := declare_eq_ok_iff.1 h
  have hsize' : (before.insert declaration.name declaration.kind.typeKind).size =
      builtins.size + (types ++ [declaration]).length := by
    rw [size_insert, hsize, List.length_append, List.length_singleton]
    rfl
  refine ⟨?_, hsize'⟩
  exact
    { indexed := populated.indexed.insert_named hfree (by simp)
      size := Nat.le_of_eq hsize'.symm
      builtin := fun hkey => by
        rw [node?_insert_of_lt (Nat.lt_of_lt_of_le hkey (by omega)), populated.builtin hkey]
      declared := by
        intro place found hfound
        rcases Nat.lt_or_ge place types.length with hlt | hge
        · rw [List.getElem?_append_left hlt] at hfound
          rw [node?_insert_of_lt (by simp only [declaredKey]; omega)]
          obtain ⟨body, hnode, -⟩ := populated.declared hfound
          exact ⟨body, hnode, fun h => absurd h (Nat.not_lt_zero _)⟩
        · rw [List.getElem?_append_right hge, List.getElem?_singleton] at hfound
          by_cases hplace : place - types.length = 0
          · rw [if_pos hplace, Option.some.injEq] at hfound
            subst hfound
            have hkey : declaredKey place = ⟨before.size⟩ := by
              simp only [declaredKey, TypeKey.mk.injEq]
              omega
            rw [hkey]
            exact ⟨{}, node?_insert_self, fun h => absurd h (Nat.not_lt_zero _)⟩
          · rw [if_neg hplace] at hfound
            cases hfound
      added := fun hkey hnode => absurd (lt_of_node? hnode) (Nat.not_lt.2 (hsize' ▸ hkey)) }

theorem populated_of_foldlM_declare (h : types.foldlM declare builtins = .ok schema) :
    Populated types 0 schema :=
  (Except.foldlM_induction
    (P := fun done schema => Populated done 0 schema ∧ schema.size = builtins.size + done.length)
    ⟨populated_builtins, rfl⟩
    (fun _ _ _ _ _ _ hbefore hstep => hbefore.1.declare hbefore.2 hstep) h).1

/-! ### The members -/

/-- The next type gets the members that its declaration means. -/
theorem Populated.resolveMembers (populated : Populated types place before)
    (hplace : types[place]? = some declaration)
    (h : before.resolveMembers declaration (declaredKey place) = .ok after) :
    Populated types (place + 1) after := by
  obtain ⟨⟨body, resolved⟩, hbody, h⟩ := Except.bind_eq_ok_iff.1 h
  cases h
  obtain ⟨grown, hmeans⟩ := grown_of_resolveBody populated.indexed hbody
  have hheads : before.heads <+: (resolved.fill (declaredKey place) body).heads := by
    rw [heads_fill]
    exact grown.heads_isPrefix
  have hmeans' : (resolved.fill (declaredKey place) body).MeansBody declaration body :=
    hmeans.of_isPrefix (by simp)
  have hlength : place < types.length := (List.getElem?_eq_some_iff.1 hplace).1
  have hnode {key : TypeKey} (hkey : key ≠ declaredKey place) (hlt : key.index < before.size) :
      (resolved.fill (declaredKey place) body).node? key = before.node? key := by
    rw [node?_fill_of_ne hkey, grown.node?_eq hlt]
  have hself : (resolved.fill (declaredKey place) body).node? (declaredKey place) =
      some ⟨body, declaredKey place, declaration.name, declaration.kind.typeKind⟩ := by
    obtain ⟨_, hfound, -⟩ := populated.declared hplace
    exact node?_fill_self ((grown.node?_eq (lt_of_node? hfound)).trans hfound)
  exact
    { indexed := grown.indexed.fill _ _
      size := Nat.le_trans populated.size (size_le_of_isPrefix hheads)
      builtin := by
        intro key hkey
        refine (hnode ?_ (populated.lt_of_builtin hkey)).trans (populated.builtin hkey)
        rintro rfl
        simp only [declaredKey] at hkey
        omega
      declared := by
        intro other found hfound
        by_cases hother : other = place
        · subst hother
          rw [hplace, Option.some.injEq] at hfound
          subst hfound
          exact ⟨body, hself, fun _ => hmeans'⟩
        · obtain ⟨members, hmembers, hbefore⟩ := populated.declared hfound
          refine ⟨members, (hnode ?_ (lt_of_node? hmembers)).trans hmembers, fun hdone => ?_⟩
          · rwa [Ne, declaredKey_inj]
          · exact (hbefore (by omega)).of_isPrefix hheads
      added := by
        intro key node hkey hfound
        have hne : key ≠ declaredKey place := by
          rintro rfl
          simp only [declaredKey] at hkey
          omega
        -- The type was there already, or it was added while the members were looked up.
        rcases Nat.lt_or_ge key.index before.size with hlt | hge
        · rw [hnode hne hlt] at hfound
          obtain ⟨hbare, hkind, owner, howner, found, hmembers, hmem⟩ :=
            populated.added hkey hfound
          refine ⟨hbare, hkind, owner, by omega, found, ?_, hmem⟩
          rw [hnode (by rw [Ne, declaredKey_inj]; omega) (lt_of_node? hmembers), hmembers]
        · rw [node?_fill_of_ne hne] at hfound
          obtain ⟨hmem, hbare, hkind⟩ := grown.added hge hfound
          exact ⟨hbare, hkind, place, Nat.lt_succ_self _, _, hself, hmem⟩ }

theorem populated_of_foldlM_resolveMembers (populated : Populated types 0 before)
    (h : types.zipIdx.foldlM (fun schema entry =>
      schema.resolveMembers entry.1 (declaredKey entry.2)) before = .ok after) :
    Populated types types.length after := by
  have hlast := Except.foldlM_induction (P := fun done schema => Populated types done.length schema)
    populated (fun done entry rest before after hentries hbefore hstep => ?_) h
  · rwa [List.length_zipIdx] at hlast
  · have hentry : types.zipIdx[done.length]? = some entry := by
      rw [← hentries, List.getElem?_append_right (Nat.le_refl _), Nat.sub_self]
      rfl
    rw [List.getElem?_zipIdx] at hentry
    obtain ⟨declaration, hplace, rfl⟩ := Option.map_eq_some_iff.1 hentry
    rw [List.length_append, List.length_singleton]
    simp only [Nat.zero_add] at hstep
    exact hbefore.resolveMembers hplace hstep

/-- A type of a schema is built-in, or it is declared and has the members that its declaration
means, or it has no members and is referred to by a declared type. -/
theorem Populated.node?_cases (populated : Populated types types.length schema) {node : TypeNode}
    (h : schema.node? key = some node) :
    (key.index < builtins.size ∧ builtins.node? key = some node) ∨
    (∃ place declaration body, types[place]? = some declaration ∧ key = declaredKey place ∧
      node = ⟨body, declaredKey place, declaration.name, declaration.kind.typeKind⟩ ∧
      schema.MeansBody declaration body) ∨
    (builtins.size + types.length ≤ key.index ∧ node.toTypeBody = {} ∧
      (node.kind = .undeclared ∨ ∃ component, node.kind = .array component) ∧
      ∃ place < types.length, ∃ owner, schema.node? (declaredKey place) = some owner ∧
        key ∈ owner.toTypeBody.keys) := by
  rcases Nat.lt_or_ge key.index builtins.size with hbuiltin | hbuiltin
  · exact .inl ⟨hbuiltin, populated.builtin hbuiltin ▸ h⟩
  rcases Nat.lt_or_ge key.index (builtins.size + types.length) with hlt | hge
  · obtain ⟨place, hkey⟩ := Nat.exists_eq_add_of_le hbuiltin
    have hplace : place < types.length := by omega
    obtain rfl : key = declaredKey place := congrArg TypeKey.mk hkey
    obtain ⟨body, hbody, hmeans⟩ := populated.declared (List.getElem?_eq_getElem hplace)
    rw [hbody, Option.some.injEq] at h
    exact .inr (.inl ⟨place, _, body, List.getElem?_eq_getElem hplace, rfl, h.symm, hmeans hplace⟩)
  · exact .inr (.inr ⟨hge, populated.added hge h⟩)

theorem populated_of_ofTypes (h : ofTypes types = .ok schema) :
    Populated types types.length schema := by
  obtain ⟨named, hnamed, h⟩ := Except.bind_eq_ok_iff.1 h
  obtain ⟨resolved, hresolved, h⟩ := Except.bind_eq_ok_iff.1 h
  obtain ⟨_, -, h⟩ := Except.bind_eq_ok_iff.1 h
  cases h
  exact populated_of_foldlM_resolveMembers (populated_of_foldlM_declare hnamed) hresolved

/-! ### The check -/

theorem check_eq_ok_iff {node : TypeNode} :
    schema.check node = .ok () ↔ schema.hierarchyFault? node = none := by
  unfold check
  cases schema.hierarchyFault? node <;> simp

theorem forM_check_eq_ok_iff {count : Nat} :
    ((schema.nodes.drop builtins.size).take count).forM schema.check = .ok () ↔
      ∀ place < count, ∀ node, schema.node? (declaredKey place) = some node →
        schema.hierarchyFault? node = none := by
  have hplace (place : Nat) (hlt : place < count) :
      ((schema.nodes.drop builtins.size).take count)[place]? =
        schema.node? (declaredKey place) := by
    rw [List.getElem?_take_of_lt hlt, List.getElem?_drop]
    rfl
  simp only [Except.forM_eq_ok_iff, check_eq_ok_iff]
  constructor
  · intro h place hlt node hnode
    exact h node (List.mem_of_getElem? ((hplace place hlt).trans hnode))
  · intro h node hmem
    obtain ⟨place, hnode⟩ := List.mem_iff_getElem?.1 hmem
    have hlt : place < count := by
      have := (List.getElem?_eq_some_iff.1 hnode).1
      rw [List.length_take] at this
      omega
    exact h place hlt node ((hplace place hlt).symm.trans hnode)

theorem hierarchyFault?_of_ofTypes {node : TypeNode} (h : ofTypes types = .ok schema)
    (hplace : place < types.length) (hnode : schema.node? (declaredKey place) = some node) :
    schema.hierarchyFault? node = none := by
  obtain ⟨_, -, h⟩ := Except.bind_eq_ok_iff.1 h
  obtain ⟨_, -, h⟩ := Except.bind_eq_ok_iff.1 h
  obtain ⟨_, hchecked, h⟩ := Except.bind_eq_ok_iff.1 h
  cases h
  exact forM_check_eq_ok_iff.1 hchecked place hplace node hnode

end ObjectDocument.Schema
