import ObjectDocument.Proofs.Schema.Kept
import ObjectDocument.Proofs.Schema.Matched

/-!
# Declarations in another order

The order of declarations decides which keys types get, and nothing else.  Names can be declared if
they differ and are not built-in, and members can be looked up if they mean something in some
schema; neither depends on the order.  The schemas that two orders lead to are isomorphic, so the
check finds nothing wrong with one if it finds nothing wrong with the other
(`Declarations.build_perm`).
-/

namespace ObjectDocument

namespace Schema

variable {schema other before after : Schema} {types others : List TypeDeclaration}

/-! ### Each stage in another order -/

theorem lookup?_insert_eq_none_iff {name found : String} {kind : TypeKind} :
    (schema.insert name kind).lookup? found = none ↔
      schema.lookup? found = none ∧ name ≠ found := by
  rw [lookup?_insert]
  by_cases h : name = found <;> simp [h]

/-- Names can be declared in turn if they differ and mean nothing yet. -/
theorem exists_foldlM_declare_iff : (∃ after, types.foldlM declare before = .ok after) ↔
    (types.map (·.name)).Nodup ∧
      ∀ declaration ∈ types, before.lookup? declaration.name = none := by
  induction types generalizing before with
  | nil => exact ⟨fun _ => ⟨List.nodup_nil, List.forall_mem_nil _⟩, fun _ => ⟨before, rfl⟩⟩
  | cons declaration rest ih =>
      have hstep : (∃ after, (declaration :: rest).foldlM declare before = .ok after) ↔
          before.lookup? declaration.name = none ∧ ∃ after, rest.foldlM declare
            (before.insert declaration.name declaration.kind.typeKind) = .ok after := by
        simp only [List.foldlM_cons, Except.bind_eq_ok_iff, declare_eq_ok_iff]
        constructor
        · rintro ⟨after, _, ⟨hnone, rfl⟩, hrest⟩
          exact ⟨hnone, after, hrest⟩
        · rintro ⟨hnone, after, hrest⟩
          exact ⟨after, _, ⟨hnone, rfl⟩, hrest⟩
      simp only [hstep, ih, lookup?_insert_eq_none_iff, List.map_cons, List.nodup_cons,
        List.forall_mem_cons, List.mem_map]
      constructor
      · rintro ⟨hnone, hnodup, hrest⟩
        exact ⟨⟨fun ⟨found, hfound, hname⟩ => (hrest found hfound).2 hname.symm, hnodup⟩, hnone,
          fun found hfound => (hrest found hfound).1⟩
      · rintro ⟨⟨hfresh, hnodup⟩, hnone, hrest⟩
        exact ⟨hnone, hnodup, fun found hfound =>
          ⟨hrest found hfound, fun hname => hfresh ⟨found, hfound, hname.symm⟩⟩⟩

/-- Members can be looked up in turn if they can be in every schema. -/
theorem exists_foldlM_resolveMembers {entries : List (TypeDeclaration × Nat)}
    (h : ∀ entry ∈ entries, ∀ before : Schema,
      ∃ body after, (resolveBody entry.1).run before = .ok (body, after)) :
    ∃ after, entries.foldlM (fun schema entry =>
      schema.resolveMembers entry.1 (declaredKey entry.2)) before = .ok after := by
  induction entries generalizing before with
  | nil => exact ⟨before, rfl⟩
  | cons entry rest ih =>
      obtain ⟨body, resolved, hbody⟩ := h entry List.mem_cons_self before
      have hrest : ∃ after, rest.foldlM (fun schema entry =>
          schema.resolveMembers entry.1 (declaredKey entry.2))
            (resolved.fill (declaredKey entry.2) body) = .ok after :=
        ih fun found hfound => h found (List.mem_cons_of_mem _ hfound)
      obtain ⟨after, hrest⟩ := hrest
      refine ⟨after, ?_⟩
      rw [List.foldlM_cons]
      exact Except.bind_eq_ok_iff.2 ⟨_, Except.bind_eq_ok_iff.2 ⟨_, hbody, rfl⟩, hrest⟩

theorem forM_check_of_populated (populated : Populated types types.length schema)
    (populated' : Populated others others.length other)
    (hmem : ∀ declaration, declaration ∈ types ↔ declaration ∈ others)
    (h : ∀ place < types.length, ∀ node, schema.node? (declaredKey place) = some node →
      schema.hierarchyFault? node = none) :
    ∀ place < others.length, ∀ node, other.node? (declaredKey place) = some node →
      other.hierarchyFault? node = none := by
  intro place hplace node hnode
  have iso := isomorphicBy_counterpart populated populated' (fun _ => (hmem _).1)
    fun _ => (hmem _).2
  have iso' := isomorphicBy_counterpart populated' populated (fun _ => (hmem _).2)
    fun _ => (hmem _).1
  have hdeclaration := List.getElem?_eq_getElem hplace
  obtain ⟨place', hdeclaration'⟩ :=
    List.mem_iff_getElem?.1 ((hmem _).2 (List.mem_of_getElem? hdeclaration))
  have hpartner := (matches_declared populated populated' hdeclaration' hdeclaration).counterpart_eq
    populated'.indexed
  obtain ⟨body, horiginal, -⟩ := populated.declared hdeclaration'
  have hrekeyed := iso.node (lt_of_node? horiginal)
  rw [hpartner, hnode, horiginal, Option.map_some, Option.some.injEq] at hrekeyed
  rw [hrekeyed]
  exact iso.hierarchyFault?_eq_none (fun hnode => populated.key_lt hnode)
    (Nat.le_antisymm iso'.size_le iso.size_le) horiginal
    (h place' (List.getElem?_eq_some_iff.1 hdeclaration').1 _ horiginal)

/-- Declarations that are accepted are accepted in every order. -/
theorem exists_ofTypes_of_perm (hperm : types.Perm others) (h : ofTypes types = .ok schema) :
    ∃ other, ofTypes others = .ok other := by
  have populated := populated_of_ofTypes h
  obtain ⟨named, hnamed, h⟩ := Except.bind_eq_ok_iff.1 h
  obtain ⟨resolved, hresolved, h⟩ := Except.bind_eq_ok_iff.1 h
  obtain ⟨_, hchecked, h⟩ := Except.bind_eq_ok_iff.1 h
  cases h
  obtain ⟨hnodup, hfree⟩ := exists_foldlM_declare_iff.1 ⟨named, hnamed⟩
  obtain ⟨named', hnamed'⟩ := exists_foldlM_declare_iff.2 ⟨(hperm.map _).nodup_iff.1 hnodup,
    fun declaration hmem => hfree declaration (hperm.mem_iff.2 hmem)⟩
  -- Every declaration means something in the first schema, so it can be looked up in any.
  have hmembers : ∀ entry ∈ others.zipIdx, ∀ before : Schema,
      ∃ body after, (resolveBody entry.1).run before = .ok (body, after) := by
    intro entry hentry before
    obtain ⟨place, hplace⟩ := List.mem_iff_getElem?.1
      (hperm.mem_iff.2 (List.fst_mem_of_mem_zipIdx hentry))
    obtain ⟨body, -, hmeans⟩ := populated.declared hplace
    exact (hmeans (List.getElem?_eq_some_iff.1 hplace).1).exists_run before
  obtain ⟨resolved', hresolved'⟩ : ∃ resolved', others.zipIdx.foldlM (fun schema entry =>
      schema.resolveMembers entry.1 (declaredKey entry.2)) named' = .ok resolved' :=
    exists_foldlM_resolveMembers hmembers
  have populated' := populated_of_foldlM_resolveMembers (populated_of_foldlM_declare hnamed')
    hresolved'
  have hchecked' := forM_check_of_populated populated populated' (fun _ => hperm.mem_iff)
    (forM_check_eq_ok_iff.1 hchecked)
  exact ⟨resolved', Except.bind_eq_ok_iff.2 ⟨named', hnamed', Except.bind_eq_ok_iff.2
    ⟨resolved', hresolved', Except.bind_eq_ok_iff.2
      ⟨(), forM_check_eq_ok_iff.2 hchecked', rfl⟩⟩⟩⟩

end Schema

namespace Declarations

open Schema

variable {types reordered : List TypeDeclaration}

theorem ofList_eq (h : (types.map (·.name)).Nodup) : ofList types = { types := types } := by
  suffices hfold : ∀ (rest done : List TypeDeclaration), ((done ++ rest).map (·.name)).Nodup →
      rest.foldl define { types := done } = { types := done ++ rest } from hfold types [] h
  intro rest
  induction rest with
  | nil => simp
  | cons declaration rest ih =>
      intro done hnodup
      have hfresh : contains { types := done } declaration.name = false := by
        rw [contains, List.any_eq_false]
        intro found hfound hname
        rw [List.map_append, List.nodup_append] at hnodup
        exact hnodup.2.2 _ (List.mem_map_of_mem hfound) _ (List.mem_map_of_mem List.mem_cons_self)
          (by simpa using hname)
      rw [List.foldl_cons, define, hfresh]
      simpa using ih (done ++ [declaration]) (by simpa using hnodup)

theorem build_ofList (h : (types.map (·.name)).Nodup) :
    (ofList types).build = ofTypes types := by
  rw [ofList_eq h]
  rfl

theorem isOk_build_of_perm (hnodup : (types.map (·.name)).Nodup) (hperm : types.Perm reordered)
    (h : (ofList types).build.isOk) : (ofList reordered).build.isOk := by
  rw [build_ofList ((hperm.map _).nodup_iff.1 hnodup)]
  have hbuild := build_eq_schema h
  rw [build_ofList hnodup] at hbuild
  obtain ⟨other, hother⟩ := exists_ofTypes_of_perm hperm hbuild
  rw [hother]
  rfl

/-- Declarations of different names are accepted in every order or in none, and the schemas that
two orders lead to are isomorphic. -/
theorem build_perm (hnodup : (types.map (·.name)).Nodup) (hperm : types.Perm reordered) :
    ((ofList types).build.isOk ↔ (ofList reordered).build.isOk) ∧
      ∀ schema other, (ofList types).build = .ok schema → (ofList reordered).build = .ok other →
        ∃ rekey, schema.IsomorphicBy other rekey := by
  have hnodup' := (hperm.map _).nodup_iff.1 hnodup
  refine ⟨⟨isOk_build_of_perm hnodup hperm, isOk_build_of_perm hnodup' hperm.symm⟩,
    fun schema other h h' => ?_⟩
  rw [build_ofList hnodup] at h
  rw [build_ofList hnodup'] at h'
  exact ⟨_, isomorphicBy_counterpart (populated_of_ofTypes h) (populated_of_ofTypes h')
    (fun _ => hperm.mem_iff.1) fun _ => hperm.mem_iff.2⟩

end Declarations

def Declarations.shipments : List TypeDeclaration :=
  [ { name := "Shipment", superclass := some "Record<Shipment>", interfaces := ["Tracked"],
      fields := [{ name := "crates", type := "[Crate]" }, { name := "owner", type := "Owner" }] },
    { name := "Record", params := [("R", some "Record<R>")],
      fields := [{ name := "history", type := "[[R]]" }] },
    { name := "Tracked", kind := .interfaceType,
      methods := [{ name := "getOwners", shape := .getter, type := some "[Owner]" }] }]

/-- In the opposite order all keys are others, of declared types and of those that were added. -/
theorem Declarations.build_perm_shipments :
    (ofList shipments.reverse).build.isOk ∧
      ∃ rekey, (ofList shipments).schema.IsomorphicBy (ofList shipments.reverse).schema rekey ∧
        (ofList shipments).schema ≠ (ofList shipments.reverse).schema := by
  have hbuild : (ofList shipments).build.isOk := by decide +kernel
  have hperm : shipments.Perm shipments.reverse := shipments.reverse_perm.symm
  obtain ⟨hiff, hiso⟩ := build_perm (by decide) hperm
  have hreversed := hiff.1 hbuild
  obtain ⟨rekey, iso⟩ := hiso _ _ (build_eq_schema hbuild) (build_eq_schema hreversed)
  exact ⟨hreversed, rekey, iso, by decide +kernel⟩

end ObjectDocument
