import Mathlib.Algebra.Order.BigOperators.Group.List
import Mathlib.Algebra.Order.Group.Nat
import ObjectDocument.Proofs.Renaming.Lookup
import ObjectDocument.Schema.Build

/-!
# Declarations with renamed type parameters

The type parameters of a declaration are renamed in its list of parameters and in all its texts.  If
the new names differ from each other and from every type that the declaration mentions
(`TypeDeclaration.Renames`), then declarations that are accepted are accepted after renaming, as the
schema with renamed parameters (`Renames.exists_build`).  New names that differ where it matters are
first continued to a function that is injective on all names (`exists_injective_eq`).
-/

namespace ObjectDocument

namespace Schema

variable {renames : Renaming} {names written : String → String}

/-! ### The check of a renamed schema -/

mutual
theorem arityFault?_rename (schema : Schema) : (declared : GenericType) →
    (schema.rename renames).arityFault? (declared.rename names) = schema.arityFault? declared
  | .applied base args => by
      have hnil : GenericType.renameList names args ≠ [] ↔ args ≠ [] := by
        rw [GenericType.renameList_eq_map]
        simp
      have hlength : (GenericType.renameList names args).length = args.length := by
        rw [GenericType.renameList_eq_map, List.length_map]
      simp only [GenericType.rename, arityFault?, paramsOf_rename, List.length_map, kind?_rename,
        name_rename, hnil, hlength, arityFaultIn?_rename schema args]
  | .var name => rfl
  | .array component erased => by
      rw [GenericType.rename, arityFault?, arityFault?, arityFault?_rename schema component]

theorem arityFaultIn?_rename (schema : Schema) : (declared : List GenericType) →
    (schema.rename renames).arityFaultIn? (GenericType.renameList names declared) =
      schema.arityFaultIn? declared
  | [] => rfl
  | first :: rest => by
      rw [GenericType.renameList, arityFaultIn?, arityFaultIn?, arityFault?_rename schema first,
        arityFaultIn?_rename schema rest]
end

theorem superclassFault?_rename (schema : Schema) (node : TypeNode) :
    (schema.rename renames).superclassFault? (node.rename names) =
      schema.superclassFault? node := by
  have hsuperclass : (node.rename names).superclass = node.superclass.map (·.rename names) := rfl
  have hinterface : (node.rename names).isInterface = node.isInterface := rfl
  unfold superclassFault?
  rw [hsuperclass, hinterface]
  cases node.superclass with
  | none => rfl
  | some declared => simp [arityFault?_rename]

/-- The fault of an interface shows the declared type, so it is renamed with it. -/
theorem interfaceFault?_rename_eq_none_iff (schema : Schema) (declared : GenericType) :
    (schema.rename renames).interfaceFault? (declared.rename names) = none ↔
      schema.interfaceFault? declared = none := by
  have hkind : (schema.rename renames).kind? = schema.kind? := funext kind?_rename
  simp only [interfaceFault?, GenericType.base?_rename, hkind, arityFault?_rename]
  by_cases h : declared.base?.bind schema.kind? = some .interfaceType
  · rw [if_pos h, if_pos h]
  · rw [if_neg h, if_neg h]
    simp

theorem cycleFault?_rename (schema : Schema) (node : TypeNode) :
    (schema.rename renames).cycleFault? (node.rename names) = schema.cycleFault? node := by
  have hrepeated (visited : List TypeKey) (steps : Nat) (start : Option TypeKey) :
      (schema.rename renames).repeatedAncestor? visited steps start =
        schema.repeatedAncestor? visited steps start := by
    induction steps generalizing visited start with
    | zero => rfl
    | succ steps ih => cases start <;> simp [repeatedAncestor?, ih]
  simp [cycleFault?, hrepeated, TypeNode.rename]

theorem hierarchyFault?_rename_eq_none_iff (schema : Schema) (node : TypeNode) :
    (schema.rename renames).hierarchyFault? (node.rename names) = none ↔
      schema.hierarchyFault? node = none := by
  have hinterfaces : (node.rename names).interfaces = node.interfaces.map (·.rename names) := rfl
  have hfields : (node.rename names).fields = node.fields.map (·.rename names) := rfl
  have hfield (field : DeclaredField) :
      (schema.rename renames).fieldFault? (field.rename names) = schema.fieldFault? field := by
    simp [fieldFault?, DeclaredField.rename, arityFault?_rename]
  simp only [hierarchyFault?, Option.or_eq_none_iff, superclassFault?_rename, cycleFault?_rename,
    hinterfaces, hfields, List.findSome?_eq_none_iff, List.forall_mem_map, hfield,
    interfaceFault?_rename_eq_none_iff]

theorem check_rename_eq_ok_iff (schema : Schema) (node : TypeNode) :
    (schema.rename renames).check (node.rename names) = .ok () ↔ schema.check node = .ok () := by
  have hnone (schema : Schema) (node : TypeNode) :
      schema.check node = .ok () ↔ schema.hierarchyFault? node = none := by
    unfold check
    cases schema.hierarchyFault? node <;> simp
  rw [hnone, hnone, hierarchyFault?_rename_eq_none_iff]

/-! ### The schema of renamed declarations -/

theorem declare_follows {declaration other : TypeDeclaration}
    (hname : other.name = declaration.name) (hkind : other.kind = declaration.kind)
    {before after : Schema}
    (h : before.declare declaration = .ok after) :
    (before.rename renames).declare other = .ok (after.rename renames) := by
  unfold declare at h ⊢
  rw [lookup?_rename, hname, hkind]
  by_cases hmeans : (before.lookup? declaration.name).isSome
  · rw [if_pos hmeans] at h
    cases h
  · rw [if_neg hmeans] at h ⊢
    cases h
    rw [insert_rename]

/-- The members of a type are looked up to what they were, under its new names. -/
theorem resolveMembers_follows {declaration : TypeDeclaration} {key : TypeKey}
    (reads : declaration.Reads (renames.within key) written) {before after : Schema}
    (h : before.resolveMembers declaration key = .ok after) :
    (before.rename renames).resolveMembers (declaration.rename (renames.within key) written) key =
      .ok (after.rename renames) := by
  obtain ⟨⟨body, resolved⟩, hbody, h⟩ := Except.bind_eq_ok_iff.1 h
  cases h
  refine Except.bind_eq_ok_iff.2 ⟨_, resolveBody_follows (renames.injective_within key) reads
    before body resolved hbody, ?_⟩
  rw [fill_rename]
  rfl

theorem foldlM_follows {α β : Type} {entries : List α} {counterpart : α → β}
    {step : Schema → α → Except MappingError Schema}
    {other : Schema → β → Except MappingError Schema}
    (hstep : ∀ entry ∈ entries, ∀ before after, step before entry = .ok after →
      other (before.rename renames) (counterpart entry) = .ok (after.rename renames))
    {before after : Schema} (h : entries.foldlM step before = .ok after) :
    (entries.map counterpart).foldlM other (before.rename renames) =
      .ok (after.rename renames) := by
  induction entries generalizing before with
  | nil =>
      cases h
      rfl
  | cons entry entries ih =>
      rw [List.foldlM_cons] at h
      rw [List.map_cons, List.foldlM_cons]
      obtain ⟨between, hfirst, h⟩ := Except.bind_eq_ok_iff.1 h
      exact Except.bind_eq_ok_iff.2 ⟨_, hstep entry List.mem_cons_self before between hfirst,
        ih (fun entry hentry => hstep entry (List.mem_cons_of_mem _ hentry)) h⟩

end Schema

namespace Declarations

open Schema

def renameAt (place : Nat) (names written : String → String) (declarations : Declarations) :
    Declarations :=
  { declarations with types := declarations.types.modify place (.rename names written) }

def counterpart (place : Nat) (names written : String → String) (entry : TypeDeclaration × Nat) :
    TypeDeclaration :=
  if entry.2 = place then entry.1.rename names written else entry.1

theorem zipIdx_types_renameAt (declarations : Declarations) (place : Nat)
    (names written : String → String) :
    (declarations.renameAt place names written).types.zipIdx =
      declarations.types.zipIdx.map fun entry =>
        (counterpart place names written entry, entry.2) := by
  refine List.ext_getElem? fun other => ?_
  simp only [renameAt, List.getElem?_zipIdx, List.getElem?_modify, List.getElem?_map, counterpart]
  cases declarations.types[other]? with
  | none => rfl
  | some declaration =>
      by_cases h : place = other
      · simp [h]
      · simp [h, Ne.symm h]

theorem types_renameAt (declarations : Declarations) (place : Nat)
    (names written : String → String) :
    (declarations.renameAt place names written).types =
      declarations.types.zipIdx.map (counterpart place names written) := by
  rw [← List.zipIdx_map_fst 0 (renameAt place names written declarations).types,
    zipIdx_types_renameAt, List.map_map]
  rfl

variable {declarations : Declarations} {schema : Schema} {place : Nat}
  {declaration : TypeDeclaration}

theorem declare_renameAt (hkey : renames.key = declaredKey place) {named : Schema}
    (h : declarations.types.foldlM declare builtins = .ok named) :
    (declarations.renameAt place renames.name written).types.foldlM declare builtins =
      .ok (named.rename renames) := by
  have hbuiltins : builtins.rename renames = builtins := by
    have hout : builtins.nodes.length ≤ renames.key.index := by
      rw [hkey]
      exact Nat.le_add_right _ _
    rw [Schema.rename, List.modify_eq_self hout]
  rw [← List.zipIdx_map_fst 0 declarations.types, List.foldlM_map] at h
  rw [types_renameAt, ← hbuiltins]
  refine foldlM_follows (fun entry _ before after hdeclare => ?_) h
  refine declare_follows ?_ ?_ hdeclare
  all_goals
    unfold counterpart
    by_cases hentry : entry.2 = place
    · rw [if_pos hentry]
      rfl
    · rw [if_neg hentry]

/-- The members of all types are looked up to what they were, those at the place under new names. -/
theorem resolve_renameAt (hkey : renames.key = declaredKey place)
    (hplace : declarations.types[place]? = some declaration)
    (reads : declaration.Reads renames.name written) {before after : Schema}
    (h : declarations.types.zipIdx.foldlM (fun schema entry =>
      schema.resolveMembers entry.1 (declaredKey entry.2)) before = .ok after) :
    (declarations.renameAt place renames.name written).types.zipIdx.foldlM (fun schema entry =>
      schema.resolveMembers entry.1 (declaredKey entry.2)) (before.rename renames) =
        .ok (after.rename renames) := by
  rw [zipIdx_types_renameAt]
  refine foldlM_follows (fun entry hentry before after hmembers => ?_) h
  unfold counterpart
  by_cases hhere : entry.2 = place
  · have hwithin : renames.within (declaredKey entry.2) = renames.name := by
      simp [Renaming.within, hhere, hkey]
    have hfound : entry.1 = declaration := by
      have hat := List.mem_zipIdx_iff_getElem?.1 hentry
      rw [hhere, hplace] at hat
      exact (Option.some.inj hat).symm
    rw [if_pos hhere, ← hwithin]
    exact resolveMembers_follows (by rwa [hfound, hwithin]) hmembers
  · have hwithin : renames.within (declaredKey entry.2) = id := by
      have hother : declaredKey entry.2 ≠ declaredKey place := by simpa [declaredKey] using hhere
      simp [Renaming.within, hkey, hother]
    have hreads : entry.1.Reads (renames.within (declaredKey entry.2)) id := by
      rw [hwithin]
      exact entry.1.reads_id
    have hfollows := resolveMembers_follows hreads hmembers
    rw [if_neg hhere]
    rwa [hwithin, TypeDeclaration.rename_id] at hfollows

theorem check_rename {count : Nat}
    (h : ((schema.nodes.drop builtins.size).take count).forM schema.check = .ok ()) :
    (((schema.rename renames).nodes.drop builtins.size).take count).forM
      (schema.rename renames).check = .ok () := by
  refine Except.forM_eq_ok_iff.2 fun node hnode => ?_
  obtain ⟨index, hindex⟩ := List.mem_iff_getElem?.1 hnode
  rw [List.getElem?_take] at hindex
  by_cases hlt : index < count
  · rw [if_pos hlt, List.getElem?_drop] at hindex
    have hnode : (schema.rename renames).node? (declaredKey index) = some node := hindex
    rw [node?_rename] at hnode
    obtain ⟨found, hfound, rfl⟩ := Option.map_eq_some_iff.1 hnode
    refine (check_rename_eq_ok_iff schema found).2 (Except.forM_eq_ok_iff.1 h found ?_)
    refine List.mem_of_getElem? (i := index) ?_
    rw [List.getElem?_take_of_lt hlt, List.getElem?_drop]
    exact hfound
  · rw [if_neg hlt] at hindex
    cases hindex

/-- Declarations that are accepted are accepted with other names for the type parameters of one of
them. -/
theorem build_rename (h : declarations.build = .ok schema)
    (hplace : declarations.types[place]? = some declaration)
    (injective : Function.Injective names) (reads : declaration.Reads names written) :
    (declarations.renameAt place names written).build =
      .ok (schema.rename ⟨declaredKey place, names, injective⟩) := by
  let renames : Renaming := ⟨declaredKey place, names, injective⟩
  let other := declarations.renameAt place names written
  change other.build = .ok (schema.rename renames)
  unfold build at h ⊢
  have hrepeated : other.repeated = declarations.repeated := rfl
  have hlength : other.types.length = declarations.types.length := by
    rw [types_renameAt, List.length_map, List.length_zipIdx]
  rw [hrepeated]
  cases hnone : declarations.repeated with
  | cons name repeated =>
      rw [hnone] at h
      cases h
  | nil =>
      rw [hnone] at h
      obtain ⟨named, hnamed, h⟩ := Except.bind_eq_ok_iff.1 h
      obtain ⟨resolved, hresolved, h⟩ := Except.bind_eq_ok_iff.1 h
      obtain ⟨_, hchecked, h⟩ := Except.bind_eq_ok_iff.1 h
      cases h
      have hkey : renames.key = declaredKey place := rfl
      refine Except.bind_eq_ok_iff.2 ⟨_, declare_renameAt hkey hnamed,
        Except.bind_eq_ok_iff.2 ⟨_, resolve_renameAt hkey hplace reads hresolved,
          Except.bind_eq_ok_iff.2 ⟨(), ?_, rfl⟩⟩⟩
      rw [hlength]
      exact check_rename hchecked

end Declarations

/-! ### Names that differ -/

/-- Names that differ where it matters can be continued to names that all differ. -/
theorem exists_injective_eq {domain : List String} {names : String → String}
    (h : ∀ name ∈ domain, ∀ other ∈ domain, names name = names other → name = other) :
    ∃ all : String → String, Function.Injective all ∧ ∀ name ∈ domain, all name = names name := by
  -- All other names are made longer than any that is taken.
  let front := List.replicate ((domain.map fun name => (names name).toList.length).sum + 1) 'x'
  let longer (name : String) : String := String.ofList (front ++ name.toList)
  have htaken {name other : String} (hname : name ∈ domain) : names name ≠ longer other := by
    intro heq
    have hlength := congrArg (fun text : String => text.toList.length) heq
    have hle := List.single_le_sum (l := domain.map fun name => (names name).toList.length)
      (by simp) _ (List.mem_map.2 ⟨name, hname, rfl⟩)
    simp only [longer, front, String.toList_ofList, List.length_append, List.length_replicate]
      at hlength
    omega
  refine ⟨fun name => if name ∈ domain then names name else longer name, fun name other heq => ?_,
    fun name hname => if_pos hname⟩
  simp only at heq
  by_cases hname : name ∈ domain
  · by_cases hother : other ∈ domain
    · rw [if_pos hname, if_pos hother] at heq
      exact h name hname other hother heq
    · rw [if_pos hname, if_neg hother] at heq
      exact absurd heq (htaken hname)
  · by_cases hother : other ∈ domain
    · rw [if_neg hname, if_pos hother] at heq
      exact absurd heq.symm (htaken hother)
    · rw [if_neg hname, if_neg hother] at heq
      have hlists := congrArg String.toList heq
      simp only [longer, String.toList_ofList, List.append_cancel_left_eq] at hlists
      exact String.toList_inj.1 hlists

namespace TypeDeclaration

def typeNames (declaration : TypeDeclaration) : List String :=
  (declaration.sources.flatMap fun source =>
    ((TypeExpr.parse source).toOption.map TypeExpr.mentioned).getD []).filter
      (· ∉ declaration.paramNames)

def renamed (declaration : TypeDeclaration) (new : String → String) (name : String) : String :=
  if name ∈ declaration.paramNames then new name else name

/-- New names for the parameters of a declaration, together with its texts under these names. -/
structure Renames (declaration : TypeDeclaration) (new written : String → String) : Prop where
  distinct : ∀ name ∈ declaration.paramNames, ∀ other ∈ declaration.paramNames,
    new name = new other → name = other
  fresh : ∀ name ∈ declaration.paramNames, new name ∉ declaration.typeNames
  reads : ∀ source ∈ declaration.sources, (TypeExpr.parse (written source)).toOption =
    (TypeExpr.parse source).toOption.map (TypeExpr.rename (declaration.renamed new))

variable {declaration : TypeDeclaration} {new written : String → String}

theorem mem_typeNames {source name : String} {expr : TypeExpr}
    (hsource : source ∈ declaration.sources) (hparse : TypeExpr.parse source = .ok expr)
    (hname : name ∈ expr.mentioned)
    (hparam : name ∉ declaration.paramNames) : name ∈ declaration.typeNames := by
  refine List.mem_filter.2 ⟨List.mem_flatMap.2 ⟨source, hsource, ?_⟩, by simpa using hparam⟩
  rw [hparse]
  exact hname

/-- The names of a renamed declaration differ: those of its parameters, and those of the types that
it mentions. -/
theorem Renames.renamed_injOn (renames : declaration.Renames new written) :
    ∀ name ∈ declaration.paramNames ++ declaration.typeNames,
      ∀ other ∈ declaration.paramNames ++ declaration.typeNames,
        declaration.renamed new name = declaration.renamed new other → name = other := by
  intro name hname other hother heq
  have hfixed {name : String} (hname : name ∈ declaration.typeNames) :
      declaration.renamed new name = name :=
    if_neg (by simpa using (List.mem_filter.1 hname).2)
  rcases List.mem_append.1 hname with hname | hname <;>
    rcases List.mem_append.1 hother with hother | hother
  · rw [renamed, renamed, if_pos hname, if_pos hother] at heq
    exact renames.distinct name hname other hother heq
  · rw [renamed, if_pos hname, hfixed hother] at heq
    exact absurd (heq ▸ hother) (renames.fresh name hname)
  · rw [hfixed hname, renamed, if_pos hother] at heq
    exact absurd (heq ▸ hname) (renames.fresh other hother)
  · rwa [hfixed hname, hfixed hother] at heq

theorem Renames.exists_injective (renames : declaration.Renames new written) :
    ∃ names : String → String, Function.Injective names ∧ declaration.Reads names written ∧
      declaration.rename names written = declaration.rename new written := by
  obtain ⟨names, injective, hnames⟩ := exists_injective_eq renames.renamed_injOn
  refine ⟨names, injective, fun source hsource expr hparse => ⟨?_, fun name hname hparam => ?_⟩, ?_⟩
  · have hreads := renames.reads source hsource
    rw [hparse] at hreads
    have hsame : expr.rename (declaration.renamed new) = expr.rename names := by
      refine TypeExpr.rename_congr expr fun name hname => (hnames name ?_).symm
      by_cases hparam : name ∈ declaration.paramNames
      · exact List.mem_append_left _ hparam
      · exact List.mem_append_right _ (mem_typeNames hsource hparse hname hparam)
    cases hwritten : TypeExpr.parse (written source) with
    | error cause =>
        rw [hwritten] at hreads
        cases hreads
    | ok found =>
        rw [hwritten] at hreads
        rw [Option.some.inj hreads, hsame]
  · rw [hnames name (List.mem_append_right _ (mem_typeNames hsource hparse hname hparam)), renamed,
      if_neg hparam]
  · have hparams : declaration.params.map (fun param => (names param.1, param.2.map written)) =
        declaration.params.map fun param => (new param.1, param.2.map written) := by
      refine List.map_congr_left fun param hparam => ?_
      have hmem : param.1 ∈ declaration.paramNames := List.mem_map_of_mem hparam
      rw [hnames param.1 (List.mem_append_left _ hmem), renamed, if_pos hmem]
    simp only [rename, hparams]

end TypeDeclaration

theorem TypeDeclaration.Renames.exists_build {declarations : Declarations} {schema : Schema}
    {place : Nat} {declaration : TypeDeclaration} {new written : String → String}
    (renames : declaration.Renames new written)
    (hplace : declarations.types[place]? = some declaration)
    (h : declarations.build = .ok schema) :
    ∃ renamed : Renaming,
      (declarations.renameAt place new written).build = .ok (schema.rename renamed) := by
  obtain ⟨names, injective, reads, hsame⟩ := renames.exists_injective
  have htypes : declarations.types.modify place (.rename new written) =
      declarations.types.modify place (.rename names written) := by
    refine List.ext_getElem? fun other => ?_
    rw [List.getElem?_modify, List.getElem?_modify]
    by_cases hother : place = other
    · rw [← hother, hplace]
      simp [hsame]
    · simp [hother]
  refine ⟨⟨Schema.declaredKey place, names, injective⟩, ?_⟩
  rw [← Declarations.build_rename h hplace injective reads, Declarations.renameAt, htypes]
  rfl

end ObjectDocument
