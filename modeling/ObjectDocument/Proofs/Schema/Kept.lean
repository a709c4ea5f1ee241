import Mathlib.Logic.Function.Basic
import ObjectDocument.Proofs.Schema.Populated

/-!
# Indexes kept beside a schema

A schema looks names and arrays up among its types.  A program would rather keep two indexes beside
the types: one has the type that each name means, and the other the array type of each component.
`Kept` says how they come about, each time a type is added.  They always say what the types say
(`Kept.names_eq`, `Kept.arrays_eq`), and every schema that is built has them
(`Declarations.exists_kept_of_build`).
-/

namespace ObjectDocument

namespace Schema

structure Index where
  names : String → Option TypeKey
  arrays : TypeKey → Option TypeKey

namespace Index

def empty : Index where
  names _ := none
  arrays _ := none

def addName (index : Index) (name : String) (key : TypeKey) : Index :=
  { index with names := Function.update index.names name (some key) }

def addArray (index : Index) (component key : TypeKey) : Index :=
  { index with arrays := Function.update index.arrays component (some key) }

end Index

/-- The indexes that are kept while types are added.  A name goes to the last type that is given it,
and an array type is only added if its component has none. -/
inductive Kept : Schema → Index → Prop where
  | empty : Kept ⟨[]⟩ .empty
  | insert {schema index kind} (name : String) (h : Kept schema index)
      (hkind : kind.component? = none) :
      Kept (schema.insert name kind) (index.addName name ⟨schema.size⟩)
  | insertArray {schema index component} (name : String) (h : Kept schema index)
      (hnew : index.arrays component = none) :
      Kept (schema.insert name (.array component))
        ((index.addName name ⟨schema.size⟩).addArray component ⟨schema.size⟩)
  | fill {schema index} (key : TypeKey) (body : TypeBody) (h : Kept schema index) :
      Kept (schema.fill key body) index

variable {schema : Schema} {index : Index} {name : String} {kind : TypeKind}
  {key component : TypeKey} {types : List TypeDeclaration}

/-! ### What is found after a change -/

theorem lookup?_insert (schema : Schema) (name : String) (kind : TypeKind) (found : String) :
    (schema.insert name kind).lookup? found =
      if name = found then some ⟨schema.size⟩ else schema.lookup? found := by
  simp only [lookup?, insert, List.reverse_append, List.reverse_singleton, List.singleton_append,
    List.find?_cons]
  by_cases h : name = found <;> simp [h]

theorem arrayOf?_insert (schema : Schema) (name : String) (kind : TypeKind)
    (component : TypeKey) : (schema.insert name kind).arrayOf? component =
      (schema.arrayOf? component).or
        (if kind = .array component then some ⟨schema.size⟩ else none) := by
  simp only [arrayOf?, insert, List.find?_append, Option.map_or, List.find?_singleton]
  by_cases h : kind = .array component <;> simp [h]

def tags (schema : Schema) : List (String × TypeKind × TypeKey) :=
  schema.nodes.map fun node => (node.name, node.kind, node.key)

theorem tags_fill (schema : Schema) (key : TypeKey) (body : TypeBody) :
    (schema.fill key body).tags = schema.tags := by
  refine List.ext_getElem? fun place => ?_
  simp only [tags, List.getElem?_map, getElem?_fill]
  by_cases h : key.index = place
  · rw [if_pos h, Option.map_map]
    rfl
  · rw [if_neg h]

theorem lookup?_eq_tags : schema.lookup? name =
    (schema.tags.reverse.find? (·.1 = name)).map (·.2.2) := by
  rw [tags, ← List.map_reverse, List.find?_map, Option.map_map]
  rfl

theorem arrayOf?_eq_tags : schema.arrayOf? component =
    (schema.tags.find? (·.2.1 = .array component)).map (·.2.2) := by
  rw [tags, List.find?_map, Option.map_map]
  rfl

/-! ### The indexes say what the types say -/

theorem Kept.names_eq (kept : schema.Kept index) : index.names = schema.lookup? := by
  induction kept with
  | empty => rfl
  | @insert schema index kind name _ _ ih | @insertArray schema index component name _ _ ih =>
      funext found
      rw [lookup?_insert, ← ih]
      by_cases h : name = found
      · rw [if_pos h, ← h]
        exact Function.update_self ..
      · rw [if_neg h]
        exact Function.update_of_ne (Ne.symm h) ..
  | fill key body _ ih =>
      funext found
      rw [ih, lookup?_eq_tags, lookup?_eq_tags, tags_fill]

theorem Kept.arrays_eq (kept : schema.Kept index) : index.arrays = schema.arrayOf? := by
  induction kept with
  | empty => rfl
  | @insert schema index kind name _ hkind ih =>
      funext component
      have hother : kind ≠ .array component := by
        rintro rfl
        cases hkind
      rw [arrayOf?_insert, if_neg hother, Option.or_none, ← ih]
      rfl
  | @insertArray schema index component name _ hnew ih =>
      funext other
      rw [arrayOf?_insert, ← ih]
      by_cases h : component = other
      · rw [if_pos (congrArg _ h), ← h, hnew, Option.none_or]
        exact Function.update_self ..
      · rw [if_neg (by simpa using h), Option.or_none]
        exact Function.update_of_ne (Ne.symm h) ..
  | fill key body _ ih =>
      funext component
      rw [ih, arrayOf?_eq_tags, arrayOf?_eq_tags, tags_fill]

/-! ### Built schemas -/

/-- Looking names and arrays up keeps the indexes. -/
theorem stable_kept : Stable fun schema => ∃ index, schema.Kept index where
  internName name := by
    rintro before key after ⟨index, kept⟩ h
    rcases run_internName_eq_ok_iff.1 h with ⟨-, rfl⟩ | ⟨-, -, rfl⟩
    · exact ⟨index, kept⟩
    · exact ⟨_, kept.insert name rfl⟩
  internArray component := by
    rintro before key after ⟨index, kept⟩ h
    rcases run_internArray_eq_ok_iff.1 h with ⟨-, rfl⟩ | ⟨hnew, -, rfl⟩
    · exact ⟨index, kept⟩
    · exact ⟨_, kept.insertArray _ (by rw [kept.arrays_eq, hnew])⟩

def addBuiltin (schema : Schema) (entry : String × TypeKind × List String) : Schema :=
  (schema.insert entry.1 entry.2.1).fill ⟨schema.size⟩
    { params := entry.2.2.map fun param => { name := param } }

theorem builtins_eq_foldl : builtins = builtinTypes.foldl addBuiltin ⟨[]⟩ := by
  decide +kernel

theorem exists_kept_foldl {entries : List (String × TypeKind × List String)}
    (hkinds : ∀ entry ∈ entries, entry.2.1.component? = none) (kept : schema.Kept index) :
    ∃ index, (entries.foldl addBuiltin schema).Kept index := by
  induction entries generalizing schema index with
  | nil => exact ⟨index, kept⟩
  | cons entry rest ih =>
      rw [List.forall_mem_cons] at hkinds
      exact ih hkinds.2 ((kept.insert entry.1 hkinds.1).fill _ _)

theorem exists_kept_builtins : ∃ index, builtins.Kept index := by
  rw [builtins_eq_foldl]
  exact exists_kept_foldl (by decide +kernel) .empty

theorem exists_kept_of_ofTypes (h : ofTypes types = .ok schema) :
    ∃ index, schema.Kept index := by
  obtain ⟨named, hnamed, h⟩ := Except.bind_eq_ok_iff.1 h
  obtain ⟨resolved, hresolved, h⟩ := Except.bind_eq_ok_iff.1 h
  obtain ⟨-, -, hsame⟩ := Except.bind_eq_ok_iff.1 h
  cases hsame
  have hdeclared : ∃ index, named.Kept index := by
    refine Except.foldlM_induction (P := fun _ schema => ∃ index, schema.Kept index)
      exists_kept_builtins ?_ hnamed
    rintro done declaration rest before after - ⟨index, kept⟩ hstep
    obtain ⟨-, rfl⟩ := declare_eq_ok_iff.1 hstep
    exact ⟨_, kept.insert declaration.name (DeclarationKind.component?_typeKind _)⟩
  refine Except.foldlM_induction (P := fun _ schema => ∃ index, schema.Kept index)
    hdeclared ?_ hresolved
  rintro done ⟨declaration, place⟩ rest before after - hbefore hstep
  obtain ⟨⟨body, between⟩, hbody, hfill⟩ := Except.bind_eq_ok_iff.1 hstep
  cases hfill
  obtain ⟨index, kept⟩ :=
    keeps_resolveBody stable_kept declaration before body between hbefore hbody
  exact ⟨index, kept.fill _ body⟩

end Schema

/-- Beside every schema that is built, the indexes are kept from the first type on, and the schema
looks names and arrays up as they do. -/
theorem Declarations.exists_kept_of_build {declarations : Declarations} {schema : Schema}
    (h : declarations.build = .ok schema) :
    ∃ index, schema.Kept index ∧ schema.lookup? = index.names ∧
      schema.arrayOf? = index.arrays := by
  obtain ⟨index, kept⟩ := Schema.exists_kept_of_ofTypes (ofTypes_of_build h)
  exact ⟨index, kept, kept.names_eq.symm, kept.arrays_eq.symm⟩

end ObjectDocument
