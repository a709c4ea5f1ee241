import ObjectDocument.Proofs.Schema.Coherent
import ObjectDocument.Schema.Build

/-!
# Built schemas are coherent

While a schema is built, types are added at the end, and the declared types alone are given members.
`Laid` says where the types of such a schema lie: the built-in types first, then the declared ones,
and then types without members.  Every declared type is checked at last, so what `Coherent` asks of
a type holds of the declared types by the check, and of all others because they have no superclass
and no interfaces (`Declarations.coherent`).
-/

namespace ObjectDocument

/-- A step on a schema keeps a property of schemas, if it does not fail. -/
def SchemaM.Keeps {α : Type} (holds : Schema → Prop) (step : SchemaM α) : Prop :=
  ∀ before a after, holds before → step.run before = .ok (a, after) → holds after

namespace SchemaM.Keeps

variable {α β : Type} {holds : Schema → Prop}

theorem pure (a : α) : SchemaM.Keeps holds (pure a : SchemaM α) := by
  intro before b after hbefore h
  cases h
  exact hbefore

theorem throw (cause : MappingError) : SchemaM.Keeps holds (throw cause : SchemaM α) := by
  intro before a after _ h
  cases h

theorem lift (outcome : Except MappingError α) :
    SchemaM.Keeps holds (StateT.lift outcome : SchemaM α) := by
  intro before a after hbefore h
  obtain ⟨b, -, h⟩ := Except.bind_eq_ok_iff.1 h
  cases h
  exact hbefore

theorem bind {step : SchemaM α} {next : α → SchemaM β} (hstep : SchemaM.Keeps holds step)
    (hnext : ∀ a, SchemaM.Keeps holds (next a)) : SchemaM.Keeps holds (step >>= next) := by
  intro before b after hbefore h
  rw [StateT.run_bind] at h
  obtain ⟨⟨a, between⟩, hfirst, hrest⟩ := Except.bind_eq_ok_iff.1 h
  exact hnext a between b after (hstep before a between hbefore hfirst) hrest

theorem mapM {step : α → SchemaM β} (as : List α) (hstep : ∀ a, SchemaM.Keeps holds (step a)) :
    SchemaM.Keeps holds (as.mapM step) := by
  induction as with
  | nil => exact pure []
  | cons a as ih =>
      rw [List.mapM_cons]
      exact (hstep a).bind fun _ => ih.bind fun _ => pure _

theorem option_mapM {step : α → SchemaM β} (given : Option α)
    (hstep : ∀ a, SchemaM.Keeps holds (step a)) : SchemaM.Keeps holds (given.mapM step) := by
  cases given with
  | none => exact pure none
  | some a => exact (hstep a).bind fun _ => pure _

end SchemaM.Keeps

namespace Schema

structure Stable (holds : Schema → Prop) : Prop where
  internName (name : String) : SchemaM.Keeps holds (internName name)
  internArray (component : TypeKey) : SchemaM.Keeps holds (internArray component)

variable {holds : Schema → Prop}

mutual
theorem keeps_resolve (stable : Stable holds) (scope : List TypeParam) :
    (expr : TypeExpr) → SchemaM.Keeps holds (resolve scope expr)
  | .named name args => by
      rw [resolve]
      by_cases hscope : scope.any (·.name = name)
      · rw [if_pos hscope]
        by_cases hargs : args.isEmpty
        · rw [if_pos hargs]
          exact .pure _
        · rw [if_neg hargs]
          exact .throw _
      · rw [if_neg hscope]
        exact (stable.internName name).bind fun _ =>
          (keeps_resolveList stable scope args).bind fun _ => .pure _
  | .array component => by
      rw [resolve]
      exact (keeps_resolve stable scope component).bind fun _ =>
        (stable.internArray _).bind fun _ => .pure _

theorem keeps_resolveList (stable : Stable holds) (scope : List TypeParam) :
    (exprs : List TypeExpr) → SchemaM.Keeps holds (resolveList scope exprs)
  | [] => by
      rw [resolveList]
      exact .pure _
  | expr :: rest => by
      rw [resolveList]
      exact (keeps_resolve stable scope expr).bind fun _ =>
        (keeps_resolveList stable scope rest).bind fun _ => .pure _
end

theorem keeps_resolveText (stable : Stable holds) (scope : List TypeParam) (source : String) :
    SchemaM.Keeps holds (resolveText scope source) :=
  .bind (.lift _) fun expr => keeps_resolve stable scope expr

theorem keeps_resolveBounds (stable : Stable holds) (type : String) (done : List TypeParam)
    (params : List (String × Option String)) :
    SchemaM.Keeps holds (resolveBounds type done params) := by
  induction params generalizing done with
  | nil => exact .pure _
  | cons param rest ih =>
      rw [resolveBounds]
      refine .bind (.option_mapM _ fun source => keeps_resolveText stable _ source) fun bound => ?_
      by_cases hvariable : bound.any (·.isVariable)
      · rw [if_pos hvariable]
        exact .bind (.throw _) fun _ => ih _
      · rw [if_neg hvariable]
        exact ih _

theorem keeps_resolveBody (stable : Stable holds) (declaration : TypeDeclaration) :
    SchemaM.Keeps holds (resolveBody declaration) := by
  have htext (scope : List TypeParam) (source : String) :
      SchemaM.Keeps holds (resolveText scope source) := keeps_resolveText stable scope source
  refine .bind (keeps_resolveBounds stable _ _ _) fun params =>
    .bind (.option_mapM _ (htext params)) fun superclass =>
    .bind (.mapM _ (htext params)) fun interfaces =>
    .bind (.mapM _ fun field => ?_) fun fields =>
    .bind (.mapM _ fun method => ?_) fun methods => .pure _
  · exact .bind (htext params field.type) fun _ => .pure _
  · exact .bind (.option_mapM _ (htext params)) fun _ => .pure _

/-- Where the types lie when a number of names are declared: after the built-in types, which are the
only primitives, and before all types without members. -/
structure Laid (declared : Nat) (schema : Schema) : Prop where
  size : builtins.size + declared ≤ schema.size
  keyed : ∀ (place : Nat) (node : TypeNode), schema.nodes[place]? = some node → node.key = ⟨place⟩
  builtin : ∀ place < builtins.size, schema.nodes[place]? = builtins.nodes[place]?
  primitive : ∀ (place : Nat) (node : TypeNode), builtins.size ≤ place →
    schema.nodes[place]? = some node → ∀ boxed, node.kind ≠ .primitive boxed
  bare : ∀ (place : Nat) (node : TypeNode), builtins.size + declared ≤ place →
    schema.nodes[place]? = some node → node.superclass = none ∧ node.interfaces = []

theorem laid_builtins : Laid 0 builtins where
  size := Nat.le_refl _
  keyed := by
    intro place node hnode
    have hplace : place < builtins.nodes.length := (List.getElem?_eq_some_iff.1 hnode).1
    have hall : ∀ place < builtins.nodes.length,
        (builtins.nodes[place]?.map (·.key)) = some ⟨place⟩ := by decide +kernel
    have hkey := hall place hplace
    rw [hnode] at hkey
    exact Option.some.inj hkey
  builtin := fun _ _ => rfl
  primitive := by
    intro place node hplace hnode
    have hlength : place < builtins.nodes.length := (List.getElem?_eq_some_iff.1 hnode).1
    exact absurd hlength (Nat.not_lt.2 hplace)
  bare := by
    intro place node hplace hnode
    have hlength : place < builtins.nodes.length := (List.getElem?_eq_some_iff.1 hnode).1
    simp only [Schema.size] at hplace
    omega

variable {declared : Nat} {schema : Schema}

theorem getElem?_insert {name : String} {kind : TypeKind} {place : Nat} {node : TypeNode}
    (h : (schema.insert name kind).nodes[place]? = some node) :
    schema.nodes[place]? = some node ∨
      (place = schema.size ∧ node = { key := ⟨schema.size⟩, name, kind }) := by
  rw [insert] at h
  by_cases hplace : place < schema.nodes.length
  · rw [List.getElem?_append_left hplace] at h
    exact .inl h
  · rw [List.getElem?_append_right (Nat.le_of_not_lt hplace), List.getElem?_singleton] at h
    by_cases heq : place - schema.nodes.length = 0
    · rw [if_pos heq] at h
      cases h
      exact .inr ⟨by unfold Schema.size; omega, rfl⟩
    · rw [if_neg heq] at h
      cases h

theorem size_insert (schema : Schema) (name : String) (kind : TypeKind) :
    (schema.insert name kind).size = schema.size + 1 := by
  simp [insert, Schema.size]

theorem Laid.insert (laid : Laid declared schema) (name : String) {kind : TypeKind}
    (hkind : ∀ boxed, kind ≠ .primitive boxed) : Laid declared (schema.insert name kind) where
  size := by
    rw [size_insert]
    exact Nat.le_succ_of_le laid.size
  keyed := by
    intro place node hnode
    rcases getElem?_insert hnode with hnode | ⟨rfl, rfl⟩
    · exact laid.keyed place node hnode
    · rfl
  builtin := by
    intro place hplace
    rw [← laid.builtin place hplace, Schema.insert, List.getElem?_append_left]
    have hsize := laid.size
    unfold Schema.size at hsize hplace
    omega
  primitive := by
    intro place node hplace hnode
    rcases getElem?_insert hnode with hnode | ⟨rfl, rfl⟩
    · exact laid.primitive place node hplace hnode
    · exact hkind
  bare := by
    intro place node hplace hnode
    rcases getElem?_insert hnode with hnode | ⟨rfl, rfl⟩
    · exact laid.bare place node hplace hnode
    · exact ⟨rfl, rfl⟩

theorem stable_laid (declared : Nat) : Stable (Laid declared) where
  internName name := by
    intro before key after laid h
    rcases run_internName_eq_ok_iff.1 h with ⟨-, rfl⟩ | ⟨-, -, rfl⟩
    · exact laid
    · exact laid.insert name (by simp)
  internArray component := by
    intro before key after laid h
    rcases run_internArray_eq_ok_iff.1 h with ⟨-, rfl⟩ | ⟨-, -, rfl⟩
    · exact laid
    · exact laid.insert _ (by simp)

theorem getElem?_fill {key : TypeKey} {body : TypeBody} {place : Nat} :
    (schema.fill key body).nodes[place]? = if key.index = place then
      schema.nodes[place]?.map fun node => { node with toTypeBody := body }
    else schema.nodes[place]? := by
  rw [fill, List.getElem?_modify]
  by_cases h : key.index = place
  · rw [if_pos h]
    cases schema.nodes[place]? <;> simp [h]
  · rw [if_neg h]
    cases schema.nodes[place]? <;> simp [h]

theorem Laid.fill (laid : Laid declared schema) {place : Nat} (hplace : place < declared)
    (body : TypeBody) : Laid declared (schema.fill (declaredKey place) body) where
  size := by
    unfold Schema.fill Schema.size
    rw [List.length_modify]
    exact laid.size
  keyed := by
    intro other node hnode
    rw [getElem?_fill] at hnode
    by_cases heq : (declaredKey place).index = other
    · rw [if_pos heq] at hnode
      obtain ⟨found, hfound, rfl⟩ := Option.map_eq_some_iff.1 hnode
      exact laid.keyed other found hfound
    · rw [if_neg heq] at hnode
      exact laid.keyed other node hnode
  builtin := by
    intro other hother
    have hindex : (declaredKey place).index = builtins.size + place := rfl
    rw [getElem?_fill, if_neg (by omega), laid.builtin other hother]
  primitive := by
    intro other node hother hnode
    rw [getElem?_fill] at hnode
    by_cases heq : (declaredKey place).index = other
    · rw [if_pos heq] at hnode
      obtain ⟨found, hfound, rfl⟩ := Option.map_eq_some_iff.1 hnode
      exact laid.primitive other found hother hfound
    · rw [if_neg heq] at hnode
      exact laid.primitive other node hother hnode
  bare := by
    intro other node hother hnode
    have hindex : (declaredKey place).index = builtins.size + place := rfl
    rw [getElem?_fill, if_neg (by omega)] at hnode
    exact laid.bare other node hother hnode

theorem laid_declare {types : List TypeDeclaration} {before after : Schema}
    (laid : Laid declared before) (hsize : before.size = builtins.size + declared)
    (h : types.foldlM declare before = .ok after) :
    Laid (declared + types.length) after ∧
      after.size = builtins.size + (declared + types.length) := by
  induction types generalizing before declared with
  | nil =>
      cases h
      exact ⟨laid, hsize⟩
  | cons type types ih =>
      rw [List.foldlM_cons] at h
      obtain ⟨between, hbetween, h⟩ := Except.bind_eq_ok_iff.1 h
      unfold declare at hbetween
      by_cases hmeans : (before.lookup? type.name).isSome
      · rw [if_pos hmeans] at hbetween
        cases hbetween
      · rw [if_neg hmeans] at hbetween
        cases hbetween
        have hkind : ∀ boxed, type.kind.typeKind ≠ .primitive boxed := by
          cases type.kind <;> simp [DeclarationKind.typeKind]
        have hinserted := laid.insert type.name hkind
        have hsize' : (before.insert type.name type.kind.typeKind).size =
            builtins.size + (declared + 1) := by
          rw [size_insert, hsize]
          omega
        have hlaid : Laid (declared + 1) (before.insert type.name type.kind.typeKind) :=
          { hinserted with
            size := Nat.le_of_eq hsize'.symm
            bare := by
              intro place node hplace hnode
              have hlength := (List.getElem?_eq_some_iff.1 hnode).1
              unfold Schema.size at hsize' hplace
              omega }
        have := ih hlaid hsize' h
        rw [List.length_cons, show declared + (types.length + 1) = declared + 1 + types.length by
          omega]
        exact this

theorem laid_resolveMembers {entries : List (TypeDeclaration × Nat)} {before after : Schema}
    (laid : Laid declared before) (hentries : ∀ entry ∈ entries, entry.2 < declared)
    (h : entries.foldlM (fun schema (declaration, place) =>
      schema.resolveMembers declaration (declaredKey place)) before = .ok after) :
    Laid declared after := by
  induction entries generalizing before with
  | nil =>
      cases h
      exact laid
  | cons entry entries ih =>
      rw [List.foldlM_cons] at h
      obtain ⟨between, hbetween, h⟩ := Except.bind_eq_ok_iff.1 h
      obtain ⟨⟨body, resolved⟩, hbody, hfill⟩ := Except.bind_eq_ok_iff.1 hbetween
      cases hfill
      refine ih (Laid.fill ?_ (hentries entry List.mem_cons_self) body)
        (fun entry hentry => hentries entry (List.mem_cons_of_mem _ hentry)) h
      exact keeps_resolveBody (stable_laid declared) entry.1 before body resolved laid hbody

structure Sound (schema : Schema) (node : TypeNode) : Prop where
  superclass : ∀ declared, node.superclass = some declared →
    ∃ base args, declared = .applied base args ∧ schema.kind? base = some .classType
  interfaces : ∀ declared ∈ node.interfaces,
    ∃ base args, declared = .applied base args ∧ schema.kind? base = some .interfaceType
  acyclic : schema.repeatedAncestor? [node.key] (schema.size + 1) node.superclassKey? = none

theorem exists_of_base? {declared : GenericType} {base : TypeKey} (h : declared.base? = some base) :
    ∃ args, declared = .applied base args := by
  cases declared with
  | applied found args =>
      cases h
      exact ⟨args, rfl⟩
  | var name => cases h
  | array component erased => cases h

theorem sound_of_hierarchyFault? {node : TypeNode} (h : schema.hierarchyFault? node = none) :
    schema.Sound node := by
  simp only [hierarchyFault?, Option.or_eq_none_iff] at h
  obtain ⟨hsuperclass, hinterfaces, -, hcycle⟩ := h
  refine ⟨fun declared hdeclared => ?_, fun declared hdeclared => ?_, ?_⟩
  · simp only [superclassFault?, hdeclared] at hsuperclass
    cases hbase : declared.base? with
    | none => simp [hbase] at hsuperclass
    | some base =>
        obtain ⟨args, rfl⟩ := exists_of_base? hbase
        refine ⟨base, args, rfl, ?_⟩
        by_cases hinterface : node.isInterface
        · simp [hbase, hinterface] at hsuperclass
        · by_cases hkind : schema.kind? base = some .classType
          · exact hkind
          · simp [hbase, hinterface, hkind] at hsuperclass
  · have hfault := List.findSome?_eq_none_iff.1 hinterfaces declared hdeclared
    unfold interfaceFault? at hfault
    by_cases hkind : declared.base?.bind schema.kind? = some .interfaceType
    · obtain ⟨base, hbase, hkind⟩ := Option.bind_eq_some_iff.1 hkind
      obtain ⟨args, rfl⟩ := exists_of_base? hbase
      exact ⟨base, args, rfl, hkind⟩
    · rw [if_neg hkind] at hfault
      cases hfault
  · exact Option.map_eq_none_iff.1 hcycle

theorem sound_of_bare {node : TypeNode} (hsuperclass : node.superclass = none)
    (hinterfaces : node.interfaces = []) : schema.Sound node := by
  refine ⟨fun declared h => ?_, fun declared h => ?_, ?_⟩
  · rw [hsuperclass] at h
    cases h
  · rw [hinterfaces] at h
    cases h
  · simp [TypeBody.superclassKey?, hsuperclass, repeatedAncestor?]

theorem bare_of_builtins {place : Nat} {node : TypeNode} (h : builtins.nodes[place]? = some node) :
    node.superclass = none ∧ node.interfaces = [] := by
  obtain ⟨entry, hentry, rfl⟩ := List.mem_map.1 (List.mem_of_getElem? h)
  exact ⟨rfl, rfl⟩

theorem Laid.kind?_eq (laid : Laid declared schema) {key : TypeKey}
    (h : key.index < builtins.size) : schema.kind? key = builtins.kind? key := by
  rw [kind?, node?, laid.builtin _ h]
  rfl

theorem Laid.boxed_boxed (laid : Laid declared schema) (key : TypeKey) :
    schema.boxed (schema.boxed key) = schema.boxed key := by
  by_cases hbuiltin : key.index < builtins.size
  · have hboxed {key : TypeKey} (h : key.index < builtins.size) :
        schema.boxed key = builtins.boxed key := by
      rw [boxed, laid.kind?_eq h]
      rfl
    have hall : ∀ place < builtins.size, (builtins.boxed ⟨place⟩).index < builtins.size ∧
        builtins.boxed (builtins.boxed ⟨place⟩) = builtins.boxed ⟨place⟩ := by
      decide +kernel
    obtain ⟨hindex, htwice⟩ := hall key.index hbuiltin
    rw [hboxed hbuiltin, hboxed hindex, htwice]
  · have hkey : schema.boxed key = key := by
      unfold boxed kind?
      cases hnode : schema.node? key with
      | none => rfl
      | some node =>
          have hkind := laid.primitive key.index node (Nat.le_of_not_lt hbuiltin) hnode
          cases hprimitive : node.kind with
          | primitive boxed => exact absurd hprimitive (hkind boxed)
          | _ => simp [hprimitive]
    rw [hkey, hkey]

/-- A schema that was made of declared types is laid out, and each of these was checked. -/
theorem laid_ofTypes {types : List TypeDeclaration} (h : ofTypes types = .ok schema) :
    Laid types.length schema ∧
      ∀ node ∈ (schema.nodes.drop builtins.size).take types.length, schema.check node = .ok () := by
  obtain ⟨named, hnamed, h⟩ := Except.bind_eq_ok_iff.1 h
  obtain ⟨resolved, hresolved, h⟩ := Except.bind_eq_ok_iff.1 h
  obtain ⟨_, hchecked, h⟩ := Except.bind_eq_ok_iff.1 h
  cases h
  obtain ⟨hlaid, -⟩ := laid_declare laid_builtins rfl hnamed
  rw [Nat.zero_add] at hlaid
  refine ⟨?_, Except.forM_eq_ok_iff.1 hchecked⟩
  refine laid_resolveMembers hlaid (fun entry hentry => ?_) hresolved
  simpa using (List.mem_zipIdx hentry).2.1

end Schema

theorem Declarations.ofTypes_of_build {declarations : Declarations} {schema : Schema}
    (h : declarations.build = .ok schema) : Schema.ofTypes declarations.types = .ok schema := by
  unfold build at h
  cases hrepeated : declarations.repeated with
  | cons name names =>
      rw [hrepeated] at h
      cases h
  | nil =>
      rw [hrepeated] at h
      exact h

theorem Declarations.boxed_boxed {declarations : Declarations} {schema : Schema}
    (h : declarations.build = .ok schema) (key : TypeKey) :
    schema.boxed (schema.boxed key) = schema.boxed key :=
  (Schema.laid_ofTypes (ofTypes_of_build h)).1.boxed_boxed key

open Schema in
/-- The types of a schema that was built fit together. -/
theorem Declarations.coherent {declarations : Declarations} {schema : Schema}
    (h : declarations.build = .ok schema) : schema.Coherent := by
  obtain ⟨hlaid, hchecked⟩ := laid_ofTypes (ofTypes_of_build h)
  have hsound {key : TypeKey} {node : TypeNode} (hnode : schema.node? key = some node) :
      node.key = key ∧ schema.Sound node := by
    refine ⟨hlaid.keyed key.index node hnode, ?_⟩
    by_cases hbuiltin : key.index < builtins.size
    · have hbare := bare_of_builtins ((hlaid.builtin _ hbuiltin).symm.trans hnode)
      exact sound_of_bare hbare.1 hbare.2
    · by_cases hdeclared : key.index < builtins.size + declarations.types.length
      · have hcheck := hchecked node ?_
        · unfold Schema.check at hcheck
          cases hfault : schema.hierarchyFault? node with
          | none => exact sound_of_hierarchyFault? hfault
          | some fault =>
              rw [hfault] at hcheck
              cases hcheck
        · refine List.mem_of_getElem? (i := key.index - builtins.size) ?_
          rw [List.getElem?_take_of_lt (by omega), List.getElem?_drop,
            Nat.add_sub_cancel' (by omega)]
          exact hnode
      · have hbare := hlaid.bare key.index node (by omega) hnode
        exact sound_of_bare hbare.1 hbare.2
  have hobject : schema.node? .object = builtins.nodes[0]? := hlaid.builtin 0 (by decide)
  refine ⟨fun hnode => (hsound hnode).1, fun hnode => (hsound hnode).2.superclass _,
    fun hnode => (hsound hnode).2.interfaces, fun hnode => ?_, ?_, ?_, ?_⟩
  · rw [← (hsound hnode).1]
    exact (hsound hnode).2.acyclic
  · simp only [Schema.kind?, hobject]
    rfl
  · simp only [Schema.superclassOf?, hobject]
    rfl
  · simp only [Schema.interfacesOf, hobject]
    rfl

def Declarations.schema (declarations : Declarations) : Schema :=
  declarations.build.toOption.getD .builtins

theorem Declarations.build_eq_schema {declarations : Declarations}
    (h : declarations.build.isOk) : declarations.build = .ok declarations.schema := by
  unfold schema
  cases hbuild : declarations.build with
  | error cause =>
      rw [hbuild] at h
      cases h
  | ok schema => rfl

end ObjectDocument
