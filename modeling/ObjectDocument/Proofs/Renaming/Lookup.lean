import ObjectDocument.Proofs.Outcome
import ObjectDocument.Proofs.Renaming.Schema
import ObjectDocument.Schema.Resolve

/-!
# Looking renamed names up

A text may be rewritten so that it reads as before with other names for the type parameters in
scope.  `SchemaM.Follows` says that a step on a schema, wherever it succeeds, is followed by another
on the renamed schema: what is looked up in a rewritten text is what was looked up in the text, with
its variables under their new names, and the same types are added meanwhile
(`resolveBody_follows`).
-/

namespace ObjectDocument

/-! ### Type expressions -/

namespace TypeExpr

variable {names others : String → String}

mutual
def rename (names : String → String) : TypeExpr → TypeExpr
  | .named name args => .named (names name) (renameList names args)
  | .array component => .array (rename names component)

def renameList (names : String → String) : List TypeExpr → List TypeExpr
  | [] => []
  | expr :: rest => rename names expr :: renameList names rest
end

mutual
def mentioned : TypeExpr → List String
  | .named name args => name :: mentionedIn args
  | .array component => mentioned component

def mentionedIn : List TypeExpr → List String
  | [] => []
  | expr :: rest => mentioned expr ++ mentionedIn rest
end

mutual
@[simp] theorem rename_id : (expr : TypeExpr) → expr.rename id = expr
  | .named name args => by rw [rename, renameList_id args, id]
  | .array component => by rw [rename, rename_id component]

theorem renameList_id : (exprs : List TypeExpr) → renameList id exprs = exprs
  | [] => rfl
  | expr :: rest => by rw [renameList, rename_id expr, renameList_id rest]
end

mutual
theorem rename_congr : (expr : TypeExpr) → (∀ name ∈ expr.mentioned, names name = others name) →
    expr.rename names = expr.rename others
  | .named name args, h => by
      rw [rename, rename, h name List.mem_cons_self,
        renameList_congr args fun name hname => h name (List.mem_cons_of_mem _ hname)]
  | .array component, h => by rw [rename, rename, rename_congr component h]

theorem renameList_congr : (exprs : List TypeExpr) →
    (∀ name ∈ mentionedIn exprs, names name = others name) →
      renameList names exprs = renameList others exprs
  | [], _ => rfl
  | expr :: rest, h => by
      rw [renameList, renameList,
        rename_congr expr fun name hname => h name (List.mem_append_left _ hname),
        renameList_congr rest fun name hname => h name (List.mem_append_right _ hname)]
end

end TypeExpr

/-! ### Looking names up in a renamed schema -/

/-- Wherever a step on a schema succeeds, another succeeds on the renamed schema, with what
corresponds to the result of the first. -/
def SchemaM.Follows {α β : Type} (renames : Renaming) (step : SchemaM α) (corresponds : α → β)
    (other : SchemaM β) : Prop :=
  ∀ before a after, step.run before = .ok (a, after) →
    other.run (before.rename renames) = .ok (corresponds a, after.rename renames)

namespace SchemaM.Follows

variable {α β γ δ : Type} {renames : Renaming}

theorem pure {a : α} {corresponds : α → β} {b : β} (h : b = corresponds a) :
    SchemaM.Follows renames (pure a) corresponds (pure b) := by
  intro before found after hrun
  cases hrun
  rw [h]
  rfl

section

variable {step : SchemaM α} {corresponds : α → β} {other : SchemaM β} {next : α → SchemaM γ}
  {last : γ → δ} {otherNext : β → SchemaM δ}

/-- What comes next has to follow only for what the first step can come to. -/
theorem bind_of_run (hstep : SchemaM.Follows renames step corresponds other)
    (hnext : ∀ before a after, step.run before = .ok (a, after) →
      SchemaM.Follows renames (next a) last (otherNext (corresponds a))) :
    SchemaM.Follows renames (step >>= next) last (other >>= otherNext) := by
  intro before c after h
  rw [StateT.run_bind] at h ⊢
  obtain ⟨⟨a, between⟩, hfirst, hrest⟩ := Except.bind_eq_ok_iff.1 h
  exact Except.bind_eq_ok_iff.2
    ⟨_, hstep before a between hfirst, hnext before a between hfirst between c after hrest⟩

theorem bind (hstep : SchemaM.Follows renames step corresponds other)
    (hnext : ∀ a, SchemaM.Follows renames (next a) last (otherNext (corresponds a))) :
    SchemaM.Follows renames (step >>= next) last (other >>= otherNext) :=
  hstep.bind_of_run fun _ a _ _ => hnext a

end

theorem mapM {step : α → SchemaM γ} {corresponds : γ → δ} {other : β → SchemaM δ} {as : List α}
    {counterpart : α → β}
    (h : ∀ a ∈ as, SchemaM.Follows renames (step a) corresponds (other (counterpart a))) :
    SchemaM.Follows renames (as.mapM step) (List.map corresponds)
      ((as.map counterpart).mapM other) := by
  induction as with
  | nil => exact pure rfl
  | cons a as ih =>
      rw [List.map_cons, List.mapM_cons, List.mapM_cons]
      exact (h a List.mem_cons_self).bind fun _ =>
        (ih fun a ha => h a (List.mem_cons_of_mem _ ha)).bind fun _ => pure rfl

theorem option_mapM {step : α → SchemaM γ} {corresponds : γ → δ} {other : β → SchemaM δ}
    {given : Option α} {counterpart : α → β}
    (h : ∀ a ∈ given, SchemaM.Follows renames (step a) corresponds (other (counterpart a))) :
    SchemaM.Follows renames (given.mapM step) (Option.map corresponds)
      ((given.map counterpart).mapM other) := by
  cases given with
  | none => exact pure rfl
  | some a =>
      change SchemaM.Follows renames (step a >>= fun c => Pure.pure (some c)) _
        (other (counterpart a) >>= fun d => Pure.pure (some d))
      exact (h a rfl).bind fun _ => pure rfl

end SchemaM.Follows

namespace Schema

variable {renames : Renaming} {names : String → String}

theorem internName_follows (name : String) :
    SchemaM.Follows renames (internName name) id (internName name) := by
  intro before key after h
  rw [run_internName_eq_ok_iff, lookup?_rename, size_rename]
  rcases run_internName_eq_ok_iff.1 h with ⟨hlookup, rfl⟩ | ⟨hlookup, rfl, rfl⟩
  · exact .inl ⟨hlookup, rfl⟩
  · exact .inr ⟨hlookup, rfl, insert_rename ..⟩

theorem internArray_follows (component : TypeKey) :
    SchemaM.Follows renames (internArray component) id (internArray component) := by
  intro before key after h
  rw [run_internArray_eq_ok_iff, arrayOf?_rename, size_rename, name_rename]
  rcases run_internArray_eq_ok_iff.1 h with ⟨harray, rfl⟩ | ⟨harray, rfl, rfl⟩
  · exact .inl ⟨harray, rfl⟩
  · exact .inr ⟨harray, rfl, insert_rename ..⟩

mutual
/-- Names that are no parameters in scope mean what they meant, if they stay. -/
theorem resolve_follows (injective : Function.Injective names) {scope : List TypeParam} :
    (expr : TypeExpr) →
    (∀ name ∈ expr.mentioned, name ∉ scope.map (·.name) → names name = name) →
      SchemaM.Follows renames (resolve scope expr) (GenericType.rename names)
        (resolve (scope.map (TypeParam.rename names)) (expr.rename names))
  | .named name args, hfixed => by
      rw [TypeExpr.rename, resolve, resolve, TypeParam.any_rename injective]
      by_cases hscope : scope.any (·.name = name)
      · rw [if_pos hscope, if_pos hscope]
        cases args with
        | nil => exact .pure rfl
        | cons arg args =>
            intro before a after h
            cases h
      · rw [if_neg hscope, if_neg hscope]
        have hname : names name = name := by
          refine hfixed name List.mem_cons_self fun hmem => hscope ?_
          obtain ⟨param, hparam, hname⟩ := List.mem_map.1 hmem
          exact List.any_eq_true.2 ⟨param, hparam, by simp [hname]⟩
        rw [hname]
        exact (internName_follows name).bind fun _ =>
          (resolveList_follows injective args fun name hname =>
            hfixed name (List.mem_cons_of_mem _ hname)).bind fun _ =>
              .pure (by simp [GenericType.rename, GenericType.renameList_eq_map])
  | .array component, hfixed => by
      rw [TypeExpr.rename, resolve, resolve]
      refine (resolve_follows injective component hfixed).bind fun found => ?_
      rw [eraseIn_rename injective]
      exact (internArray_follows _).bind fun _ => .pure rfl

theorem resolveList_follows (injective : Function.Injective names) {scope : List TypeParam} :
    (exprs : List TypeExpr) →
    (∀ name ∈ TypeExpr.mentionedIn exprs, name ∉ scope.map (·.name) → names name = name) →
      SchemaM.Follows renames (resolveList scope exprs) (List.map (GenericType.rename names))
        (resolveList (scope.map (TypeParam.rename names)) (TypeExpr.renameList names exprs))
  | [], _ => by
      rw [TypeExpr.renameList, resolveList, resolveList]
      exact .pure rfl
  | expr :: rest, hfixed => by
      rw [TypeExpr.renameList, resolveList, resolveList]
      exact (resolve_follows injective expr fun name hname =>
        hfixed name (List.mem_append_left _ hname)).bind fun _ =>
          (resolveList_follows injective rest fun name hname =>
            hfixed name (List.mem_append_right _ hname)).bind fun _ => .pure rfl
end

end Schema

/-! ### Declarations -/

namespace TypeDeclaration

def paramNames (declaration : TypeDeclaration) : List String :=
  declaration.params.map (·.1)

def sources (declaration : TypeDeclaration) : List String :=
  declaration.params.filterMap (·.2) ++ declaration.superclass.toList ++ declaration.interfaces ++
    declaration.fields.map (·.type) ++ declaration.methods.filterMap (·.type)

def rename (names written : String → String) (declaration : TypeDeclaration) : TypeDeclaration :=
  { declaration with
    params := declaration.params.map fun param => (names param.1, param.2.map written)
    superclass := declaration.superclass.map written
    interfaces := declaration.interfaces.map written
    fields := declaration.fields.map fun field => { field with type := written field.type }
    methods := declaration.methods.map fun method =>
      { method with type := method.type.map written } }

/-- The texts of a declaration read, once they are rewritten, as what they read as with new names
for the parameters.  All other names stay. -/
def Reads (declaration : TypeDeclaration) (names written : String → String) : Prop :=
  ∀ source ∈ declaration.sources, ∀ expr, TypeExpr.parse source = .ok expr →
    TypeExpr.parse (written source) = .ok (expr.rename names) ∧
      ∀ name ∈ expr.mentioned, name ∉ declaration.paramNames → names name = name

theorem reads_id (declaration : TypeDeclaration) : declaration.Reads id id :=
  fun _ _ expr h => ⟨by rwa [TypeExpr.rename_id], fun _ _ _ => rfl⟩

@[simp] theorem rename_id (declaration : TypeDeclaration) :
    declaration.rename id id = declaration := by
  simp [rename]

end TypeDeclaration

namespace Schema

variable {renames : Renaming} {names written : String → String}

theorem resolveText_follows (injective : Function.Injective names) {scope : List TypeParam}
    {source : String}
    (hreads : ∀ expr, TypeExpr.parse source = .ok expr →
      TypeExpr.parse (written source) = .ok (expr.rename names) ∧
        ∀ name ∈ expr.mentioned, name ∉ scope.map (·.name) → names name = name) :
    SchemaM.Follows renames (resolveText scope source) (GenericType.rename names)
      (resolveText (scope.map (TypeParam.rename names)) (written source)) := by
  intro before declared after h
  obtain ⟨⟨expr, between⟩, hparse, h⟩ := Except.bind_eq_ok_iff.1 h
  obtain ⟨found, hfound, hbetween⟩ := Except.bind_eq_ok_iff.1 hparse
  cases hbetween
  obtain ⟨hwritten, hfixed⟩ := hreads expr hfound
  refine Except.bind_eq_ok_iff.2 ⟨(expr.rename names, before.rename renames), ?_,
    resolve_follows injective expr hfixed before declared after h⟩
  exact Except.bind_eq_ok_iff.2 ⟨_, hwritten, rfl⟩

/-- The bounds of the parameters, of which those in `done` have theirs already. -/
theorem resolveBounds_follows (type : String) {done : List TypeParam}
    {params : List (String × Option String)}
    (htexts : ∀ param ∈ params, ∀ source ∈ param.2, ∀ scope : List TypeParam,
      scope.map (·.name) = done.map (·.name) ++ params.map (·.1) →
        SchemaM.Follows renames (resolveText scope source) (GenericType.rename names)
          (resolveText (scope.map (TypeParam.rename names)) (written source))) :
    SchemaM.Follows renames (resolveBounds type done params) (List.map (TypeParam.rename names))
      (resolveBounds type (done.map (TypeParam.rename names))
        (params.map fun param => (names param.1, param.2.map written))) := by
  induction params generalizing done with
  | nil => exact .pure rfl
  | cons param rest ih =>
      obtain ⟨name, bound⟩ := param
      rw [List.map_cons, resolveBounds, resolveBounds]
      have hscope : done.map (TypeParam.rename names) ++ { name := names name } ::
            (rest.map fun param => (names param.1, param.2.map written)).map
              (fun param => { name := param.1 }) =
          (done ++ TypeParam.mk name none :: rest.map fun param => TypeParam.mk param.1 none).map
            (TypeParam.rename names) := by
        simp [TypeParam.rename, Function.comp_def]
      rw [hscope]
      refine .bind (.option_mapM fun source hsource =>
        htexts _ List.mem_cons_self source hsource _ (by simp [Function.comp_def]))
        fun found => ?_
      have hany : (found.map (GenericType.rename names)).any (·.isVariable) =
          found.any (·.isVariable) := by cases found <;> simp
      rw [hany]
      by_cases hvariable : found.any (·.isVariable)
      · rw [if_pos hvariable]
        intro before a after h
        cases h
      · rw [if_neg hvariable, if_neg hvariable]
        have hdone : done.map (TypeParam.rename names) ++
              [{ name := names name, bound := found.map (GenericType.rename names) }] =
            (done ++ [TypeParam.mk name found]).map (TypeParam.rename names) := by
          simp [TypeParam.rename]
        change SchemaM.Follows renames (resolveBounds type _ rest) _ (resolveBounds type _ _)
        rw [hdone]
        exact ih fun param hparam source hsource scope hnames =>
          htexts param (List.mem_cons_of_mem _ hparam) source hsource scope (by simpa using hnames)

theorem resolveField_follows {scope : List TypeParam} {field : FieldDeclaration}
    (htext : SchemaM.Follows renames (resolveText scope field.type) (GenericType.rename names)
      (resolveText (scope.map (TypeParam.rename names)) (written field.type))) :
    SchemaM.Follows renames (resolveField scope field) (DeclaredField.rename names)
      (resolveField (scope.map (TypeParam.rename names))
        { field with type := written field.type }) :=
  .bind htext fun _ => .pure rfl

theorem resolveMethod_follows {scope : List TypeParam} {method : MethodDeclaration}
    (htext : ∀ source ∈ method.type,
      SchemaM.Follows renames (resolveText scope source) (GenericType.rename names)
        (resolveText (scope.map (TypeParam.rename names)) (written source))) :
    SchemaM.Follows renames (resolveMethod scope method) (DeclaredMethod.rename names)
      (resolveMethod (scope.map (TypeParam.rename names))
        { method with type := method.type.map written }) :=
  .bind (.option_mapM htext) fun _ => .pure rfl

theorem names_of_resolveBounds {type : String} {done params : List TypeParam}
    {declared : List (String × Option String)} {before after : Schema}
    (h : (resolveBounds type done declared).run before = .ok (params, after)) :
    params.map (·.name) = done.map (·.name) ++ declared.map (·.1) := by
  induction declared generalizing done before with
  | nil =>
      cases h
      simp
  | cons param rest ih =>
      rw [resolveBounds, StateT.run_bind] at h
      obtain ⟨⟨bound, between⟩, -, h⟩ := Except.bind_eq_ok_iff.1 h
      by_cases hvariable : bound.any (·.isVariable)
      · rw [if_pos hvariable] at h
        cases h
      · rw [if_neg hvariable] at h
        simpa using ih h

/-- Looking up the names of a renamed declaration finds the renamed members. -/
theorem resolveBody_follows (injective : Function.Injective names) {declaration : TypeDeclaration}
    (reads : declaration.Reads names written) :
    SchemaM.Follows renames (resolveBody declaration) (TypeBody.rename names)
      (resolveBody (declaration.rename names written)) := by
  have htext (source : String) (hsource : source ∈ declaration.sources) (scope : List TypeParam)
      (hscope : scope.map (·.name) = declaration.paramNames) :
      SchemaM.Follows renames (resolveText scope source) (GenericType.rename names)
        (resolveText (scope.map (TypeParam.rename names)) (written source)) :=
    resolveText_follows injective (hscope ▸ reads source hsource)
  refine .bind_of_run (resolveBounds_follows _ fun param hparam source hsource scope hscope =>
    htext source ?_ scope (by simpa [TypeDeclaration.paramNames] using hscope))
    fun before params between hparams => ?_
  · simp only [TypeDeclaration.sources, List.mem_append, List.mem_filterMap]
    exact .inl <| .inl <| .inl <| .inl ⟨param, hparam, hsource⟩
  have hscope : params.map (·.name) = declaration.paramNames := names_of_resolveBounds hparams
  refine .bind (.option_mapM fun source hsource => htext source ?_ params hscope)
    fun superclass => ?_
  · simp only [TypeDeclaration.sources, List.mem_append, Option.mem_toList]
    exact .inl <| .inl <| .inl <| .inr hsource
  refine .bind (.mapM fun source hsource => htext source ?_ params hscope) fun interfaces => ?_
  · simp only [TypeDeclaration.sources, List.mem_append]
    exact .inl <| .inl <| .inr hsource
  refine .bind (.mapM fun field hfield => resolveField_follows (htext _ ?_ params hscope))
    fun fields => ?_
  · simp only [TypeDeclaration.sources, List.mem_append, List.mem_map]
    exact .inl <| .inr ⟨field, hfield, rfl⟩
  refine .bind (.mapM fun method hmethod =>
    resolveMethod_follows fun source hsource => htext source ?_ params hscope)
    fun methods => .pure rfl
  simp only [TypeDeclaration.sources, List.mem_append, List.mem_filterMap]
  exact .inr ⟨method, hmethod, hsource⟩

end Schema

end ObjectDocument
