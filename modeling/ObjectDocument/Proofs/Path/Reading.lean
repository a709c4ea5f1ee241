import Mathlib.Algebra.Order.BigOperators.Group.List
import Mathlib.Algebra.Order.Group.Nat
import ObjectDocument.Path
import ObjectDocument.Proofs.Codec.Keys
import ObjectDocument.Proofs.Consult.Answer

/-!
# How paths are read

A path is a sequence of segments.  At an entity, a segment names a property, or is a position and
stays; after a map, one segment is a key; below the types with models, anything may come.  `Reads`
says this, together with what each segment is mapped to, what the mapper is asked for, and where the
path then stands.

Following a path tells positions before it looks where the path stands.  So a key that looks like a
position is not taken for the key, and the segment after it is: paths are followed as they read if
no such key stands before the values of a map that have a model, and all paths are followed so
exactly if no such map is reached (`resolves_iff`).
-/

namespace ObjectDocument

namespace Path

/-! ### Reading -/

/-- Where a path stands, the property that it named last, and what the mapper then remembers. -/
structure Stop where
  cursor : Cursor
  last : Option PropertyDescriptor
  state : MapperState

def Names (model : EntityModel) (segment : List Char) (property : PropertyDescriptor) : Prop :=
  model.property? (String.ofList segment) = some property ∨
    model.property? (String.ofList segment) = none ∧
      model.propertyByMappedName? (String.ofList segment) = some property

def NamesNone (model : EntityModel) (segment : List Char) : Prop :=
  ∀ property ∈ model.properties, property.name ≠ String.ofList segment ∧
    property.mappedName ≠ String.ofList segment

def Cursor.afterProperty (property : PropertyDescriptor) (element : Option EntityModel) : Cursor :=
  if property.isMap then .map element else .ofModel element

/-- One segment of a path and what it is mapped to.  A key of a map whose values have a model must
be one of those allowed. -/
inductive Step (request : Request) (allowed : List Char → Prop) :
    Stop → List Char → List Char → Stop → Prop where
  | property {model last state segment property element after}
      (plain : isPositional segment = false) (named : Names model segment property)
      (answered : request property.normalizedType state = (.ok element, after)) :
      Step request allowed ⟨.entity model, last, state⟩ segment property.mappedName.toList
        ⟨.afterProperty property element, some property, after⟩
  | position {model last state segment} (positional : isPositional segment) :
      Step request allowed ⟨.entity model, last, state⟩ segment segment ⟨.entity model, last, state⟩
  | key {values last state segment} (allows : values.isSome → allowed segment) :
      Step request allowed ⟨.map values, last, state⟩ segment segment
        ⟨.ofModel values, last, state⟩
  | below {last state segment} :
      Step request allowed ⟨.below, last, state⟩ segment segment ⟨.below, last, state⟩

/-- The segments of a path, what they are mapped to, and where the path leads. -/
inductive Reads (request : Request) (allowed : List Char → Prop) :
    Stop → List (List Char) → List (List Char) → Stop → Prop where
  | nil (stop) : Reads request allowed stop [] [] stop
  | cons {stop segment mapped between segments others last} (dotless : '.' ∉ segment)
      (step : Step request allowed stop segment mapped between)
      (rest : Reads request allowed between segments others last) :
      Reads request allowed stop (segment :: segments) (mapped :: others) last

def joined (segments : List (List Char)) : String :=
  String.ofList (Text.joinWith '.' segments)

/-- The paths from an entity are followed as they read.  Those that name no property are not
found. -/
structure Resolves (mapper : Mapper) (allowed : List Char → Prop) (model : EntityModel)
    (state : MapperState) : Prop where
  found : ∀ {segments mapped stop}, segments ≠ [] →
    Reads mapper.answer allowed ⟨.entity model, none, state⟩ segments mapped stop →
    (mapper.consult (resolve model (joined segments))).run state =
      (.ok ⟨joined segments, mapped, stop.last⟩, stop.state)
  missed : ∀ {segments mapped other last after segment rest},
    Reads mapper.answer allowed ⟨.entity model, none, state⟩ segments mapped
      ⟨.entity other, last, after⟩ →
    isPositional segment = false → NamesNone other segment →
    (∀ piece ∈ segment :: rest, '.' ∉ piece) →
    (mapper.consult (resolve model (joined (segments ++ segment :: rest)))).run state =
      (.error (.notFound ("property " ++ String.ofList segment ++ " of path " ++
        joined (segments ++ segment :: rest) ++ " on " ++ other.name)), after)

/-! ### Following -/

abbrev Followed := Except MappingError (List (List Char) × Option PropertyDescriptor) × MapperState

def Followed.prepend (front : List (List Char)) (followed : Followed) : Followed :=
  (followed.1.map fun found => (front ++ found.1, found.2), followed.2)

theorem Followed.prepend_nil (followed : Followed) : followed.prepend [] = followed := by
  obtain ⟨outcome, state⟩ := followed
  cases outcome <;> rfl

theorem Followed.prepend_prepend (front more : List (List Char)) (followed : Followed) :
    (followed.prepend more).prepend front = followed.prepend (front ++ more) := by
  obtain ⟨outcome, state⟩ := followed
  cases outcome <;> simp [prepend, Except.map]

def Stop.follow (stop : Stop) (request : Request) (path : String) (segments : List (List Char)) :
    Followed :=
  (Path.follow path stop.cursor stop.last segments).run.answer request stop.state

variable {request : Request} {allowed : List Char → Prop} {path : String} {stop next : Stop}
  {segment mapped : List Char} {segments others : List (List Char)} {model : EntityModel}

theorem answer_prepend {first : ConsultM (List (List Char) × Option PropertyDescriptor)}
    (state : MapperState) :
    (first >>= fun found => pure (segment :: found.1, found.2)).run.answer request state =
      Followed.prepend [segment] (first.run.answer request state) := by
  cases h : first.run.answer request state with
  | mk outcome after =>
  cases outcome with
  | ok found =>
      rw [ConsultM.answer_bind_ok h]
      rfl
  | error cause =>
      rw [ConsultM.answer_bind_error h]
      rfl

theorem findProperty?_eq_some_iff {property : PropertyDescriptor} :
    findProperty? model (String.ofList segment) = some property ↔ Names model segment property :=
  Option.or_eq_some_iff

theorem findProperty?_eq_none_iff :
    findProperty? model (String.ofList segment) = none ↔ NamesNone model segment := by
  simp [findProperty?, EntityModel.property?, EntityModel.propertyByMappedName?, NamesNone,
    List.find?_eq_none, forall_and]

/-- Below a map whose values have no model, everything stays, be it taken for a key or not. -/
theorem follow_map_none (path : String) (last : Option PropertyDescriptor)
    (segments : List (List Char)) :
    follow path (.map none) last segments = follow path .below last segments := by
  induction segments with
  | nil => rfl
  | cons segment rest ih =>
      by_cases hpositional : isPositional segment
      · simp only [follow, if_pos hpositional, ih]
      · simp only [follow, if_neg hpositional]
        rfl

theorem follow_positional (h : isPositional segment) (stop : Stop) (path : String)
    (segments : List (List Char)) :
    stop.follow request path (segment :: segments) =
      (stop.follow request path segments).prepend [segment] := by
  have hfollow : follow path stop.cursor stop.last (segment :: segments) =
      (do let found ← follow path stop.cursor stop.last segments
          pure (segment :: found.1, found.2)) := by
    cases stop.cursor <;> exact if_pos h
  rw [Stop.follow, hfollow]
  exact answer_prepend stop.state

/-- A segment is followed as it reads, if keys that look like positions are not allowed. -/
theorem Step.follow_eq
    (h : Step request (fun key => isPositional key = false) stop segment mapped next)
    (path : String) (segments : List (List Char)) :
    stop.follow request path (segment :: segments) =
      (next.follow request path segments).prepend [mapped] := by
  cases h with
  | @property model last state segment property element after plain named answered =>
      have hfound := findProperty?_eq_some_iff.2 named
      have hrequest : (ConsultM.request property.normalizedType).run.answer request state =
          (.ok element, after) := answered
      rw [Stop.follow, follow, if_neg (by simp [plain])]
      simp only [hfound]
      rw [ConsultM.answer_bind_ok hrequest]
      exact answer_prepend after
  | position positional => exact follow_positional positional _ path segments
  | @key values last state segment allows =>
      cases values with
      | none =>
          have hbelow : Stop.follow ⟨.map none, last, state⟩ request path segments =
              Stop.follow ⟨.below, last, state⟩ request path segments := by
            rw [Stop.follow, Stop.follow, follow_map_none]
          by_cases hpositional : isPositional segment
          · rw [follow_positional hpositional, hbelow]
            rfl
          · rw [Stop.follow, follow, if_neg hpositional]
            exact answer_prepend state
      | some values =>
          have hplain := allows rfl
          rw [Stop.follow, follow, if_neg (by simp [hplain])]
          exact answer_prepend state
  | @below last state segment =>
      by_cases hpositional : isPositional segment
      · exact follow_positional hpositional _ path segments
      · rw [Stop.follow, follow, if_neg hpositional]
        exact answer_prepend state

theorem Reads.follow_eq
    (h : Reads request (fun key => isPositional key = false) stop segments others next)
    (path : String) (rest : List (List Char)) :
    stop.follow request path (segments ++ rest) =
      (next.follow request path rest).prepend others := by
  induction h with
  | nil stop => exact (Followed.prepend_nil _).symm
  | cons dotless step _ ih =>
      rw [List.cons_append, step.follow_eq path, ih, Followed.prepend_prepend]
      rfl

theorem Reads.dotless (h : Reads request allowed stop segments others next) :
    ∀ segment ∈ segments, '.' ∉ segment := by
  induction h with
  | nil => simp
  | cons dotless _ _ ih => simpa using ⟨dotless, ih⟩

theorem Reads.concat (h : Reads request allowed stop segments others next) {last : Stop}
    (dotless : '.' ∉ segment) (step : Step request allowed next segment mapped last) :
    Reads request allowed stop (segments ++ [segment]) (others ++ [mapped]) last := by
  induction h with
  | nil => exact .cons dotless step (.nil last)
  | cons first hfirst _ ih => exact .cons first hfirst (ih step)

theorem Reads.mono {other : List Char → Prop} (hallowed : ∀ key, allowed key → other key)
    (h : Reads request allowed stop segments others next) :
    Reads request other stop segments others next := by
  induction h with
  | nil stop => exact .nil stop
  | cons dotless step _ ih =>
      refine .cons dotless ?_ ih
      cases step with
      | property plain named answered => exact .property plain named answered
      | position positional => exact .position positional
      | key allows => exact .key fun hvalues => hallowed _ (allows hvalues)
      | below => exact .below

theorem resolve_joined {mapper : Mapper} {state : MapperState} (hne : segments ≠ [])
    (dotless : ∀ segment ∈ segments, '.' ∉ segment) :
    (mapper.consult (resolve model (joined segments))).run state =
      let followed :=
        Stop.follow ⟨.entity model, none, state⟩ mapper.answer (joined segments) segments
      (followed.1.map fun found => ⟨joined segments, found.1, found.2⟩, followed.2) := by
  change (resolve model (joined segments)).run.answer mapper.answer state = _
  rw [resolve, joined, String.toList_ofList, Text.splitAt_joinWith hne dotless, Stop.follow]
  cases h : (follow (String.ofList (Text.joinWith '.' segments)) (.entity model) none
    segments).run.answer mapper.answer state with
  | mk outcome after =>
  cases outcome with
  | ok found =>
      rw [ConsultM.answer_bind_ok h]
      rfl
  | error cause =>
      rw [ConsultM.answer_bind_error h]
      rfl

/-- Paths are followed as they read if keys that look like positions are not allowed. -/
theorem resolves_of_plain (mapper : Mapper) (model : EntityModel) (state : MapperState) :
    Resolves mapper (fun key => isPositional key = false) model state := by
  refine ⟨fun {segments mapped stop} hne reads => ?_,
    fun {segments mapped other last after segment rest} reads hplain hnone hdotless => ?_⟩
  · have hfollow := reads.follow_eq (joined segments) []
    rw [List.append_nil] at hfollow
    rw [resolve_joined hne reads.dotless, hfollow]
    change (Except.ok _, stop.state) = (Except.ok _, stop.state)
    simp only [List.append_nil]
  · have hmissed : Stop.follow ⟨.entity other, last, after⟩ mapper.answer
        (joined (segments ++ segment :: rest)) (segment :: rest) =
        (.error (.notFound ("property " ++ String.ofList segment ++ " of path " ++
          joined (segments ++ segment :: rest) ++ " on " ++ other.name)), after) := by
      rw [Stop.follow, follow, if_neg (by simp [hplain])]
      simp only [findProperty?_eq_none_iff.2 hnone]
      rfl
    have hall : ∀ piece ∈ segments ++ segment :: rest, '.' ∉ piece := fun piece hpiece =>
      (List.mem_append.1 hpiece).elim (reads.dotless piece) (hdotless piece)
    rw [resolve_joined (by simp) hall, reads.follow_eq, hmissed]
    rfl

/-! ### Keys that look like positions -/

theorem exists_namesNone (model : EntityModel) :
    ∃ segment, isPositional segment = false ∧ '.' ∉ segment ∧ NamesNone model segment := by
  let names := model.properties.flatMap fun property => [property.name, property.mappedName]
  let segment := List.replicate ((names.map String.length).sum + 1) 'x'
  have hname : ∀ name ∈ names, name ≠ String.ofList segment := by
    intro name hname heq
    have hle : name.length ≤ (names.map String.length).sum :=
      List.le_sum_of_mem (List.mem_map_of_mem hname)
    have hlength : name.length = (names.map String.length).sum + 1 := by
      rw [heq, String.length_ofList, List.length_replicate]
    omega
  refine ⟨segment, ?_, by simp [segment], fun property hproperty => ⟨hname _ ?_, hname _ ?_⟩⟩
  · simp [segment, isPositional, List.replicate_succ]
  · exact List.mem_flatMap.2 ⟨property, hproperty, List.mem_cons_self⟩
  · exact List.mem_flatMap.2 ⟨property, hproperty, List.mem_cons_of_mem _ List.mem_cons_self⟩

/-- A path to a map of which the values have a model leads to the first such map before it comes to
a key of one. -/
theorem Reads.exists_plain (h : Reads request allowed stop segments others next)
    {values : EntityModel} (hnext : next.cursor = .map (some values)) :
    ∃ segments others values last after,
      Reads request (fun key => isPositional key = false) stop segments others
        ⟨.map (some values), last, after⟩ := by
  induction h with
  | nil stop =>
      obtain ⟨cursor, last, state⟩ := stop
      obtain rfl : cursor = .map (some values) := hnext
      exact ⟨[], [], values, last, state, .nil _⟩
  | cons dotless step _ ih =>
      obtain ⟨segments, others, values, last, after, reads⟩ := ih hnext
      cases step with
      | property plain named answered =>
          exact ⟨_, _, values, last, after, .cons dotless (.property plain named answered) reads⟩
      | position positional =>
          exact ⟨_, _, values, last, after, .cons dotless (.position positional) reads⟩
      | @key found last state _ _ =>
          cases found with
          | none => exact ⟨_, _, values, _, after, .cons dotless (.key (by simp)) reads⟩
          | some found => exact ⟨[], [], found, last, state, .nil _⟩
      | below => exact ⟨_, _, values, last, after, .cons dotless .below reads⟩

/-- Where no map is reached of which the values have a model, no key counts as one that looks like a
position. -/
theorem Reads.plain (h : Reads request allowed stop segments others next)
    (hmaps : ∀ segments others values last after,
      Reads request allowed stop segments others ⟨.map values, last, after⟩ → values = none) :
    Reads request (fun key => isPositional key = false) stop segments others next := by
  induction h with
  | nil stop => exact .nil stop
  | cons dotless step _ ih =>
      refine .cons dotless ?_ (ih fun _ _ values last after reads =>
        hmaps _ _ values last after (.cons dotless step reads))
      cases step with
      | property plain named answered => exact .property plain named answered
      | position positional => exact .position positional
      | @key values last state _ _ =>
          obtain rfl := hmaps _ _ values last state (.nil _)
          exact .key (by simp)
      | below => exact .below

/-- Paths from an entity are followed as they read, be it to a property that is found or to one that
is not, if no key looks like a position that stands before values with a model.  They are all
followed so exactly if no map is reached of which the values have a model. -/
theorem resolves_iff (mapper : Mapper) (model : EntityModel) (state : MapperState) :
    Resolves mapper (fun key => isPositional key = false) model state ∧
      (Resolves mapper (fun _ => True) model state ↔
        ∀ segments mapped values last after,
          Reads mapper.answer (fun _ => True) ⟨.entity model, none, state⟩ segments mapped
            ⟨.map values, last, after⟩ → values = none) := by
  have resolves := resolves_of_plain mapper model state
  refine ⟨resolves, fun all segments mapped values last after reads => ?_, fun hmaps => ?_⟩
  · cases values with
    | none => rfl
    | some values =>
        exfalso
        -- The first map is reached as the path reads.  What comes after a number is its key.
        obtain ⟨segments, mapped, values, last, after, plain⟩ := reads.exists_plain rfl
        obtain ⟨bad, hbad, hdotless, hnone⟩ := exists_namesNone values
        have hzero : isPositional ['0'] := rfl
        have hall : ∀ piece ∈ segments ++ [['0'], bad], '.' ∉ piece := by
          intro piece hpiece
          rcases List.mem_append.1 hpiece with hpiece | hpiece
          · exact plain.dotless piece hpiece
          · rcases List.mem_pair.1 hpiece with rfl | rfl
            · decide
            · exact hdotless
        have hmissed := all.missed ((plain.mono fun _ _ => trivial).concat
          (by decide : '.' ∉ ['0']) (.key fun _ => trivial)) hbad hnone
          (by simpa using hdotless : ∀ piece ∈ [bad], '.' ∉ piece)
        have hkey : Step mapper.answer (fun key => isPositional key = false)
            ⟨.map (some values), last, after⟩ bad bad ⟨.entity values, last, after⟩ :=
          .key fun _ => hbad
        rw [List.append_assoc, List.singleton_append, resolve_joined (by simp) hall,
          plain.follow_eq, follow_positional hzero, hkey.follow_eq] at hmissed
        cases congrArg Prod.fst hmissed
  · exact ⟨fun hne reads => resolves.found hne (reads.plain hmaps), fun reads =>
      resolves.missed (reads.plain hmaps)⟩

end Path

/-! ### Scores by year -/

def Declarations.scored : Declarations :=
  .ofList [
    { name := "Score", fields := [
      { name := "points", type := "i32", metadata := ⟨[.property (some "pts")]⟩ }] },
    { name := "Person", fields := [
      { name := "id", type := "i64", metadata := ⟨[.id]⟩ },
      { name := "scores", type := "Map<String, Score>" }] }]

/-- The points of a score read so, whatever the key of the score is. -/
theorem Declarations.exists_reads_scored (allowed : List Char → Prop) (key : List Char)
    (hallowed : allowed key) (hdotless : '.' ∉ key) :
    let mapper := Mapper.standard ⟨scored.schema, {}⟩
    ∃ model stop, mapper.answerAfter [] ⟨26⟩ = .ok (some model) ∧
      Path.Reads mapper.answer allowed ⟨.entity model, none, mapper.after [⟨26⟩]⟩
        ["scores".toList, key, "points".toList] ["scores".toList, key, "pts".toList] stop := by
  intro mapper
  have hmodels : (mapper.answerAfter [] ⟨26⟩).toOption.join.any fun model =>
      (model.property? "scores").any fun scores =>
        scores.isMap && scores.mappedName = "scores" &&
          (mapper.answer scores.normalizedType (mapper.after [⟨26⟩])).1.toOption.join.any
            fun score => (score.property? "points").any fun points =>
              points.mappedName = "pts" && (mapper.answer points.normalizedType
                (mapper.answer scores.normalizedType (mapper.after [⟨26⟩])).2).1.isOk := by
    decide +kernel
  obtain ⟨model, hmodel, h⟩ := ModelAnswer.exists_of_any hmodels
  obtain ⟨scores, hscores, h⟩ := (Option.any_eq_true _ _).1 h
  simp only [Bool.and_eq_true, decide_eq_true_eq] at h
  obtain ⟨⟨hmap, hname⟩, h⟩ := h
  obtain ⟨score, hscore, h⟩ := ModelAnswer.exists_of_any h
  obtain ⟨points, hpoints, h⟩ := (Option.any_eq_true _ _).1 h
  simp only [Bool.and_eq_true, decide_eq_true_eq] at h
  obtain ⟨hpts, h⟩ := h
  obtain ⟨found, hfound⟩ : ∃ found, (mapper.answer points.normalizedType
      (mapper.answer scores.normalizedType (mapper.after [⟨26⟩])).2).1 = .ok found := by
    cases hfound : (mapper.answer points.normalizedType
      (mapper.answer scores.normalizedType (mapper.after [⟨26⟩])).2).1 with
    | ok found => exact ⟨found, rfl⟩
    | error cause =>
        rw [hfound] at h
        cases h
  have first : Path.Step mapper.answer allowed ⟨.entity model, none, mapper.after [⟨26⟩]⟩
      "scores".toList scores.mappedName.toList
      ⟨.afterProperty scores (some score), some scores, _⟩ :=
    .property rfl (.inl hscores) (Prod.ext hscore rfl)
  have second : Path.Step mapper.answer allowed ⟨.entity score, some scores, _⟩
      "points".toList points.mappedName.toList ⟨.afterProperty points found, some points, _⟩ :=
    .property rfl (.inl hpoints) (Prod.ext hfound rfl)
  rw [hname, Path.Cursor.afterProperty, if_pos hmap] at first
  rw [hpts] at second
  exact ⟨model, _, hmodel, .cons (by decide) first
    (.cons hdotless (.key fun _ => hallowed) (.cons (by decide) second (.nil _)))⟩

/-- Under a key that is no number, the points of a score are found where they are stored. -/
theorem Declarations.resolve_scored_points :
    let mapper := Mapper.standard ⟨scored.schema, {}⟩
    ∃ (model : EntityModel) (stop : Path.Stop), mapper.answerAfter [] ⟨26⟩ = .ok (some model) ∧
      (mapper.consult (Path.resolve model "scores.math.points")).run (mapper.after [⟨26⟩]) =
        (.ok ⟨"scores.math.points", ["scores".toList, "math".toList, "pts".toList],
          stop.last⟩, stop.state) := by
  intro mapper
  obtain ⟨model, stop, hmodel, reads⟩ := exists_reads_scored
    (fun key => Path.isPositional key = false) "math".toList rfl (by decide)
  have hfound := (Path.resolves_iff mapper model (mapper.after [⟨26⟩])).1.found
    (List.cons_ne_nil _ _) reads
  rw [show Path.joined ["scores".toList, "math".toList, "points".toList] = "scores.math.points"
    from rfl] at hfound
  exact ⟨model, stop, hmodel, hfound⟩

/-- Under the key of a year, they are looked for under their logical name. -/
theorem Declarations.not_resolves_scored :
    ∃ schema, scored.build = .ok schema ∧
      let mapper := Mapper.standard ⟨schema, {}⟩
      ∃ model, mapper.answerAfter [] ⟨26⟩ = .ok (some model) ∧
        ((mapper.consult (Path.resolve model "scores.2024.points")).run
          (mapper.after [⟨26⟩])).1.toOption.map Path.Target.mapped = some "scores.2024.points" ∧
        ¬Path.Resolves mapper (fun _ => True) model (mapper.after [⟨26⟩]) := by
  refine ⟨scored.schema, build_eq_schema (by decide +kernel), ?_⟩
  intro mapper
  obtain ⟨model, stop, hmodel, reads⟩ := exists_reads_scored (fun _ => True) "2024".toList
    trivial (by decide)
  have hmapped : (mapper.answerAfter [] ⟨26⟩).toOption.join.any fun model =>
      ((mapper.consult (Path.resolve model "scores.2024.points")).run
        (mapper.after [⟨26⟩])).1.toOption.map Path.Target.mapped = some "scores.2024.points" := by
    decide +kernel
  rw [show mapper.answerAfter [] ⟨26⟩ = .ok (some model) from hmodel] at hmapped
  have hmapped := of_decide_eq_true hmapped
  refine ⟨model, hmodel, hmapped, fun all => ?_⟩
  have hfound := all.found (List.cons_ne_nil _ _) reads
  rw [show Path.joined ["scores".toList, "2024".toList, "points".toList] = "scores.2024.points"
    from rfl] at hfound
  rw [hfound] at hmapped
  have hne : Path.joined ["scores".toList, "2024".toList, "pts".toList] ≠ "scores.2024.points" := by
    decide
  exact hne (Option.some.inj hmapped)

end ObjectDocument
