import ObjectDocument.Proofs.Mapper.Repeated
import ObjectDocument.Proofs.Path.Reading

/-!
# Paths that are mapped already

A query may name properties as they are stored.  What a path is mapped to is then followed in turn,
and it stays as it is and leads to the same property, as long as no mapped name can be taken for
anything else within its model (`EntityModel.WellMapped`).

The segments are followed side by side with what they are mapped to.  In `Follows`, unlike in
`Reads`, all paths that are followed at all are told of, so a position may stand anywhere.  The
requests on the way are made a second time, and answered alike (`Mapper.answer_again`).
-/

namespace ObjectDocument

/-- No mapped name of the model can be taken for anything but the property that it names. -/
structure EntityModel.WellMapped (model : EntityModel) : Prop where
  distinct : (model.properties.map (·.mappedName)).Nodup
  uncut : ∀ property ∈ model.properties, '.' ∉ property.mappedName.toList
  plain : ∀ property ∈ model.properties, Path.isPositional property.mappedName.toList = false
  /-- It is the logical name of no other property. -/
  unshadowed : ∀ property ∈ model.properties, ∀ other ∈ model.properties,
    property.mappedName = other.name → property = other

instance (model : EntityModel) : Decidable model.WellMapped :=
  decidable_of_iff
    ((model.properties.map (·.mappedName)).Nodup ∧
      (∀ property ∈ model.properties, '.' ∉ property.mappedName.toList) ∧
      (∀ property ∈ model.properties, Path.isPositional property.mappedName.toList = false) ∧
      ∀ property ∈ model.properties, ∀ other ∈ model.properties,
        property.mappedName = other.name → property = other)
    ⟨fun ⟨distinct, uncut, plain, unshadowed⟩ => ⟨distinct, uncut, plain, unshadowed⟩,
      fun h => ⟨h.distinct, h.uncut, h.plain, h.unshadowed⟩⟩

namespace Path

section

variable {model : EntityModel} {segment : List Char} {property : PropertyDescriptor}

theorem Names.mem (h : Names model segment property) : property ∈ model.properties := by
  rcases h with h | ⟨-, h⟩
  · exact List.mem_of_find?_eq_some h
  · exact List.mem_of_find?_eq_some h

theorem names_mappedName (wellMapped : model.WellMapped) (h : property ∈ model.properties) :
    Names model property.mappedName.toList property := by
  rw [Names, String.ofList_toList]
  cases hname : model.property? property.mappedName with
  | some other =>
      have hother : other.name = property.mappedName := by simpa using List.find?_some hname
      have heq := wellMapped.unshadowed property h other (List.mem_of_find?_eq_some hname)
        hother.symm
      exact .inl (congrArg some heq.symm)
  | none =>
      obtain ⟨other, hfound⟩ : ∃ other,
          model.propertyByMappedName? property.mappedName = some other := by
        refine Option.isSome_iff_exists.1 (List.find?_isSome.2 ⟨property, h, ?_⟩)
        exact decide_eq_true rfl
      have hother : other.mappedName = property.mappedName := by simpa using List.find?_some hfound
      have heq := List.inj_on_of_nodup_map wellMapped.distinct
        (List.mem_of_find?_eq_some hfound) h hother
      exact .inr ⟨rfl, heq ▸ hfound⟩

end

/-! ### Following, wherever positions stand -/

/-- The segments of a path as they are followed: what looks like a position stays, wherever the path
stands, and every other segment is read. -/
inductive Follows (request : Request) :
    Stop → List (List Char) → List (List Char) → Stop → Prop where
  | nil (stop) : Follows request stop [] [] stop
  | position {stop segment segments others last} (positional : isPositional segment)
      (rest : Follows request stop segments others last) :
      Follows request stop (segment :: segments) (segment :: others) last
  | read {stop segment mapped between segments others last} (plain : isPositional segment = false)
      (step : Step request (fun key => isPositional key = false) stop segment mapped between)
      (rest : Follows request between segments others last) :
      Follows request stop (segment :: segments) (mapped :: others) last

variable {request : Request} {path : String} {stop next : Stop} {segment mapped : List Char}
  {segments others : List (List Char)}

theorem Follows.follow_eq (h : Follows request stop segments others next) (path : String) :
    stop.follow request path segments = (.ok (others, next.last), next.state) := by
  induction h with
  | nil => rfl
  | position positional _ ih =>
      rw [follow_positional positional, ih]
      rfl
  | read _ step _ ih =>
      rw [step.follow_eq, ih]
      rfl

theorem Followed.prepend_eq_ok {front : List (List Char)} {followed : Followed}
    {found : List (List Char) × Option PropertyDescriptor} {after : MapperState}
    (h : followed.prepend front = (.ok found, after)) :
    ∃ others, followed = (.ok (others, found.2), after) ∧ found.1 = front ++ others := by
  obtain ⟨outcome, state⟩ := followed
  cases outcome with
  | error cause => cases h
  | ok rest =>
      cases h
      exact ⟨rest.1, rfl, rfl⟩

/-- A segment that is followed and no position is read. -/
theorem exists_step {found : List (List Char) × Option PropertyDescriptor} {after : MapperState}
    (plain : isPositional segment = false)
    (h : stop.follow request path (segment :: segments) = (.ok found, after)) :
    ∃ mapped between,
      Step request (fun key => isPositional key = false) stop segment mapped between := by
  obtain ⟨cursor, last, state⟩ := stop
  cases cursor with
  | map values => exact ⟨_, _, .key fun _ => plain⟩
  | below => exact ⟨_, _, .below⟩
  | entity model =>
      rw [Stop.follow, follow, if_neg (by simp [plain])] at h
      cases hfound : findProperty? model (String.ofList segment) with
      | none =>
          simp only [hfound] at h
          cases h
      | some property =>
          simp only [hfound] at h
          obtain ⟨element, between, hanswer, -⟩ := ConsultM.answer_bind_eq_ok_iff.1 h
          exact ⟨_, _, .property plain (findProperty?_eq_some_iff.1 hfound) hanswer⟩

theorem exists_follows {found : List (List Char) × Option PropertyDescriptor} {after : MapperState}
    (h : stop.follow request path segments = (.ok found, after)) :
    ∃ cursor, Follows request stop segments found.1 ⟨cursor, found.2, after⟩ := by
  induction segments generalizing stop found with
  | nil =>
      cases h
      exact ⟨stop.cursor, .nil stop⟩
  | cons segment segments ih =>
      cases hpositional : isPositional segment with
      | true =>
          rw [follow_positional hpositional] at h
          obtain ⟨others, hrest, hfound⟩ := Followed.prepend_eq_ok h
          obtain ⟨cursor, rest⟩ := ih hrest
          exact ⟨cursor, hfound ▸ .position hpositional rest⟩
      | false =>
          obtain ⟨mapped, between, step⟩ := exists_step hpositional h
          rw [step.follow_eq] at h
          obtain ⟨others, hrest, hfound⟩ := Followed.prepend_eq_ok h
          obtain ⟨cursor, rest⟩ := ih hrest
          exact ⟨cursor, hfound ▸ .read hpositional step rest⟩

/-! ### Following what a path is mapped to -/

/-- The model of the entities that a path stands at, or comes to under a key. -/
def Cursor.model? : Cursor → Option EntityModel
  | .entity model => some model
  | .map values => values
  | .below => none

section

variable {mapper : Mapper} {earlier later : List TypeKey} {allowed : List Char → Prop}

theorem Cursor.model?_ofModel (element : Option EntityModel) :
    (Cursor.ofModel element).model? = element := by
  cases element <;> rfl

theorem Cursor.model?_afterProperty (property : PropertyDescriptor)
    (element : Option EntityModel) : (Cursor.afterProperty property element).model? = element := by
  unfold afterProperty
  split
  · rfl
  · exact model?_ofModel element

/-- A segment leads from one history of requests to a longer one, and comes to no model but one that
is kept by then. -/
theorem Step.exists_after (step : Step mapper.answer allowed stop segment mapped next)
    (hstop : stop.state = mapper.after earlier) :
    ∃ crossed, next.state = mapper.after (earlier ++ crossed) ∧
      ∀ model ∈ next.cursor.model?, model ∈ stop.cursor.model? ∨
        ∃ key, (key, model) ∈ next.state.models := by
  cases step with
  | @property model last state segment property element after plain named answered =>
      obtain rfl : state = mapper.after earlier := hstop
      have hafter : after = mapper.after (earlier ++ [property.normalizedType]) := by
        rw [Mapper.after_concat, answered]
      refine ⟨[property.normalizedType], hafter, fun found hfound => .inr ?_⟩
      rw [Cursor.model?_afterProperty, Option.mem_def] at hfound
      refine ⟨property.normalizedType, hafter ▸ Mapper.kept_of_answerAfter ?_⟩
      rw [Mapper.answerAfter, answered, hfound]
  | position | below =>
      exact ⟨[], by rw [List.append_nil]; exact hstop, fun _ hfound => .inl hfound⟩
  | @key values last state segment _ =>
      refine ⟨[], by rw [List.append_nil]; exact hstop, fun found hfound => .inl ?_⟩
      rwa [Cursor.model?_ofModel] at hfound

/-- What a segment is mapped to leads to where the segment does, whenever the mapper keeps what it
kept then, and asks for nothing new. -/
theorem Step.again (step : Step mapper.answer (fun key => isPositional key = false) stop segment
      mapped next) (hstop : stop.state = mapper.after earlier)
    (plain : isPositional segment = false) (uncut : '.' ∉ segment)
    (wellMapped : ∀ model ∈ stop.cursor.model?, model.WellMapped)
    (hmodels : next.state.models ⊆ (mapper.after later).models) :
    isPositional mapped = false ∧ '.' ∉ mapped ∧
      Step mapper.answer (fun key => isPositional key = false)
        ⟨stop.cursor, stop.last, mapper.after later⟩ mapped mapped
        ⟨next.cursor, next.last, mapper.after later⟩ := by
  cases step with
  | @property model last state segment property element after _ named answered =>
      obtain rfl : state = mapper.after earlier := hstop
      have wellMapped := wellMapped model rfl
      have hplain := wellMapped.plain property named.mem
      have hagain : mapper.answer property.normalizedType (mapper.after later) =
          (.ok element, mapper.after later) := by
        refine Mapper.answer_again (by rw [Mapper.answerAfter, answered]) ?_
        rwa [Mapper.after_concat, answered]
      exact ⟨hplain, wellMapped.uncut property named.mem,
        .property hplain (names_mappedName wellMapped named.mem) hagain⟩
  | position positional => exact ⟨plain, uncut, .position positional⟩
  | key allows => exact ⟨plain, uncut, .key allows⟩
  | below => exact ⟨plain, uncut, .below⟩

theorem Follows.exists_after (h : Follows mapper.answer stop segments others next)
    (hstop : stop.state = mapper.after earlier) :
    ∃ crossed, next.state = mapper.after (earlier ++ crossed) := by
  induction h generalizing earlier with
  | nil => exact ⟨[], by rw [List.append_nil]; exact hstop⟩
  | position _ _ ih => exact ih hstop
  | read _ step _ ih =>
      obtain ⟨first, hbetween, -⟩ := step.exists_after hstop
      obtain ⟨more, hnext⟩ := ih hbetween
      exact ⟨first ++ more, by rw [hnext, List.append_assoc]⟩

theorem Follows.models_subset (h : Follows mapper.answer stop segments others next)
    (hstop : stop.state = mapper.after earlier) : stop.state.models ⊆ next.state.models := by
  obtain ⟨crossed, hnext⟩ := h.exists_after hstop
  rw [hstop, hnext]
  exact (mapper.models_after_append earlier crossed).subset

/-- What the segments of a path are mapped to leads to where they do.  By induction on the segments:
the models that the path comes to are well mapped, since each is kept once it is crossed. -/
theorem Follows.again (h : Follows mapper.answer stop segments others next)
    (hstop : stop.state = mapper.after earlier) (uncut : ∀ segment ∈ segments, '.' ∉ segment)
    (wellMapped : ∀ model ∈ stop.cursor.model?, model.WellMapped)
    (hkept : ∀ entry ∈ next.state.models, entry.2.WellMapped)
    (hmodels : next.state.models ⊆ (mapper.after later).models) :
    (∀ segment ∈ others, '.' ∉ segment) ∧
      Follows mapper.answer ⟨stop.cursor, stop.last, mapper.after later⟩ others others
        ⟨next.cursor, next.last, mapper.after later⟩ := by
  induction h generalizing earlier with
  | nil => exact ⟨uncut, .nil _⟩
  | position positional _ ih =>
      obtain ⟨hsegment, hrest⟩ := List.forall_mem_cons.1 uncut
      obtain ⟨hothers, follows⟩ := ih hstop hrest wellMapped hkept hmodels
      exact ⟨List.forall_mem_cons.2 ⟨hsegment, hothers⟩, .position positional follows⟩
  | read plain step rest ih =>
      obtain ⟨hsegment, hrest⟩ := List.forall_mem_cons.1 uncut
      obtain ⟨crossed, hbetween, hcursor⟩ := step.exists_after hstop
      have hgrow := rest.models_subset hbetween
      obtain ⟨hplain, hmapped, step⟩ :=
        step.again hstop plain hsegment wellMapped (List.Subset.trans hgrow hmodels)
      obtain ⟨hothers, follows⟩ := ih hbetween hrest (fun model hmodel =>
        (hcursor model hmodel).elim (wellMapped model) fun ⟨key, hkey⟩ =>
          hkept (key, model) (hgrow hkey)) hkept hmodels
      exact ⟨List.forall_mem_cons.2 ⟨hmapped, hothers⟩, .read hplain step follows⟩

end

theorem Follows.ne_nil (h : Follows request stop segments others next) (hne : segments ≠ []) :
    others ≠ [] := by
  cases h with
  | nil => exact hne
  | position | read => exact List.cons_ne_nil _ _

theorem exists_segments (path : String) :
    ∃ segments, segments ≠ [] ∧ (∀ segment ∈ segments, '.' ∉ segment) ∧ path = joined segments := by
  refine ⟨Text.splitAt '.' path.toList, Text.splitAt_ne_nil _ _,
    fun _ h => Text.notMem_of_mem_splitAt h, ?_⟩
  rw [joined, Text.joinWith_splitAt, String.ofList_toList]

theorem exists_follow_of_resolve {mapper : Mapper} {state after : MapperState} {target : Target}
    {model : EntityModel} (hne : segments ≠ []) (uncut : ∀ segment ∈ segments, '.' ∉ segment)
    (h : (mapper.consult (resolve model (joined segments))).run state = (.ok target, after)) :
    ∃ found, Stop.follow ⟨.entity model, none, state⟩ mapper.answer (joined segments) segments =
        (.ok found, after) ∧ target = ⟨joined segments, found.1, found.2⟩ := by
  rw [resolve_joined hne uncut] at h
  cases hfollow :
      Stop.follow ⟨.entity model, none, state⟩ mapper.answer (joined segments) segments with
  | mk outcome between =>
  rw [hfollow] at h
  cases outcome with
  | error cause => cases h
  | ok found =>
      cases h
      exact ⟨found, rfl, rfl⟩

/-- Whatever conventions and rules a mapper has, and whatever was asked of it: if a path is found
from a well mapped model, and the models that the mapper then keeps are well mapped, then what the
path is mapped to is found from the same model, then and whenever more was asked of the mapper.  It
is mapped to itself, segment by segment, it leads to the same property, and nothing more is
remembered. -/
theorem resolve_mapped (mapper : Mapper) (earlier : List TypeKey) {model : EntityModel}
    {path : String} {target : Target} {after : MapperState} (wellMapped : model.WellMapped)
    (hfound : (mapper.consult (resolve model path)).run (mapper.after earlier) =
      (.ok target, after))
    (hkept : ∀ entry ∈ after.models, entry.2.WellMapped) :
    ∃ crossed, after = mapper.after (earlier ++ crossed) ∧ ∀ later,
      (mapper.consult (resolve model target.mapped)).run
          (mapper.after (earlier ++ crossed ++ later)) =
        (.ok { target with logical := target.mapped },
          mapper.after (earlier ++ crossed ++ later)) := by
  obtain ⟨segments, hne, uncut, rfl⟩ := exists_segments path
  obtain ⟨found, hfollow, rfl⟩ := exists_follow_of_resolve hne uncut hfound
  obtain ⟨cursor, follows⟩ := exists_follows hfollow
  obtain ⟨crossed, hafter⟩ := follows.exists_after rfl
  refine ⟨crossed, hafter, fun later => ?_⟩
  obtain ⟨hothers, again⟩ := follows.again rfl uncut
    (fun _ h => Option.some.inj h ▸ wellMapped) hkept
    (hafter ▸ (mapper.models_after_append (earlier ++ crossed) later).subset)
  change (mapper.consult (resolve model (joined found.1))).run _ = _
  rw [resolve_joined (follows.ne_nil hne) hothers, again.follow_eq]
  rfl

/-- If a property is stored under the logical name of another, its path is mapped to one that leads
to the other. -/
example :
    let declarations : Declarations := .ofList [
      { name := "Runner", fields := [
        { name := "first", type := "i32", metadata := ⟨[.property (some "second")]⟩ },
        { name := "second", type := "i32", metadata := ⟨[.property (some "third")]⟩ }] }]
    let mapper := Mapper.standard ⟨declarations.schema, {}⟩
    (mapper.answerAfter [] ⟨25⟩).toOption.join.map (fun model => ["first", "second"].map fun path =>
      ((mapper.consult (resolve model path)).run (mapper.after [⟨25⟩])).1.toOption.map
        Target.mapped) = some [some "second", some "third"] := by
  decide +kernel

end Path

/-- The points of a score are found where they are stored, by the name under which they are
stored. -/
theorem Declarations.resolve_mapped_scored :
    let mapper := Mapper.standard ⟨scored.schema, {}⟩
    ∃ (model : EntityModel) (target : Path.Target) (after : MapperState),
      mapper.answerAfter [] ⟨26⟩ = .ok (some model) ∧ model.WellMapped ∧
      (∀ entry ∈ after.models, entry.2.WellMapped) ∧
      (mapper.consult (Path.resolve model "scores.$[].math.points")).run (mapper.after [⟨26⟩]) =
        (.ok target, after) ∧
      target.mapped = "scores.$[].math.pts" ∧
      (mapper.consult (Path.resolve model "scores.$[].math.pts")).run after =
        (.ok { target with logical := "scores.$[].math.pts" }, after) := by
  intro mapper
  have hmodels : (mapper.answerAfter [] ⟨26⟩).toOption.join.any fun model =>
      decide model.WellMapped &&
        match (mapper.consult (Path.resolve model "scores.$[].math.points")).run
          (mapper.after [⟨26⟩]) with
        | (.ok target, after) => target.mapped = "scores.$[].math.pts" &&
            after.models.all fun entry => decide entry.2.WellMapped
        | (.error _, _) => false := by
    decide +kernel
  obtain ⟨model, hmodel, h⟩ := ModelAnswer.exists_of_any hmodels
  simp only [Bool.and_eq_true, decide_eq_true_eq] at h
  obtain ⟨wellMapped, h⟩ := h
  cases hrun : (mapper.consult (Path.resolve model "scores.$[].math.points")).run
    (mapper.after [⟨26⟩]) with
  | mk outcome after =>
  rw [hrun] at h
  cases outcome with
  | error cause => cases h
  | ok target =>
      simp only [Bool.and_eq_true, decide_eq_true_eq, List.all_eq_true] at h
      obtain ⟨hmapped, hkept⟩ := h
      obtain ⟨crossed, hafter, hagain⟩ := Path.resolve_mapped mapper [⟨26⟩] wellMapped hrun hkept
      have hagain := hagain []
      rw [List.append_nil, ← hafter, hmapped] at hagain
      exact ⟨model, target, after, hmodel, wellMapped, hkept, hrun, hmapped, hagain⟩

end ObjectDocument
