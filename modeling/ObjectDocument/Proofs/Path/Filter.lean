import ObjectDocument.Path
import ObjectDocument.Proofs.Codec.Keys
import ObjectDocument.Proofs.Consult.Answer

/-!
# Filters with renamed fields

A filter is renamed entry for entry: the key of an operator stays and its operand is treated alike,
and a field has the path that it is resolved to and keeps its value.  `RenamesEntries` says so, and
what comes out is a tree, because from the outside a renamed field may look like an operator.

The entries of a level are then collected in a document, where a key that comes again takes the
place of the earlier one.  So every condition of a filter is kept exactly if no two paths of a level
are resolved to the same one (`Filter.Renamed.collected_eq_kept_iff`).
-/

namespace ObjectDocument

namespace Filter

/-- A part of a filter with its fields renamed: a value, items, or the entries of a level. -/
inductive Renamed where
  | value (value : Bson)
  | items (items : List Renamed)
  | level (entries : List (String × Renamed))

namespace Renamed

mutual
/-- The document value of a renamed part, of which the entries of each level are collected in some
way. -/
def toBson (collect : Document → Document) : Renamed → Bson
  | .value held => held
  | .items parts => .array (itemsToBson collect parts)
  | .level entries => .document (collect (entriesToBson collect entries))

def itemsToBson (collect : Document → Document) : List Renamed → List Bson
  | [] => []
  | item :: rest => item.toBson collect :: itemsToBson collect rest

def entriesToBson (collect : Document → Document) : List (String × Renamed) → Document
  | [] => []
  | (key, renamed) :: rest => (key, renamed.toBson collect) :: entriesToBson collect rest
end

mutual
def KeysDiffer : Renamed → Prop
  | .value _ => True
  | .items parts => ItemsDiffer parts
  | .level entries => (entries.map Prod.fst).Nodup ∧ EntriesDiffer entries

def ItemsDiffer : List Renamed → Prop
  | [] => True
  | item :: rest => item.KeysDiffer ∧ ItemsDiffer rest

def EntriesDiffer : List (String × Renamed) → Prop
  | [] => True
  | (_, renamed) :: rest => renamed.KeysDiffer ∧ EntriesDiffer rest
end

theorem keys_entriesToBson (collect : Document → Document) (entries : List (String × Renamed)) :
    (entriesToBson collect entries).map Prod.fst = entries.map Prod.fst := by
  induction entries with
  | nil => rfl
  | cons entry rest ih => rw [entriesToBson, List.map_cons, List.map_cons, ih]

/-- Entries are collected without loss exactly if their keys differ and nothing is lost in them. -/
theorem ofEntries_entriesToBson_eq_iff {entries : List (String × Renamed)}
    (below : entriesToBson OrderedMap.ofEntries entries = entriesToBson id entries ↔
      EntriesDiffer entries) :
    OrderedMap.ofEntries (entriesToBson OrderedMap.ofEntries entries) = entriesToBson id entries ↔
      (entries.map Prod.fst).Nodup ∧ EntriesDiffer entries := by
  constructor
  · intro h
    have hnodup : (entries.map Prod.fst).Nodup := by
      have hkeys := OrderedMap.nodup_ofEntries (entriesToBson OrderedMap.ofEntries entries)
      rwa [h, keys_entriesToBson] at hkeys
    have hkeys := hnodup
    rw [← keys_entriesToBson OrderedMap.ofEntries] at hkeys
    rw [OrderedMap.ofEntries_eq_self_iff.2 hkeys] at h
    exact ⟨hnodup, below.1 h⟩
  · rintro ⟨hnodup, hdiffer⟩
    rw [← keys_entriesToBson OrderedMap.ofEntries] at hnodup
    rw [OrderedMap.ofEntries_eq_self_iff.2 hnodup, below.2 hdiffer]

mutual
/-- A part is collected without a loss exactly if the keys of each level differ. -/
theorem toBson_ofEntries_eq_iff : (renamed : Renamed) →
    (renamed.toBson OrderedMap.ofEntries = renamed.toBson id ↔ renamed.KeysDiffer)
  | .value _ => by simp [toBson, KeysDiffer]
  | .items parts => by
      rw [toBson, toBson, Bson.array.injEq, KeysDiffer]
      exact itemsToBson_ofEntries_eq_iff parts
  | .level entries => by
      rw [toBson, toBson, Bson.document.injEq, KeysDiffer]
      exact ofEntries_entriesToBson_eq_iff (entriesToBson_ofEntries_eq_iff entries)

theorem itemsToBson_ofEntries_eq_iff : (items : List Renamed) →
    (itemsToBson OrderedMap.ofEntries items = itemsToBson id items ↔ ItemsDiffer items)
  | [] => by simp [itemsToBson, ItemsDiffer]
  | item :: rest => by
      rw [itemsToBson, itemsToBson, List.cons.injEq, ItemsDiffer, toBson_ofEntries_eq_iff item,
        itemsToBson_ofEntries_eq_iff rest]

theorem entriesToBson_ofEntries_eq_iff : (entries : List (String × Renamed)) →
    (entriesToBson OrderedMap.ofEntries entries = entriesToBson id entries ↔
      EntriesDiffer entries)
  | [] => by simp [entriesToBson, EntriesDiffer]
  | (key, renamed) :: rest => by
      rw [entriesToBson, entriesToBson, List.cons.injEq, Prod.mk.injEq, EntriesDiffer,
        toBson_ofEntries_eq_iff renamed, entriesToBson_ofEntries_eq_iff rest]
      simp
end

end Renamed

/-! ### Renaming -/

variable (model : EntityModel) (request : Request)

mutual
/-- The entries of a level with their fields renamed, and what a mapper remembers before and after
it was asked for the models on the way. -/
inductive RenamesEntries :
    MapperState → List (String × Bson) → List (String × Renamed) → MapperState → Prop where
  | nil (state) : RenamesEntries state [] [] state
  | operator {before between after key operand renamed rest others}
      (isOperator : isOperator key) (renames : RenamesOperand before operand renamed between)
      (next : RenamesEntries between rest others after) :
      RenamesEntries before ((key, operand) :: rest) ((key, renamed) :: others) after
  | field {before between after path value target rest others}
      (isField : ¬isOperator path)
      (resolves : (Path.resolve model path).run.answer request before = (.ok target, between))
      (next : RenamesEntries between rest others after) :
      RenamesEntries before ((path, value) :: rest) ((target.mapped, .value value) :: others) after

inductive RenamesOperand : MapperState → Bson → Renamed → MapperState → Prop where
  | level {before entries renamed after} (renames : RenamesEntries before entries renamed after) :
      RenamesOperand before (.document entries) (.level renamed) after
  | items {before items renamed after} (renames : RenamesItems before items renamed after) :
      RenamesOperand before (.array items) (.items renamed) after
  | value {state value} (noLevel : ∀ entries, value ≠ .document entries)
      (noItems : ∀ items, value ≠ .array items) : RenamesOperand state value (.value value) state

inductive RenamesItems : MapperState → List Bson → List Renamed → MapperState → Prop where
  | nil (state) : RenamesItems state [] [] state
  | cons {before item renamed between rest others after}
      (renames : RenamesOperand before item renamed between)
      (next : RenamesItems between rest others after) :
      RenamesItems before (item :: rest) (renamed :: others) after
end

variable {model request}

theorem answer_mapOperand_of_plain {value out : Bson} {before after : MapperState}
    (noLevel : ∀ entries, value ≠ .document entries) (noItems : ∀ items, value ≠ .array items) :
    (mapOperand model value).run.answer request before = (.ok out, after) ↔
      ∃ renamed, RenamesOperand model request before value renamed after ∧
        renamed.toBson OrderedMap.ofEntries = out := by
  have hstays : mapOperand model value = pure value := by
    cases value with
    | document entries => exact absurd rfl (noLevel entries)
    | array items => exact absurd rfl (noItems items)
    | _ => rfl
  rw [hstays, ConsultM.answer_pure_eq_ok_iff]
  constructor
  · rintro ⟨rfl, rfl⟩
    exact ⟨_, .value noLevel noItems, rfl⟩
  · rintro ⟨renamed, renames, rfl⟩
    cases renames with
    | level => exact absurd rfl (noLevel _)
    | items => exact absurd rfl (noItems _)
    | value => exact ⟨rfl, rfl⟩

mutual
/-- Mapping the entries of a level is renaming their fields and collecting the levels below. -/
theorem answer_mapEntries_eq_ok_iff : (entries : List (String × Bson)) →
    ∀ {before after : MapperState} {out : List (String × Bson)},
      ((mapEntries model entries).run.answer request before = (.ok out, after) ↔
        ∃ renamed, RenamesEntries model request before entries renamed after ∧
          Renamed.entriesToBson OrderedMap.ofEntries renamed = out)
  | [], before, after, out => by
      rw [mapEntries, ConsultM.answer_pure_eq_ok_iff]
      constructor
      · rintro ⟨rfl, rfl⟩
        exact ⟨[], .nil before, rfl⟩
      · rintro ⟨renamed, renames, rfl⟩
        cases renames
        exact ⟨rfl, rfl⟩
  | (key, value) :: rest, before, after, out => by
      rw [mapEntries]
      by_cases hkey : isOperator key
      · rw [if_pos hkey]
        simp only [ConsultM.answer_bind_eq_ok_iff, ConsultM.answer_pure_eq_ok_iff,
          ConsultM.answer_map_eq_ok_iff, answer_mapOperand_eq_ok_iff value,
          answer_mapEntries_eq_ok_iff rest]
        constructor
        · rintro ⟨_, _, ⟨_, ⟨renamed, renames, rfl⟩, rfl⟩, _, _, ⟨others, next, rfl⟩, rfl, rfl⟩
          exact ⟨_, .operator hkey renames next, rfl⟩
        · rintro ⟨_, renames, rfl⟩
          cases renames with
          | operator isOperator renames next =>
              exact ⟨_, _, ⟨_, ⟨_, renames, rfl⟩, rfl⟩, _, _, ⟨_, next, rfl⟩, rfl, rfl⟩
          | field isField => exact absurd hkey isField
      · rw [if_neg hkey]
        simp only [pure_bind, ConsultM.answer_bind_eq_ok_iff, ConsultM.answer_pure_eq_ok_iff,
          answer_mapEntries_eq_ok_iff rest]
        constructor
        · rintro ⟨target, between, resolves, _, _, ⟨others, next, rfl⟩, rfl, rfl⟩
          exact ⟨_, .field hkey resolves next, rfl⟩
        · rintro ⟨_, renames, rfl⟩
          cases renames with
          | operator isOperator => exact absurd isOperator hkey
          | field isField resolves next =>
              exact ⟨_, _, resolves, _, _, ⟨_, next, rfl⟩, rfl, rfl⟩

theorem answer_mapOperand_eq_ok_iff (value : Bson) {before after : MapperState} {out : Bson} :
    (mapOperand model value).run.answer request before = (.ok out, after) ↔
      ∃ renamed, RenamesOperand model request before value renamed after ∧
        renamed.toBson OrderedMap.ofEntries = out := by
  cases value with
  | document entries =>
      simp only [mapOperand, ConsultM.answer_bind_eq_ok_iff, ConsultM.answer_pure_eq_ok_iff,
        answer_mapEntries_eq_ok_iff entries]
      constructor
      · rintro ⟨_, _, ⟨renamed, renames, rfl⟩, rfl, rfl⟩
        exact ⟨_, .level renames, rfl⟩
      · rintro ⟨_, renames, rfl⟩
        cases renames with
        | level renames => exact ⟨_, _, ⟨_, renames, rfl⟩, rfl, rfl⟩
        | value noLevel => exact absurd rfl (noLevel entries)
  | array items =>
      simp only [mapOperand, ConsultM.answer_map_eq_ok_iff, answer_mapItems_eq_ok_iff items]
      constructor
      · rintro ⟨_, ⟨renamed, renames, rfl⟩, rfl⟩
        exact ⟨_, .items renames, rfl⟩
      · rintro ⟨_, renames, rfl⟩
        cases renames with
        | items renames => exact ⟨_, ⟨_, renames, rfl⟩, rfl⟩
        | value _ noItems => exact absurd rfl (noItems items)
  | _ => exact answer_mapOperand_of_plain (by simp) (by simp)

theorem answer_mapItems_eq_ok_iff : (items : List Bson) →
    ∀ {before after : MapperState} {out : List Bson},
      ((mapItems model items).run.answer request before = (.ok out, after) ↔
        ∃ renamed, RenamesItems model request before items renamed after ∧
          Renamed.itemsToBson OrderedMap.ofEntries renamed = out)
  | [], before, after, out => by
      rw [mapItems, ConsultM.answer_pure_eq_ok_iff]
      constructor
      · rintro ⟨rfl, rfl⟩
        exact ⟨[], .nil before, rfl⟩
      · rintro ⟨renamed, renames, rfl⟩
        cases renames
        exact ⟨rfl, rfl⟩
  | item :: rest, before, after, out => by
      simp only [mapItems, ConsultM.answer_bind_eq_ok_iff, ConsultM.answer_pure_eq_ok_iff,
        answer_mapOperand_eq_ok_iff item, answer_mapItems_eq_ok_iff rest]
      constructor
      · rintro ⟨_, between, ⟨renamed, renames, rfl⟩, _, _, ⟨others, next, rfl⟩, rfl, rfl⟩
        exact ⟨_, .cons renames next, rfl⟩
      · rintro ⟨_, renames, rfl⟩
        cases renames with
        | cons renames next => exact ⟨_, _, ⟨_, renames, rfl⟩, _, _, ⟨_, next, rfl⟩, rfl, rfl⟩
end

/-- A filter that is mapped is renamed entry for entry, down to every level below an operator.  What
comes out is just that exactly if the keys of each level differ after renaming; else a condition
takes the place of another. -/
theorem mapped_eq_renamed_iff {mapper : Mapper} {model : EntityModel} {filter out : Document}
    {before after : MapperState}
    (h : (mapper.consult (mapped model filter)).run before = (.ok out, after)) :
    (∃ renamed, RenamesEntries model mapper.answer before filter renamed after) ∧
      ∀ renamed, RenamesEntries model mapper.answer before filter renamed after →
        (out = Renamed.entriesToBson id renamed ↔ (Renamed.level renamed).KeysDiffer) := by
  have hmapped : (mapped model filter).run.answer mapper.answer before = (.ok out, after) := h
  simp only [mapped, ConsultM.answer_bind_eq_ok_iff, ConsultM.answer_pure_eq_ok_iff,
    answer_mapEntries_eq_ok_iff] at hmapped
  obtain ⟨_, _, ⟨first, hfirst, rfl⟩, rfl, rfl⟩ := hmapped
  refine ⟨⟨first, hfirst⟩, fun renamed renames => ?_⟩
  have hsame := (answer_mapEntries_eq_ok_iff filter).2 ⟨renamed, renames, rfl⟩
  rw [(answer_mapEntries_eq_ok_iff filter).2 ⟨first, hfirst, rfl⟩] at hsame
  rw [Except.ok.inj (congrArg Prod.fst hsame)]
  exact Renamed.ofEntries_entriesToBson_eq_iff (Renamed.entriesToBson_ofEntries_eq_iff renamed)

theorem exists_target {path name : String} {before : MapperState}
    (h : ((Path.resolve model path).run.answer request before).1.toOption.map Path.Target.mapped =
      some name) :
    ∃ target, (Path.resolve model path).run.answer request before =
      (.ok target, ((Path.resolve model path).run.answer request before).2) ∧
        target.mapped = name := by
  cases hresolve : (Path.resolve model path).run.answer request before with
  | mk outcome after =>
  rw [hresolve] at h
  cases outcome with
  | ok target => exact ⟨target, rfl, Option.some.inj h⟩
  | error cause => cases h

end Filter

def Declarations.people : Declarations :=
  .ofList [
    { name := "Person", fields := [
      { name := "id", type := "i64", metadata := ⟨[.id]⟩ },
      { name := "fullName", type := "String", metadata := ⟨[.property (some "name")]⟩ }] }]

open ObjectDocument.Filter in
/-- No condition of a filter is lost that names a property once at each level. -/
theorem Declarations.mapped_eq_renamed_people :
    let mapper := Mapper.standard ⟨people.schema, {}⟩
    let filter : Document := [("fullName", .string "Ada"), ("$or", .array [
      .document [("id", .int64 1)], .document [("name", .string "Bob")]])]
    ∃ model out after, mapper.answerAfter [] ⟨25⟩ = .ok (some model) ∧
      (mapper.consult (mapped model filter)).run (mapper.after [⟨25⟩]) = (.ok out, after) ∧
      out = [("name", .string "Ada"), ("$or", .array [
        .document [("_id", .int64 1)], .document [("name", .string "Bob")]])] := by
  intro mapper filter
  have hmodels : (mapper.answerAfter [] ⟨25⟩).toOption.join.any fun model =>
      let first := (Path.resolve model "fullName").run.answer mapper.answer (mapper.after [⟨25⟩])
      let second := (Path.resolve model "id").run.answer mapper.answer first.2
      let third := (Path.resolve model "name").run.answer mapper.answer second.2
      first.1.toOption.map Path.Target.mapped = some "name" &&
        second.1.toOption.map Path.Target.mapped = some "_id" &&
        third.1.toOption.map Path.Target.mapped = some "name" := by
    decide +kernel
  obtain ⟨model, hmodel, h⟩ := ModelAnswer.exists_of_any hmodels
  simp only [Bool.and_eq_true, decide_eq_true_eq] at h
  obtain ⟨⟨hfirst, hsecond⟩, hthird⟩ := h
  obtain ⟨first, hfirst, hname⟩ := exists_target hfirst
  obtain ⟨second, hsecond, hid⟩ := exists_target hsecond
  obtain ⟨third, hthird, hbob⟩ := exists_target hthird
  have renames : RenamesEntries model mapper.answer (mapper.after [⟨25⟩]) filter _ _ :=
    .field (by decide) hfirst (.operator (by decide) (.items
      (.cons (.level (.field (by decide) hsecond (.nil _)))
        (.cons (.level (.field (by decide) hthird (.nil _))) (.nil _)))) (.nil _))
  rw [hname, hid, hbob] at renames
  have hrun : (mapper.consult (mapped model filter)).run (mapper.after [⟨25⟩]) =
      (.ok (OrderedMap.ofEntries _), _) :=
    ConsultM.answer_bind_ok ((answer_mapEntries_eq_ok_iff filter).2 ⟨_, renames, rfl⟩)
  refine ⟨model, _, _, hmodel, hrun, ?_⟩
  exact ((mapped_eq_renamed_iff hrun).2 _ renames).2 (by
    simp [Renamed.KeysDiffer, Renamed.ItemsDiffer, Renamed.EntriesDiffer])

open ObjectDocument.Filter in
/-- Of two conditions on one property, under its logical and its mapped name, the first is lost. -/
theorem Declarations.not_renamed_people :
    ∃ schema, people.build = .ok schema ∧
      let mapper := Mapper.standard ⟨schema, {}⟩
      let filter : Document := [("fullName", .string "Ada"), ("name", .string "Bob")]
      ∃ model out after renamed, mapper.answerAfter [] ⟨25⟩ = .ok (some model) ∧
        (mapper.consult (mapped model filter)).run (mapper.after [⟨25⟩]) = (.ok out, after) ∧
        RenamesEntries model mapper.answer (mapper.after [⟨25⟩]) filter renamed after ∧
        out = [("name", .string "Bob")] ∧ out.length < filter.length ∧
        out ≠ Renamed.entriesToBson id renamed := by
  refine ⟨people.schema, build_eq_schema (by decide +kernel), ?_⟩
  intro mapper filter
  have hmodels : (mapper.answerAfter [] ⟨25⟩).toOption.join.any fun model =>
      let first := (Path.resolve model "fullName").run.answer mapper.answer (mapper.after [⟨25⟩])
      let second := (Path.resolve model "name").run.answer mapper.answer first.2
      first.1.toOption.map Path.Target.mapped = some "name" &&
        second.1.toOption.map Path.Target.mapped = some "name" := by
    decide +kernel
  obtain ⟨model, hmodel, h⟩ := ModelAnswer.exists_of_any hmodels
  simp only [Bool.and_eq_true, decide_eq_true_eq] at h
  obtain ⟨hfirst, hsecond⟩ := h
  obtain ⟨first, hfirst, hname⟩ := exists_target hfirst
  obtain ⟨second, hsecond, hbob⟩ := exists_target hsecond
  have renames : RenamesEntries model mapper.answer (mapper.after [⟨25⟩]) filter _ _ :=
    .field (by decide) hfirst (.field (by decide) hsecond (.nil _))
  rw [hname, hbob] at renames
  have hrun : (mapper.consult (mapped model filter)).run (mapper.after [⟨25⟩]) =
      (.ok (OrderedMap.ofEntries _), _) :=
    ConsultM.answer_bind_ok ((answer_mapEntries_eq_ok_iff filter).2 ⟨_, renames, rfl⟩)
  exact ⟨model, _, _, _, hmodel, hrun, renames, rfl, by decide, fun heq => by
    cases congrArg List.length heq⟩

end ObjectDocument
