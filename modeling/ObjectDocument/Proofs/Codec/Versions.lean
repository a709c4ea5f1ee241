import ObjectDocument.Codec
import ObjectDocument.Proofs.Mapper.History
import ObjectDocument.Proofs.OrderedMap
import ObjectDocument.Proofs.Schema.Built

/-!
# Updates that increment a version

An update increments numbers under an operator, each under its own name.  The version of an entity
is one of them: it is added to what the update increments, unless it is there.  `Incremented` says
what that leaves of an update.  An update of which the operator has no document is not touched, and
a second increment of the version is none (`EntityModel.incrementVersion_outcome`).
-/

namespace ObjectDocument

inductive Bson.IsOne : TypeKey → Bson → Prop where
  | int32 : IsOne .int32 (.int32 1)
  | int64 : IsOne .int64 (.int64 1)

def Document.increments (update : Document) : Document :=
  match update.get? incrementOperator with
  | some (.document increments) => increments
  | _ => []

/-- An update has become one that increments a name too, by one unless it did before. -/
structure Incremented (name : String) (one : Bson) (before after : Document) : Prop where
  others : after.others incrementOperator = before.others incrementOperator
  operator : after.get? incrementOperator = some (.document after.increments)
  increment : after.increments.get? name = some ((before.increments.get? name).getD one)
  otherIncrements : after.increments.others name = before.increments.others name

namespace Document

variable {update increments : Document} {value : Bson}

theorem increments_of_get? (h : update.get? incrementOperator = some (.document increments)) :
    update.increments = increments := by
  rw [Document.increments, h]

theorem increments_insert (update increments : Document) :
    Document.increments (update.insert incrementOperator (.document increments)) = increments :=
  increments_of_get? (OrderedMap.get?_insert_self _ _ _)

theorem incremented_self {name : String} (one : Bson) (h : update.increments.get? name ≠ none) :
    Incremented name one update update where
  others := rfl
  operator := by
    rw [Document.increments] at h ⊢
    split at h
    · next increments hincrements => rw [hincrements]
    · exact absurd rfl h
  increment := by
    obtain ⟨number, hnumber⟩ := Option.ne_none_iff_exists'.1 h
    rw [hnumber, Option.getD_some]
  otherIncrements := rfl

theorem incremented_insert {name : String} {one : Bson} (h : update.increments.get? name = none) :
    Incremented name one update
      (update.insert incrementOperator (.document (update.increments.insert name one))) where
  others := OrderedMap.others_insert _ _ _
  operator := by
    rw [increments_insert]
    exact OrderedMap.get?_insert_self _ _ _
  increment := by
    rw [increments_insert, h, Option.getD_none]
    exact OrderedMap.get?_insert_self _ _ _
  otherIncrements := by
    rw [increments_insert]
    exact OrderedMap.others_insert _ _ _

end Document

namespace EntityModel

variable {model : EntityModel} {schema : Schema} {update : Document} {version : PropertyDescriptor}
  {one : Bson}

theorem versionStep_eq (hone : Bson.IsOne (schema.boxed version.typeKey) one) :
    versionStep schema version = one := by
  unfold versionStep
  generalize schema.boxed version.typeKey = key at hone
  cases hone with
  | int32 => rfl
  | int64 => rfl

section

variable (hversion : model.versionProperty? = some version)

include hversion

theorem incrementVersion_of_incremented (h : update.increments.get? version.mappedName ≠ none) :
    model.incrementVersion schema update = (update, .ok ()) := by
  have hsome := Option.isSome_iff_ne_none.2 h
  rw [Document.increments] at hsome
  rw [incrementVersion, hversion]
  split at hsome
  · next increments hincrements => simp only [hincrements, if_pos hsome]
  · cases hsome

theorem incrementVersion_of_not_incremented
    (hone : Bson.IsOne (schema.boxed version.typeKey) one)
    (hdocument : ∀ value ∈ update.get? incrementOperator, value.sort = .document)
    (h : update.increments.get? version.mappedName = none) :
    model.incrementVersion schema update =
      (update.insert incrementOperator
        (.document (update.increments.insert version.mappedName one)), .ok ()) := by
  rw [incrementVersion, hversion]
  simp only [versionStep_eq hone]
  cases hvalue : update.get? incrementOperator with
  | none => rw [Document.increments, hvalue]; rfl
  | some value =>
      cases value with
      | document increments =>
          rw [Document.increments_of_get? hvalue] at h ⊢
          simp only [h, Option.isSome_none, Bool.false_eq_true, if_false]
      | _ => cases hdocument _ hvalue

theorem incrementVersion_of_sort {value : Bson}
    (hvalue : update.get? incrementOperator = some value) (hsort : value.sort ≠ .document) :
    model.incrementVersion schema update = (update, .error (.unexpected "document" value)) := by
  rw [incrementVersion, hversion]
  simp only [hvalue]
  cases value with
  | document => exact absurd rfl hsort
  | _ => rfl

end

/-- Without a version, an update stays as it is.  The increment of a version of 32 or 64 bits fails
exactly if the operator of the update has something other than a document, and the update is then
as it was.  Else the update increments the version, as it did before or by one in the width of the
version, and has all else in its place.  A second increment changes nothing more. -/
theorem incrementVersion_outcome (model : EntityModel) (schema : Schema) (update : Document) :
    (model.versionProperty? = none → model.incrementVersion schema update = (update, .ok ())) ∧
    ∀ version one, model.versionProperty? = some version →
      Bson.IsOne (schema.boxed version.typeKey) one →
      ∃ after outcome, model.incrementVersion schema update = (after, outcome) ∧
        ((∃ cause, outcome = .error cause) ↔
          ∃ value, update.get? incrementOperator = some value ∧ value.sort ≠ .document) ∧
        ((∃ cause, outcome = .error cause) → after = update) ∧
        (outcome = .ok () → Incremented version.mappedName one update after) ∧
        model.incrementVersion schema after = (after, outcome) := by
  refine ⟨fun hnone => by rw [incrementVersion, hnone], fun version one hversion hone => ?_⟩
  by_cases hdocument : ∀ value ∈ update.get? incrementOperator, value.sort = .document
  · have hok : (∃ cause, (.ok () : Except MappingError Unit) = .error cause) ↔
        ∃ value, update.get? incrementOperator = some value ∧ value.sort ≠ .document :=
      ⟨fun ⟨_, h⟩ => (by cases h),
        fun ⟨value, hvalue, hsort⟩ => absurd (hdocument value hvalue) hsort⟩
    by_cases hnumber : update.increments.get? version.mappedName = none
    · have hadded := incrementVersion_of_not_incremented hversion hone hdocument hnumber
      have incremented : Incremented version.mappedName one update _ :=
        Document.incremented_insert hnumber
      have hagain : model.incrementVersion schema _ = (_, .ok ()) :=
        incrementVersion_of_incremented hversion (by rw [incremented.increment]; simp)
      exact ⟨_, _, hadded, hok, fun ⟨_, h⟩ => (by cases h), fun _ => incremented, hagain⟩
    · have hkept : model.incrementVersion schema update = (update, .ok ()) :=
        incrementVersion_of_incremented hversion hnumber
      exact ⟨_, _, hkept, hok, fun _ => rfl, fun _ => Document.incremented_self one hnumber, hkept⟩
  · simp only [not_forall, exists_prop] at hdocument
    obtain ⟨value, hvalue, hsort⟩ := hdocument
    have hrefused : model.incrementVersion schema update = _ :=
      incrementVersion_of_sort hversion hvalue hsort
    exact ⟨_, _, hrefused, ⟨fun _ => ⟨value, hvalue, hsort⟩, fun _ => ⟨_, rfl⟩⟩, fun _ => rfl,
      fun h => (by cases h), hrefused⟩

end EntityModel

def Declarations.revised : Declarations :=
  .ofList [
    { name := "Account", fields := [
      { name := "number", type := "i64", metadata := ⟨[.id]⟩ },
      { name := "revision", type := "i32", metadata := ⟨[.version (some "rev")]⟩ }] }]

/-- An update that increments something else increments the version beside it, and has all else in
its place. -/
theorem Declarations.incrementVersion_revised :
    let mapper := Mapper.standard ⟨revised.schema, {}⟩
    let update : Document := [("$set", .document [("owner", .string "Ada")]),
      ("$inc", .document [("visits", .int64 2)]), ("$unset", .document [("note", .null)])]
    ∃ model version after, mapper.answerAfter [] ⟨25⟩ = .ok (some model) ∧
      model.versionProperty? = some version ∧ version.typeKey = .int32 ∧
      Bson.IsOne (mapper.schema.boxed version.typeKey) (.int32 1) ∧
      model.incrementVersion mapper.schema update = (after, .ok ()) ∧
      Incremented "rev" (.int32 1) update after := by
  intro mapper update
  have hmodel : (mapper.answerAfter [] ⟨25⟩).toOption.join.any fun model =>
      model.versionProperty?.any fun version =>
        version.typeKey = .int32 ∧ version.mappedName = "rev" := by
    decide +kernel
  obtain ⟨model, hmodel, hversion⟩ := ModelAnswer.exists_of_any hmodel
  obtain ⟨version, hversion, hchecks⟩ := (Option.any_eq_true _ _).1 hversion
  obtain ⟨htype, hname⟩ := of_decide_eq_true hchecks
  have hone : Bson.IsOne (mapper.schema.boxed version.typeKey) (.int32 1) := by
    rw [htype, show mapper.schema.boxed .int32 = .int32 by decide +kernel]
    exact .int32
  obtain ⟨after, outcome, hafter, hfails, -, incremented, -⟩ :=
    (model.incrementVersion_outcome mapper.schema update).2 version _ hversion hone
  have hok : outcome = .ok () := by
    cases outcome with
    | ok => rfl
    | error cause =>
        obtain ⟨value, hvalue, hsort⟩ := hfails.1 ⟨cause, rfl⟩
        cases hvalue
        exact absurd rfl hsort
  subst hok
  exact ⟨model, version, after, hmodel, hversion, htype, hone, hafter, hname ▸ incremented rfl⟩

end ObjectDocument
