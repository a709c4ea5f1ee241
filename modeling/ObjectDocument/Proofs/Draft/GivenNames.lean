import ObjectDocument.Proofs.Draft.Names
import ObjectDocument.Proofs.Mapper.History
import ObjectDocument.Proofs.Metadata
import ObjectDocument.Proofs.Schema.Built

/-!
# Names given to pairs of methods

The markers of a getter and of its setter are those of one property, the getter's first, and of a
kind the first marker is the only one that is asked for a name.  If it gives none, a later marker of
the kind may give one and is not heard: the name on a setter is lost if the getter has a marker of
the same kind without a name.  `DeclaredMethod.mappedName_eq_given_iff` says exactly when a name
that is given is the name that is taken.
-/

namespace ObjectDocument

/-- Of names that are heard only if they are given, the first one heard is the first one given,
unless that is not heard; then the next one heard, or else the default, must be the same. -/
theorem getD_findSome?_eq_iff {α β : Type} {given heard : α → Option β} {as : List α} {fallback : β}
    (h : ∀ a b, heard a = some b → given a = some b) :
    (as.findSome? heard).getD fallback = (as.findSome? given).getD fallback ↔
      ∀ before a after b, as = before ++ a :: after → (∀ other ∈ before, given other = none) →
        given a = some b → heard a = none → (after.findSome? heard).getD fallback = b := by
  induction as with
  | nil => simp
  | cons a as ih =>
      cases hgiven : given a with
      | none =>
          have hheard : heard a = none := by
            cases hheard : heard a with
            | none => rfl
            | some b => rw [h a b hheard] at hgiven; cases hgiven
          rw [List.findSome?_cons, List.findSome?_cons, hgiven, hheard]
          refine ih.trans ⟨fun hrest before other after b has hbefore hother => ?_,
            fun hrest before other after b has hbefore hother => ?_⟩
          · cases before with
            | nil =>
                cases has
                rw [hgiven] at hother
                cases hother
            | cons first before =>
                cases has
                exact hrest before other after b rfl
                  (fun found hfound => hbefore found (List.mem_cons_of_mem _ hfound)) hother
          · exact hrest (a :: before) other after b (by rw [has, List.cons_append])
              (List.forall_mem_cons.2 ⟨hgiven, hbefore⟩) hother
      | some b =>
          -- This is the only place at which what is given can differ from what is heard.
          rw [List.findSome?_cons, List.findSome?_cons, hgiven]
          constructor
          · intro heq before other after c has hbefore hother hheard
            cases before with
            | nil =>
                cases has
                rw [hgiven] at hother
                cases hother
                simpa [hheard] using heq
            | cons first before =>
                cases has
                rw [hbefore _ List.mem_cons_self] at hgiven
                cases hgiven
          · intro hrest
            cases hheard : heard a with
            | none => exact hrest [] a as b rfl (List.forall_mem_nil _) hgiven hheard
            | some c =>
                rw [h a c hheard] at hgiven
                cases hgiven
                rfl

def MarkerKind.naming : List MarkerKind :=
  [.property, .reference, .version]

namespace DeclaredMethod

variable {getter setter : DeclaredMethod} {kind : MarkerKind}

/-- The first name that a marker of a kind gives, on the getter or else on the setter. -/
def givenName? (getter setter : DeclaredMethod) (kind : MarkerKind) : Option String :=
  ((getter.metadata.markers ++ setter.metadata.markers).filter (·.kind = kind)).findSome?
    Marker.explicitName

/-- The name that the first marker of a kind gives, which is one of the getter if it has any. -/
def heardName? (getter setter : DeclaredMethod) (kind : MarkerKind) : Option String :=
  ((getter.metadata.get? kind).or (setter.metadata.get? kind)).bind Marker.explicitName

theorem heardName?_eq_bind_head? (getter setter : DeclaredMethod) (kind : MarkerKind) :
    heardName? getter setter kind =
      ((getter.metadata.markers ++ setter.metadata.markers).filter (·.kind = kind)).head?.bind
        Marker.explicitName := by
  rw [List.head?_filter, List.find?_append]
  rfl

theorem givenName?_of_heardName? {name : String} (h : heardName? getter setter kind = some name) :
    givenName? getter setter kind = some name := by
  rw [heardName?_eq_bind_head?] at h
  unfold givenName?
  obtain ⟨marker, hmarker, hname⟩ := Option.bind_eq_some_iff.1 h
  obtain ⟨rest, hrest⟩ := List.head?_eq_some_iff.1 hmarker
  rw [hrest, List.findSome?_cons, hname]

theorem explicitName?_union (getter setter : DeclaredMethod) :
    PropertyDraft.explicitName? (getter.metadata.union setter.metadata) =
      MarkerKind.naming.findSome? (heardName? getter setter) := by
  unfold PropertyDraft.explicitName?
  rw [← List.head?_filterMap, List.filterMap_filterMap, List.head?_filterMap]
  simp only [Metadata.get?_union]
  rfl

/-- Let a getter and a setter make a property that is no identity.  Its mapped name is the first one
that is heard of the kinds of markers that give names, or else what the settings make of its name.
It is the first one that is given exactly if that is heard, or happens to be what is taken in its
place: what is heard next, or made of the name. -/
theorem mappedName_eq_given_iff {context : Context} {lineage : Lineage} {declaring : TypeKey}
    {depth : Nat} {name : String} {property : PropertyDraft}
    (hproperty : draft? context lineage declaring depth name getter setter = some property)
    (hid : ¬ property.metadata.has .id) :
    property.mappedName = some ((MarkerKind.naming.findSome? (heardName? getter setter)).getD
      (context.settings.fieldNaming.apply name)) ∧
    (property.mappedName = some ((MarkerKind.naming.findSome? (givenName? getter setter)).getD
        (context.settings.fieldNaming.apply name)) ↔
      ∀ before kind after given, MarkerKind.naming = before ++ kind :: after →
        (∀ other ∈ before, givenName? getter setter other = none) →
        givenName? getter setter kind = some given → heardName? getter setter kind = none →
        (after.findSome? (heardName? getter setter)).getD
          (context.settings.fieldNaming.apply name) = given) := by
  have hmapped : property.mappedName =
      some ((MarkerKind.naming.findSome? (heardName? getter setter)).getD
        (context.settings.fieldNaming.apply name)) := by
    obtain ⟨declared, -, rfl⟩ := Option.map_eq_some_iff.1 hproperty
    change some (PropertyDraft.mappedNameOf context.settings name _) = _
    rw [PropertyDraft.mappedNameOf, if_neg hid, explicitName?_union]
  refine ⟨hmapped, ?_⟩
  rw [hmapped, Option.some.injEq, getD_findSome?_eq_iff fun _ _ => givenName?_of_heardName?]

end DeclaredMethod

def Declarations.sensor : Declarations :=
  .ofList [{ name := "Sensor", methods := [
    { name := "getCelsius", shape := .getter, type := some "f64", metadata := ⟨[.property none]⟩ },
    { name := "setCelsius", shape := .setter, type := some "f64",
      metadata := ⟨[.property (some "c")]⟩ },
    { name := "getLabel", shape := .getter, type := some "String" },
    { name := "setLabel", shape := .setter, type := some "String",
      metadata := ⟨[.property (some "l")]⟩ }] }]

/-- The label of a sensor is stored under the name on its setter. -/
theorem DeclaredMethod.mappedName_eq_given_sensor :
    let schema := Declarations.sensor.schema
    let getter : DeclaredMethod := ⟨"getLabel", .getter, some (.applied .string []), {}⟩
    let setter : DeclaredMethod :=
      ⟨"setLabel", .setter, some (.applied .string []), ⟨[.property (some "l")]⟩⟩
    ∃ node property, schema.node? ⟨25⟩ = some node ∧ getter ∈ node.methods ∧
      setter ∈ node.methods ∧
      draft? ⟨schema, {}⟩ (.ofNode schema node) ⟨25⟩ 0 "label" getter setter = some property ∧
      ¬ property.metadata.has .id ∧ property.mappedName = some "l" := by
  intro schema getter setter
  have hnode : (schema.node? ⟨25⟩).any fun node =>
      getter ∈ node.methods ∧ setter ∈ node.methods := by
    decide +kernel
  obtain ⟨node, hnode, hmethods⟩ := Option.any_eq_true _ _ |>.1 hnode
  obtain ⟨hgetter, hsetter⟩ := of_decide_eq_true hmethods
  obtain ⟨property, hproperty⟩ : ∃ property, draft? ⟨schema, {}⟩ (.ofNode schema node) ⟨25⟩ 0
      "label" getter setter = some property := ⟨_, rfl⟩
  have hid : ¬ property.metadata.has .id := by
    cases hproperty
    change ¬ (getter.metadata.union setter.metadata).has .id
    decide
  have hheard : ∀ kind ∈ MarkerKind.naming, heardName? getter setter kind =
      givenName? getter setter kind := by
    decide
  refine ⟨node, property, hnode, hgetter, hsetter, hproperty, hid,
    (mappedName_eq_given_iff hproperty hid).2.2 ?_⟩
  intro before kind after given hkinds _ hgiven hnone
  rw [hheard kind (by simp [hkinds]), hgiven] at hnone
  cases hnone

/-- The setter of the temperature gives it a name too, which is the first one that is given, but the
model of the sensor stores it under another. -/
theorem Declarations.not_given_sensor :
    ∃ schema, sensor.build = .ok schema ∧ ∃ node, schema.node? ⟨25⟩ = some node ∧
      ∃ getter ∈ node.methods, ∃ setter ∈ node.methods,
        MarkerKind.naming.findSome? (DeclaredMethod.givenName? getter setter) = some "c" ∧
        ∃ model, (Mapper.standard ⟨schema, { propertyDiscovery := .methods }⟩).answerAfter [] ⟨25⟩ =
          .ok (some model) ∧
          ∃ property ∈ model.properties,
            property.accessor = .method getter.name setter.name 0 ∧
            ¬ property.metadata.has .id ∧ property.mappedName = "celsius" := by
  let getter : DeclaredMethod :=
    ⟨"getCelsius", .getter, some (.applied ⟨15⟩ []), ⟨[.property none]⟩⟩
  let setter : DeclaredMethod :=
    ⟨"setCelsius", .setter, some (.applied ⟨15⟩ []), ⟨[.property (some "c")]⟩⟩
  have hnode : (sensor.schema.node? ⟨25⟩).any fun node =>
      getter ∈ node.methods ∧ setter ∈ node.methods := by
    decide +kernel
  obtain ⟨node, hnode, hmethods⟩ := Option.any_eq_true _ _ |>.1 hnode
  obtain ⟨hgetter, hsetter⟩ := of_decide_eq_true hmethods
  have hmodel : ((Mapper.standard ⟨sensor.schema, { propertyDiscovery := .methods }⟩).answerAfter []
      ⟨25⟩).toOption.join.any fun model => ∃ property ∈ model.properties,
        property.accessor = .method getter.name setter.name 0 ∧ ¬ property.metadata.has .id ∧
          property.mappedName = "celsius" := by
    decide +kernel
  obtain ⟨model, hmodel, hproperty⟩ := ModelAnswer.exists_of_any hmodel
  exact ⟨sensor.schema, build_eq_schema (by decide +kernel), node, hnode, getter, hgetter, setter,
    hsetter, by decide, model, hmodel, of_decide_eq_true hproperty⟩

end ObjectDocument
