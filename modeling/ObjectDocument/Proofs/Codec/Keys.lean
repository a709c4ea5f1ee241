import Mathlib.Algebra.Order.BigOperators.Group.List
import Mathlib.Algebra.Order.Ring.Nat
import ObjectDocument.Codec
import ObjectDocument.Proofs.Draft.Names
import ObjectDocument.Proofs.Mapper.History
import ObjectDocument.Proofs.Schema.Built
import ObjectDocument.Value.Standard

/-!
# Keys of encoded documents

Encoding puts the values of properties under their mapped names, one after another, and a value that
is put under a key that is there takes the place of the other.  So a document has an entry for
everything that is stored exactly if the key of the discriminator and the mapped names differ
(`EntityModel.nodup_documentKeys_iff`): if two of them are the same, then there is an instance of
which a value is lost.
-/

namespace ObjectDocument

namespace EntityModel

def discriminatorEntries (model : EntityModel) : Document :=
  model.discriminatorEntry?.toList.map fun (key, value) => (key, .string value)

def documentKeys (model : EntityModel) : List String :=
  model.discriminatorEntries.map (·.1) ++ model.properties.map (·.mappedName)

end EntityModel

theorem lookup_map_of_mem {α : Type} {names : List String} {name : String} (f : String → α)
    (h : name ∈ names) : (names.map fun name => (name, f name)).lookup name = some (f name) := by
  induction names with
  | nil => cases h
  | cons first names ih =>
      by_cases hfirst : name = first
      · simp [hfirst]
      · rw [List.map_cons, List.lookup_cons, beq_false_of_ne hfirst]
        exact ih ((List.mem_cons.1 h).resolve_left hfirst)

section

variable [ValueTypes]

namespace EntityModel

variable {model : EntityModel} {settings : Settings} {object : Instance}

def storedEntries (settings : Settings) (object : Instance) :
    List PropertyDescriptor → Except MappingError Document
  | [] => .ok []
  | property :: rest => do
    let value ← property.read object
    let entries ← storedEntries settings object rest
    return if stores settings value then (property.mappedName, value) :: entries else entries

/-- The discriminator and what is stored of an instance, an entry for each. -/
def entries (model : EntityModel) (settings : Settings) (object : Instance) :
    Except MappingError Document :=
  (model.discriminatorEntries ++ ·) <$> storedEntries settings object model.properties

theorem encode_eq (model : EntityModel) (settings : Settings) (object : Instance) :
    model.encode settings object =
      encodeProperties settings object model.properties model.discriminatorEntries := by
  unfold encode discriminatorEntries
  cases model.discriminatorEntry? <;> rfl

theorem encodeProperties_of_nodup {properties : List PropertyDescriptor} {document : Document}
    (hnodup : (document.map (·.1) ++ properties.map (·.mappedName)).Nodup) :
    encodeProperties settings object properties document =
      (document ++ ·) <$> storedEntries settings object properties := by
  induction properties generalizing document with
  | nil =>
      change _ = Except.ok (document ++ [])
      rw [List.append_nil]
      rfl
  | cons property rest ih =>
      rw [encodeProperties, storedEntries]
      cases property.read object with
      | error cause => rfl
      | ok value =>
          have hkey : property.mappedName ∉ document.map (·.1) := fun hkey =>
            List.disjoint_of_nodup_append hnodup hkey List.mem_cons_self
          by_cases hstores : stores settings value
          · have hnext : ((document ++ [(property.mappedName, value)]).map (·.1) ++
                rest.map (·.mappedName)).Nodup := by
              simpa using hnodup
            have hrest := ih hnext
            change encodeProperties settings object rest
              (if stores settings value then document.insert property.mappedName value
                else document) = _
            rw [if_pos hstores, OrderedMap.insert_of_notMem hkey, hrest]
            cases storedEntries settings object rest with
            | error cause => rfl
            | ok entries =>
                change Except.ok _ = Except.ok _
                simp [hstores]
          · have hnext : (document.map (·.1) ++ rest.map (·.mappedName)).Nodup :=
              hnodup.sublist ((List.Sublist.refl _).append (List.sublist_cons_self _ _))
            have hrest := ih hnext
            change encodeProperties settings object rest
              (if stores settings value then document.insert property.mappedName value
                else document) = _
            rw [if_neg hstores, hrest]
            cases storedEntries settings object rest with
            | error cause => rfl
            | ok entries =>
                change Except.ok _ = Except.ok _
                simp [hstores]

/-- A document never has a key twice. -/
theorem nodup_encodeProperties {properties : List PropertyDescriptor} {document written : Document}
    (hnodup : (document.map (·.1)).Nodup)
    (h : encodeProperties settings object properties document = .ok written) :
    (written.map (·.1)).Nodup := by
  induction properties generalizing document with
  | nil =>
      cases h
      exact hnodup
  | cons property rest ih =>
      obtain ⟨value, -, h⟩ := Except.bind_eq_ok_iff.1 h
      refine ih ?_ h
      by_cases hstores : stores settings value
      · rw [if_pos hstores]
        exact OrderedMap.nodup_insert hnodup _ _
      · rwa [if_neg hstores]

end EntityModel

/-! ### An instance of which everything is stored -/

def Bson.sample : Bson :=
  .array [.null]

def Accessor.source : Accessor → String
  | .field name _ => name
  | .method getter _ _ => getter
  | .array name _ _ => name

def Part.sample (names : List String) : Part where
  fields := names.map fun name => (name, ⟨.any, Bson.sample⟩)
  cells := names.map fun name => (name, ⟨.any, Bson.sample⟩)
  getters := names.map fun name => (name, name)

def Instance.sample (properties : List PropertyDescriptor) : Instance :=
  ⟨List.replicate ((properties.map (·.accessor.depth)).sum + 1)
    (Part.sample (properties.map (·.accessor.source)))⟩

theorem Part.readField_sample {names : List String} {name : String} (h : name ∈ names) :
    Accessor.readField name (Part.sample names) = .ok Bson.sample := by
  have hlookup := lookup_map_of_mem (fun _ => (⟨.any, Bson.sample⟩ : Slot)) h
  simp only [Accessor.readField, readField?, Slots.read?, sample, hlookup]
  rfl

theorem Part.callGetter_sample {names : List String} {name : String} (h : name ∈ names) :
    Accessor.callGetter name (Part.sample names) = .ok Bson.sample := by
  have hlookup := lookup_map_of_mem (fun _ => (⟨.any, Bson.sample⟩ : Slot)) h
  have hgetter := lookup_map_of_mem (fun name => name) h
  simp only [Accessor.callGetter, callGetter?, Slots.read?, sample, hgetter, Option.bind_eq_bind,
    Option.bind_some, hlookup]
  rfl

theorem Instance.read_sample {properties : List PropertyDescriptor} {property : PropertyDescriptor}
    (h : property ∈ properties) :
    property.read (Instance.sample properties) = .ok Bson.sample := by
  have hdepth : property.accessor.depth < (properties.map (·.accessor.depth)).sum + 1 :=
    Nat.lt_succ_of_le (List.le_sum_of_mem (List.mem_map_of_mem h))
  have hpart : (Instance.sample properties).part property.accessor.depth =
      .ok (Part.sample (properties.map (·.accessor.source))) := by
    simp [Instance.part, Instance.sample, hdepth]
  have hsource : property.accessor.source ∈ properties.map (·.accessor.source) :=
    List.mem_map_of_mem h
  have hget : property.accessor.get (Instance.sample properties) = .ok Bson.sample := by
    cases haccessor : property.accessor with
    | field name depth =>
        rw [haccessor] at hpart hsource
        simp only [Accessor.depth] at hpart
        simp only [Accessor.get, hpart]
        exact Part.readField_sample hsource
    | method getter setter depth =>
        rw [haccessor] at hpart hsource
        simp only [Accessor.depth] at hpart
        simp only [Accessor.get, hpart]
        exact Part.callGetter_sample hsource
    | array name depth element =>
        rw [haccessor] at hpart hsource
        simp only [Accessor.depth] at hpart
        have hread : Accessor.readField name _ = _ := Part.readField_sample hsource
        have hcoerce : element.coerceArray Bson.sample = .ok Bson.sample := by
          cases element <;> rfl
        simp only [Accessor.get, hpart]
        change Accessor.readField name _ >>= element.coerceArray = _
        rw [hread]
        exact hcoerce
  rw [PropertyDescriptor.read, hget]
  rfl

namespace EntityModel

variable {model : EntityModel} {settings : Settings} {object : Instance}

/-- If every property has the same value, which is always stored, then each has an entry. -/
theorem storedEntries_of_sample {properties : List PropertyDescriptor}
    (h : ∀ property ∈ properties, property.read object = .ok Bson.sample) :
    storedEntries settings object properties =
      .ok (properties.map fun property => (property.mappedName, Bson.sample)) := by
  induction properties with
  | nil => rfl
  | cons property rest ih =>
      rw [storedEntries, h property List.mem_cons_self,
        ih fun other hother => h other (List.mem_cons_of_mem _ hother)]
      rfl

/-- Everything that is stored of every instance has an entry of its own exactly if the keys of
documents differ. -/
theorem nodup_documentKeys_iff (model : EntityModel) (settings : Settings) :
    model.documentKeys.Nodup ↔
      ∀ object, model.encode settings object = model.entries settings object := by
  constructor
  · intro hnodup object
    rw [encode_eq, encodeProperties_of_nodup hnodup]
    rfl
  · intro h
    have hread : ∀ property ∈ model.properties,
        property.read (Instance.sample model.properties) = .ok Bson.sample :=
      fun property hproperty => Instance.read_sample hproperty
    have hentries := h (Instance.sample model.properties)
    rw [entries, storedEntries_of_sample hread, encode_eq] at hentries
    have hstart : (model.discriminatorEntries.map (·.1)).Nodup := by
      unfold discriminatorEntries
      cases model.discriminatorEntry? <;> simp
    have hnodup := nodup_encodeProperties hstart hentries
    rw [List.map_append, List.map_map] at hnodup
    exact hnodup

end EntityModel

end

namespace EntityModel

variable {model : EntityModel}

/-- No two properties have the same mapped name, and none has the key of a discriminator that is
written. -/
def KeysDiffer (model : EntityModel) : Prop :=
  (model.properties.map (·.mappedName)).Nodup ∧
    (model.discriminatorEnabled → ∀ key ∈ model.discriminatorKey,
      key ∉ model.properties.map (·.mappedName))

instance (model : EntityModel) : Decidable model.KeysDiffer :=
  inferInstanceAs (Decidable (_ ∧ _))

theorem KeysDiffer.nodup_documentKeys (h : model.KeysDiffer) : model.documentKeys.Nodup := by
  obtain ⟨hnames, hkey⟩ := h
  unfold documentKeys discriminatorEntries discriminatorEntry?
  by_cases henabled : model.discriminatorEnabled
  · rw [if_pos henabled]
    cases hname : model.discriminatorKey with
    | none => simpa using hnames
    | some key =>
        cases model.discriminator with
        | none => simpa using hnames
        | some value => exact List.nodup_cons.2 ⟨hkey henabled key hname, hnames⟩
  · rw [if_neg henabled]
    exact hnames

theorem keysDiffer_iff {context : Context} {key : TypeKey}
    (h : context.outline key = .ok model.contents) :
    model.KeysDiffer ↔ model.documentKeys.Nodup := by
  unfold KeysDiffer documentKeys discriminatorEntries discriminatorEntry?
  by_cases henabled : model.discriminatorEnabled
  · obtain ⟨name, value, hname, hvalue⟩ := Context.discriminatorEntry?_outline h henabled
    have hname : model.discriminatorKey = some name := hname
    have hvalue : model.discriminator = some value := hvalue
    simp [henabled, hname, hvalue, and_comm]
  · simp [henabled]

end EntityModel

/-- Of every model that is an answer, the mapped names are those that the settings give and the
logical names differ.  Each instance is encoded as its discriminator and an entry for every value
that is stored exactly if the keys of the model differ. -/
theorem Declarations.encode_eq_entries_iff [ValueTypes] {declarations : Declarations}
    {schema : Schema} (h : declarations.build = .ok schema) (settings : Settings)
    {earlier : List TypeKey}
    {key : TypeKey} {model : EntityModel}
    (hmodel : (Mapper.standard ⟨schema, settings⟩).answerAfter earlier key = .ok (some model)) :
    (∀ property ∈ model.properties, property.mappedName =
      PropertyDraft.mappedNameOf settings property.name property.metadata) ∧
    (model.properties.map (·.name)).Nodup ∧
    (model.discriminatorEnabled →
      ∃ name value, model.discriminatorEntries = [(name, .string value)]) ∧
    (model.KeysDiffer ↔
      ∀ object, model.encode settings object = model.entries settings object) := by
  have coherent : (Context.mk schema settings).schema.Coherent := Declarations.coherent h
  have houtline := Mapper.contents_of_answerAfter coherent hmodel
  have hnames : (model.contents.properties.map (·.name)).Nodup :=
    Context.names_nodup_outline houtline
  refine ⟨fun property hproperty => Context.mappedName_outline houtline hproperty, hnames,
    fun henabled => ?_, ?_⟩
  · obtain ⟨name, value, hname, hvalue⟩ := Context.discriminatorEntry?_outline houtline henabled
    have hname : model.discriminatorKey = some name := hname
    have hvalue : model.discriminator = some value := hvalue
    refine ⟨name, value, ?_⟩
    simp [EntityModel.discriminatorEntries, EntityModel.discriminatorEntry?, henabled, hname,
      hvalue]
  · rw [EntityModel.keysDiffer_iff houtline]
    exact model.nodup_documentKeys_iff settings

def Declarations.named : Declarations :=
  .ofList [
    { name := "Account", fields := [
      { name := "number", type := "i64", metadata := ⟨[.id]⟩ },
      { name := "owner", type := "String", metadata := ⟨[.property (some "holder")]⟩ },
      { name := "balance", type := "f64" }] }]

/-- Every account is encoded as its discriminator and an entry for every value that is stored. -/
theorem Declarations.encode_eq_entries_named :
    ∃ model, (Mapper.standard ⟨named.schema, {}⟩).answerAfter [] ⟨25⟩ = .ok (some model) ∧
      ∀ object, model.encode {} object = model.entries {} object := by
  have hnamed : ((Mapper.standard ⟨named.schema, {}⟩).answerAfter [] ⟨25⟩).toOption.join.any
      fun model => model.KeysDiffer := by
    decide +kernel
  obtain ⟨model, hmodel, hdiffer⟩ := ModelAnswer.exists_of_any hnamed
  refine ⟨model, hmodel, ?_⟩
  exact (encode_eq_entries_iff (build_eq_schema (by decide +kernel)) {} hmodel).2.2.2.1
    (of_decide_eq_true hdiffer)

def Declarations.clashing : Declarations :=
  .ofList [
    { name := "Account", fields := [
      { name := "owner", type := "String", metadata := ⟨[.property (some "name")]⟩ },
      { name := "branch", type := "String", metadata := ⟨[.property (some "name")]⟩ }] },
    { name := "Holder", fields := [{ name := "_t", type := "String" }] }]

/-- Both classes have models, and the keys of neither differ. -/
theorem Declarations.not_keysDiffer_clashing :
    ∃ schema, clashing.build = .ok schema ∧
      let mapper := Mapper.standard ⟨schema, {}⟩
      (∃ model, mapper.answerAfter [] ⟨25⟩ = .ok (some model) ∧
        ¬(model.properties.map (·.mappedName)).Nodup) ∧
      ∃ model, mapper.answerAfter [] ⟨26⟩ = .ok (some model) ∧ model.discriminatorEnabled ∧
        ∃ key ∈ model.discriminatorKey, key ∈ model.properties.map (·.mappedName) := by
  refine ⟨clashing.schema, build_eq_schema (by decide +kernel), ?_, ?_⟩
  · have hnames : ((Mapper.standard ⟨clashing.schema, {}⟩).answerAfter [] ⟨25⟩).toOption.join.any
        fun model => ¬(model.properties.map (·.mappedName)).Nodup := by
      decide +kernel
    obtain ⟨model, hmodel, hclash⟩ := ModelAnswer.exists_of_any hnames
    exact ⟨model, hmodel, of_decide_eq_true hclash⟩
  · have hnames : ((Mapper.standard ⟨clashing.schema, {}⟩).answerAfter [] ⟨26⟩).toOption.join.any
        fun model => model.discriminatorEnabled ∧
          ∃ key ∈ model.discriminatorKey, key ∈ model.properties.map (·.mappedName) := by
      decide +kernel
    obtain ⟨model, hmodel, hclash⟩ := ModelAnswer.exists_of_any hnames
    exact ⟨model, hmodel, of_decide_eq_true hclash⟩

end ObjectDocument
