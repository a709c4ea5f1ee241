import ObjectDocument.Convention.Basic

/-!
# Entity defaults

The last of the default conventions drops the properties that are not stored, picks the identity and
the version, and settles the discriminator.  The key of the discriminator and whether it is written
follow the entity marker of the lineage; its value follows that of the type itself, so that a type
never takes the value of its parent.
-/

namespace ObjectDocument

/-- Whether a property stays.  One that is the identity stays even if it is not to be stored, so
that validation can report the contradiction. -/
def PropertyDraft.isStored (property : PropertyDraft) : Bool :=
  !property.metadata.has .transient || property.metadata.has .id

namespace ModelDraft

/-- The draft with its identity and version, the first properties that are marked so. -/
def withKeys (draft : ModelDraft) : ModelDraft :=
  { draft with
    idProperty := (draft.firstNameWith .id).or draft.idProperty
    versionProperty := (draft.firstNameWith .version).or draft.versionProperty }

def chosenKey (draft : ModelDraft) (settings : Settings) : String :=
  ((draft.metadata.entity?.bind (·.discriminatorKey)).filter (· ≠ "")).getD
    settings.discriminatorKey

def chosenDiscriminator (draft : ModelDraft) (context : Context) : String :=
  let own := (context.schema.node? draft.typeKey).bind (·.metadata.entity?)
  ((own.bind (·.discriminator)).filter (· ≠ "")).getD
    (context.settings.discriminatorNaming.apply draft.name)

def nonempty? (text : String) : Option String :=
  if text = "" then none else some text

def withDiscriminator (draft : ModelDraft) (context : Context) : ModelDraft :=
  { draft with
    discriminatorEnabled := (draft.metadata.entity?.map (·.useDiscriminator)).getD true
    discriminatorKey := (nonempty? (draft.chosenKey context.settings)).or draft.discriminatorKey
    discriminator := (nonempty? (draft.chosenDiscriminator context)).or draft.discriminator }

end ModelDraft

def Convention.entityDefaults : Convention where
  name := "EntityDefaults"
  apply context := modify fun draft =>
    ((draft.retain PropertyDraft.isStored).withKeys).withDiscriminator context

end ObjectDocument
