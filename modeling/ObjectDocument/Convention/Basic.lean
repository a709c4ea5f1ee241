import ObjectDocument.Draft

/-!
# Conventions

A convention is one pass over the draft of an entity model.  The passes of a mapper run in order,
and the first that fails ends the making of the model.
-/

namespace ObjectDocument

structure Convention where
  name : String
  apply : Context → DraftM Unit

def Convention.applyAll (context : Context) : List Convention → DraftM Unit
  | [] => pure ()
  | convention :: rest => do
    let draft ← get
    DraftM.tellAll [⟨.trace, "applying " ++ convention.name ++ " to " ++ draft.name⟩]
    convention.apply context
    applyAll context rest

end ObjectDocument
