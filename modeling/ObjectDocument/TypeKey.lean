/-!
# Type keys

A type is addressed by its position among the types of a schema.  The built-in types come first,
at fixed positions.
-/

namespace ObjectDocument

/-- The position of a type among the types of a schema. -/
structure TypeKey where
  index : Nat
deriving DecidableEq, Repr, Inhabited

namespace TypeKey

def object : TypeKey := ⟨0⟩

def boolean : TypeKey := ⟨1⟩

def byte : TypeKey := ⟨2⟩

def int16 : TypeKey := ⟨3⟩

def int32 : TypeKey := ⟨4⟩

def int64 : TypeKey := ⟨5⟩

def float : TypeKey := ⟨6⟩

def double : TypeKey := ⟨7⟩

def char : TypeKey := ⟨8⟩

def string : TypeKey := ⟨17⟩

def objectId : TypeKey := ⟨18⟩

def uuid : TypeKey := ⟨19⟩

def dateTime : TypeKey := ⟨20⟩

def document : TypeKey := ⟨21⟩

def list : TypeKey := ⟨22⟩

def set : TypeKey := ⟨23⟩

def map : TypeKey := ⟨24⟩

def text (key : TypeKey) : String :=
  "#" ++ toString key.index

end TypeKey

end ObjectDocument
