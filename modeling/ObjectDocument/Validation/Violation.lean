import ObjectDocument.TypeKey

/-!
# Violations

What a rule of validation reports about an entity or one of its properties.
-/

namespace ObjectDocument

inductive Severity where
  | minor
  | info
  | warning
  | severe
  | fatal
deriving DecidableEq, Repr

namespace Severity

def rank : Severity → Nat
  | .minor => 0
  | .info => 1
  | .warning => 2
  | .severe => 3
  | .fatal => 4

def label : Severity → String
  | .minor => "MINOR"
  | .info => "INFO"
  | .warning => "WARNING"
  | .severe => "SEVERE"
  | .fatal => "FATAL"

def sort (severities : List Severity) : List Severity :=
  severities.mergeSort fun a b => a.rank ≤ b.rank

end Severity

structure Violation where
  severity : Severity
  entity : String
  entityType : TypeKey
  /-- The name of the property concerned, or none if it is the whole entity. -/
  property : Option String
  rule : String
  message : String
deriving DecidableEq, Repr

namespace Violation

def subject (violation : Violation) : String :=
  match violation.property with
  | some property => violation.entity ++ "." ++ property
  | none => violation.entity

def render (violation : Violation) : String :=
  violation.rule ++ " complained about " ++ violation.subject ++ " : " ++ violation.message

end Violation

structure ValidationFailure where
  entity : String
  violations : List Violation
deriving DecidableEq, Repr

namespace ValidationFailure

def fatal (failure : ValidationFailure) : List Violation :=
  failure.violations.filter (·.severity = .fatal)

def render (failure : ValidationFailure) : String :=
  "Mapping validation failed for " ++ failure.entity ++ ":" ++
    String.join (failure.violations.map fun violation =>
      "\n  [" ++ violation.severity.label ++ "] " ++ violation.render)

end ValidationFailure

end ObjectDocument
