import ObjectDocument.Draft

/-!
# Rules

A rule looks at an entity model, or at one property of it at a time, and reports violations.  Every
rule runs, and everything found is collected, before a fatal violation makes the model fail.
-/

namespace ObjectDocument

inductive Rule where
  | entity (check : Context → EntityModel → Consult (List Violation))
  /-- A rule that looks at each property in turn. -/
  | property (check : Context → EntityModel → PropertyDescriptor → Consult (List Violation))

namespace Violation

def ofModel (model : EntityModel) (severity : Severity) (rule message : String) : Violation :=
  { severity, entity := model.name, entityType := model.typeKey, property := none, rule, message }

def ofProperty (model : EntityModel) (property : PropertyDescriptor) (severity : Severity)
    (rule message : String) : Violation :=
  { ofModel model severity rule message with property := some property.name }

def level (violation : Violation) : LogLevel :=
  match violation.severity with
  | .minor | .info => .info
  | .warning | .severe => .warn
  | .fatal => .error

end Violation

def Rule.violations (rule : Rule) (context : Context) (model : EntityModel) :
    Consult (List Violation) :=
  match rule with
  | .entity check => check context model
  | .property check => List.flatten <$> model.properties.mapM (check context model)

structure Validator where
  rules : List Rule

namespace Validator

def empty : Validator := ⟨[]⟩

def withRule (validator : Validator) (rule : Rule) : Validator :=
  ⟨validator.rules ++ [rule]⟩

def validate (validator : Validator) (context : Context) (model : EntityModel) :
    Consult (List Violation) :=
  List.flatten <$> validator.rules.mapM (·.violations context model)

def check (validator : Validator) (context : Context) (model : EntityModel) : ConsultM Unit := do
  let violations ← ExceptT.lift (validator.validate context model)
  ExceptT.lift (Consult.tellAll (violations.map fun violation =>
    ⟨violation.level, violation.render⟩))
  if violations.any (·.severity = .fatal) then
    throw (.validation { entity := model.name, violations })

end Validator

end ObjectDocument
