import ObjectDocument.Text.Words

/-!
# Naming strategies

How a logical name becomes a stored one.
-/

namespace ObjectDocument

inductive NamingConvention where
  | identity
  | lowerCase
  | snakeCase
  | kebabCase
  | camelCase
deriving DecidableEq, Repr, Inhabited

inductive NamingStrategy where
  | standard (convention : NamingConvention)
  /-- A function of the user's own. -/
  | custom (rename : String → String)

namespace NamingConvention

def apply (convention : NamingConvention) (name : String) : String :=
  match convention with
  | .identity => name
  | .lowerCase => String.ofList (Text.lower name.toList)
  | .snakeCase => String.ofList (Text.joinWords ['_'] name.toList)
  | .kebabCase => String.ofList (Text.joinWords ['-'] name.toList)
  | .camelCase => String.ofList (Text.camelWords name.toList)

def text : NamingConvention → String
  | .identity => "Identity"
  | .lowerCase => "LowerCase"
  | .snakeCase => "SnakeCase"
  | .kebabCase => "KebabCase"
  | .camelCase => "CamelCase"

def word : NamingConvention → String
  | .identity => "identity"
  | .lowerCase => "lower_case"
  | .snakeCase => "snake_case"
  | .kebabCase => "kebab_case"
  | .camelCase => "camel_case"

def all : List NamingConvention :=
  [.identity, .lowerCase, .snakeCase, .kebabCase, .camelCase]

def ofWord? (word : String) : Option NamingConvention :=
  all.find? (·.word = word)

end NamingConvention

namespace NamingStrategy

def identity : NamingStrategy := .standard .identity

def apply : NamingStrategy → String → String
  | .standard convention => convention.apply
  | .custom rename => rename

def text : NamingStrategy → String
  | .standard convention => convention.text
  | .custom _ => "Custom(..)"

end NamingStrategy

end ObjectDocument
