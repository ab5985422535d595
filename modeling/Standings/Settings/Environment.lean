/-! # Environments

What the variables of a process say. A process holds each variable as one text, `name=value`, and
whoever asks for a name gets what stands behind it and an equals sign. So a name with an equals sign
in it finds the end of a value: `A=B` finds `C` where `A` is set to `B=C`. -/

namespace Standings

/-- The value of every environment variable. -/
abbrev Environment := String → Option String

namespace Environment

/-- What stands in a variable's text behind a name and an equals sign. -/
def valueIn? (name : String) (binding : String × String) : Option String :=
  let sought := (name ++ "=").toList
  let text := (binding.1 ++ "=" ++ binding.2).toList
  if sought.isPrefixOf text then some (String.ofList (text.drop sought.length)) else none

/-- The environment of variables with their values, of which the first counts. No variable has an
empty name. -/
def ofBindings (bindings : List (String × String)) : Environment := fun name =>
  if name = "" then none else bindings.findSome? (valueIn? name)

end Environment

end Standings
