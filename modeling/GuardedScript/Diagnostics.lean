import GuardedScript.Registration
import GuardedScript.Text.Quoted

/-!
# Diagnostics

One-line descriptions of contexts, policies and readers for a host that looks at its own state.
-/

set_option autoImplicit false

namespace GuardedScript

/-- A record with some of its fields, and a hint that there are more. -/
def describeRecord (name : String) (fields : List (String × String)) : String :=
  name ++ " \x7b " ++
    String.intercalate ", " (fields.map (fun field => field.1 ++ ": " ++ field.2) ++ [".."]) ++
    " \x7d"

/-- A list between brackets. -/
def describeList (items : List String) : String :=
  "[" ++ String.intercalate ", " items ++ "]"

/-- What a context is for; a call is told by the signature of its function. -/
def Kind.describe : Kind → String
  | global => "Global"
  | scope marker => "Scope(ScopeMarker(" ++ Text.quoted marker ++ "))"
  | call function => "FunctionCall(" ++ function.signature ++ ")"

/-- A context with its kind and depth, the names of its variables, and the number of keys under
which it has functions. -/
def Context.describe (context : Context) : Access String := do
  let registry ← context.registry
  return describeRecord "Context"
    [("kind", context.kind.describe), ("depth", toString context.depth),
      ("variables", describeList (registry.locals.keys.map Text.quoted)),
      ("functions", toString registry.functions.size)]

/-- A compound policy with the number of its children. -/
def Policy.describe? : Policy → Option String
  | compound _ children _ =>
    some (describeRecord "CompoundRestriction" [("children", toString children.length)])
  | _ => none

/-- The type of a parameter. -/
def ParameterType.describe : ParameterType → String
  | declared type =>
    "Declared(TypeInfo \x7b hierarchy: " ++ describeList (type.hierarchy.map Text.quoted) ++
      " \x7d)"
  | lateBound name => "LateBound(" ++ Text.quoted name ++ ")"

/-- The rule of a parameter for calls that pass nothing for it. -/
def Missing.describe : Missing → String
  | mandatory => "Mandatory"
  | optional => "Optional"
  | substitute default => "Substitute(" ++ default.text ++ ")"

/-- A reader with its parameter. -/
def Reader.describe {α : Type} (reader : Reader α) : String :=
  describeRecord "ParamSpec"
    [("parameter", "Parameter \x7b name: " ++ Text.quoted reader.parameter.name ++ ", ty: " ++
      reader.parameter.type.describe ++ ", missing: " ++ reader.parameter.missing.describe ++
      " \x7d")]

end GuardedScript
