import ComposeToPodman.Notice
import ComposeToPodman.Yaml.ReadError

/-! Why a conversion fails. -/
namespace ComposeToPodman

inductive Problem
  | rootNotMapping
  | noServices
  | servicesNotMapping
  | invalidName (kind : String) (name : String)
  | invalidServiceKey (key : Yaml.Value)
  | serviceNotMapping (service : String)
  | noImage (service : String)
  | unknownDependency (service : String) (dependency : String)
  | circularDependency (service : String)
deriving DecidableEq

def Problem.message : Problem → String
  | rootNotMapping => "top level of a compose file must be a mapping"
  | noServices => "no services defined"
  | servicesNotMapping => "'services' must be a mapping"
  | invalidName kind name =>
    "invalid " ++ kind ++ " name '" ++ name ++ "': must match [a-zA-Z0-9][a-zA-Z0-9_.-]*"
  | invalidServiceKey key => "invalid service name " ++ key.shown
  | serviceNotMapping service => "service '" ++ service ++ "' must be a mapping"
  | noImage service => "service '" ++ service ++ "' has no image"
  | unknownDependency service dependency =>
    "service '" ++ service ++ "' depends on unknown service '" ++ dependency ++ "'"
  | circularDependency service => "circular dependency detected for service '" ++ service ++ "'"

inductive Dangling
  | itself (service : String)
  | missing (service : String) (target : String)
deriving DecidableEq

def Dangling.message : Dangling → String
  | itself service => "service '" ++ service ++ "' cannot join its own network namespace"
  | missing service target =>
    "service '" ++ service ++ "' uses network_mode 'container:" ++ target ++
      "' but no such service exists"

inductive ConversionError
  | unsupportedFormat (selector : String)
  | unreadable (cause : Yaml.ReadError)
  | invalid (problems : List Problem)
  | unresolved (reference : Dangling)
deriving DecidableEq

namespace ConversionError

def message : ConversionError → String
  | unsupportedFormat selector =>
    "Unsupported format: " ++ selector ++ " (expected one of podman-compose, quadlet, kube)"
  | unreadable cause => "Failed to parse YAML: " ++ cause.message
  | invalid problems => "Compose file parse error: " ++ "; ".intercalate (problems.map (·.message))
  | unresolved reference => "Unresolved reference: " ++ reference.message

/-- The problems of a document are told one by one. -/
def messages : ConversionError → List String
  | invalid problems => problems.map (·.message)
  | e => [e.message]

end ConversionError

/-- An error together with the warnings that came before it. -/
structure Failure where
  error : ConversionError
  warnings : List Notice := []
deriving DecidableEq

/-- The order, or the failure of a document that has none: the name that waits for itself is its
only problem. -/
def Compose.Document.startOrderOrFail (d : Compose.Document) :
    Except ConversionError (List String) :=
  match d.startOrder with
  | .ok order => .ok order
  | .error name => .error (.invalid [.circularDependency name])

end ComposeToPodman
