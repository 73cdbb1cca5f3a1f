import ComposeToPodman.Dict
import ComposeToPodman.Text.Basic

/-! Compose documents: what every accepted way of writing a compose file comes down to, and an order
in which their services can start. -/
namespace ComposeToPodman.Compose

inductive Protocol
  | tcp
  | udp
deriving DecidableEq, Repr, Inhabited

def Protocol.text : Protocol → String
  | tcp => "tcp"
  | udp => "udp"

/-- Case does not count; what is no protocol is given back in lower case. -/
def Protocol.ofText (s : String) : Except String Protocol :=
  match String.ofList (s.toList.map Char.toLower) with
  | "tcp" => .ok .tcp
  | "udp" => .ok .udp
  | other => .error other

def Protocol.unsupported (s : String) : String := "unsupported protocol '" ++ s ++ "'"

structure PortMapping where
  hostIp : Option String := none
  hostPort : Nat
  containerPort : Nat
  protocol : Protocol := .tcp
deriving DecidableEq, Repr, Inhabited

/-- `[ip:]host:container`. An address with colons stands in brackets. -/
def PortMapping.binding (p : PortMapping) : String :=
  let ports := toString p.hostPort ++ ":" ++ toString p.containerPort
  match p.hostIp with
  | some ip => if ip.toList.contains ':' then "[" ++ ip ++ "]:" ++ ports else ip ++ ":" ++ ports
  | none => ports

def PortMapping.text (p : PortMapping) : String := p.binding ++ "/" ++ p.protocol.text

inductive MountKind
  | bind
  | volume
deriving DecidableEq, Repr, Inhabited

def MountKind.text : MountKind → String
  | bind => "bind"
  | volume => "volume"

structure Mount where
  /-- A path on the host, or the name of a volume. -/
  source : String
  target : String
  kind : MountKind
  options : TextSet := {}
deriving DecidableEq, Repr, Inhabited

namespace Mount

def hasRelabel (m : Mount) : Bool := m.options.contains "z" || m.options.contains "Z"

def isReadOnly (m : Mount) : Bool := m.options.contains "ro"

/-- The options behind the target, after a colon if there are any. -/
def optionSuffix (m : Mount) : String :=
  if m.options.isEmpty then "" else ":" ++ ",".intercalate m.options.toList

/-- `source:target[:option,…]`. -/
def short (m : Mount) : String := m.source ++ ":" ++ m.target ++ m.optionSuffix

end Mount

inductive RestartPolicy
  | no
  | always
  | unlessStopped
  /-- With the number of retries, if it is limited. -/
  | onFailure (retries : Option Nat)
deriving DecidableEq, Repr

namespace RestartPolicy

def text : RestartPolicy → String
  | no => "no"
  | always => "always"
  | unlessStopped => "unless-stopped"
  | onFailure none => "on-failure"
  | onFailure (some n) => "on-failure:" ++ toString n

/-- The number of retries is below `2 ^ 32`. -/
def ofText? (s : String) : Option RestartPolicy :=
  match Text.trim s with
  | "no" => some no
  | "false" => some no
  | "always" => some always
  | "unless-stopped" => some unlessStopped
  | "on-failure" => some (onFailure none)
  | other => do
    let count ← Text.afterText? "on-failure:" other
    let n ← Text.boundedNatural? 0xffffffff count.toList
    return onFailure (some n)

end RestartPolicy

inductive NetworkMode
  | host
  | none
  | bridge
  /-- In the network namespace of another service. -/
  | container (service : String)
deriving DecidableEq, Repr

namespace NetworkMode

def text : NetworkMode → String
  | host => "host"
  | none => "none"
  | bridge => "bridge"
  | container service => "container:" ++ service

/-- A service is named as one or as its container. -/
def ofText? (s : String) : Option NetworkMode :=
  match Text.trim s with
  | "host" => some host
  | "none" => some none
  | "bridge" => some bridge
  | other =>
    match (Text.afterText? "container:" other).or (Text.afterText? "service:" other) with
    | some name => if name.isEmpty then .none else some (container name)
    | .none => .none

end NetworkMode

structure Service where
  name : String
  image : String := ""
  ports : List PortMapping := []
  mounts : List Mount := []
  environment : Dict String := {}
  networks : List String := []
  restart : Option RestartPolicy := none
  networkMode : Option NetworkMode := none
  privileged : Bool := false
  command : Option (List String) := none
  entrypoint : Option (List String) := none
  dependsOn : List String := []
  labels : Dict String := {}
deriving DecidableEq, Repr, Inhabited

structure Network where
  name : String
  driver : String := "bridge"
  internal : Bool := false
  external : Bool := false
  subnet : Option String := none
  gateway : Option String := none
deriving DecidableEq, Repr, Inhabited

structure Volume where
  name : String
  driver : String := "local"
  external : Bool := false
deriving DecidableEq, Repr, Inhabited

structure Document where
  version : Option String := none
  name : Option String := none
  services : List Service := []
  networks : Dict Network := {}
  volumes : Dict Volume := {}
deriving DecidableEq, Repr, Inhabited

/-- The network that a service joins if it lists none. -/
def defaultNetwork : String := "default"

namespace Document

/-- The first service with a name. -/
def service? (d : Document) (name : String) : Option Service := d.services.find? (·.name == name)

theorem service?_map {d e : Document} {f : Service → Service}
    (services : e.services = d.services.map f) (named : ∀ s, (f s).name = s.name) (name : String) :
    e.service? name = (d.service? name).map f := by
  have same : (fun s : Service => s.name == name) ∘ f = fun s => s.name == name :=
    funext fun s => congrArg (· == name) (named s)
  rw [service?, services, List.find?_map, same, service?]

def hasService (d : Document) (name : String) : Bool := (d.service? name).isSome

/-- What a name depends on; a name without a service depends on nothing. -/
def dependencies (d : Document) (name : String) : List String :=
  match d.service? name with
  | some s => s.dependsOn
  | none => []

end Document

/-- Put a name and what it depends on behind an order, depth first. `path` holds the names that wait
for this one, and `fuel` exceeds the number of names that can still wait. A name that waits for
itself is the error. -/
def visit (dependencies : String → List String) :
    Nat → List String → List String → String → Except String (List String)
  | 0, _, order, _ => .ok order
  | fuel + 1, path, order, name =>
    if name ∈ order then .ok order
    else if name ∈ path then .error name
    else do
      let order ← (dependencies name).foldlM (visit dependencies fuel (name :: path)) order
      return order ++ [name]

/-- An order in which the services can start. Only services make a name wait, so their number bounds
the path. -/
def Document.startOrder (d : Document) : Except String (List String) :=
  (d.services.map (·.name)).foldlM (visit d.dependencies (d.services.length + 1) []) []

end ComposeToPodman.Compose
