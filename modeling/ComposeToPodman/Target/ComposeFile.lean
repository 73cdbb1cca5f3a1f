import ComposeToPodman.Target.Output
import ComposeToPodman.Yaml.Value.Write

/-! Documents as compose files. The document is shaped like one, so nothing is lost. -/
namespace ComposeToPodman.Target.ComposeFile

open Compose Yaml

def fileName : String := "compose.yaml"

/-- The protocol is told only where it is not the usual one. -/
def portText (p : PortMapping) : String :=
  match p.protocol with
  | .tcp => p.binding
  | .udp => p.text

def serviceValue (s : Service) : Value :=
  mapping [
    textField "image" s.image,
    optionalField "entrypoint" (s.entrypoint.map fun words => .sequence (texts words)),
    optionalField "command" (s.command.map fun words => .sequence (texts words)),
    listField "ports" (texts (s.ports.map portText)),
    listField "volumes" (texts (s.mounts.map Mount.short)),
    dictField "environment" .string s.environment,
    optionalField "restart" (s.restart.map fun r => .string r.text),
    optionalField "network_mode" (s.networkMode.map fun m => .string m.text),
    listField "networks" (texts s.networks),
    flagField "privileged" s.privileged,
    listField "depends_on" (texts s.dependsOn),
    dictField "labels" .string s.labels]

/-- The name is told only where it is not the key. -/
def nameField (key name : String) : Field := if name = key then none else textField "name" name

/-- The address pool of a network, if it has one. -/
def ipamField (n : Network) : Field :=
  if n.subnet.isNone && n.gateway.isNone then none
  else
    field "ipam" (mapping [
      field "config" (.sequence [
        mapping [
          optionalField "subnet" (n.subnet.map .string),
          optionalField "gateway" (n.gateway.map .string)]])])

def networkValue (key : String) (n : Network) : Value :=
  mapping [
    nameField key n.name,
    textField "driver" n.driver,
    flagField "internal" n.internal,
    flagField "external" n.external,
    ipamField n]

def volumeValue (key : String) (v : Volume) : Value :=
  mapping [nameField key v.name, textField "driver" v.driver, flagField "external" v.external]

/-- Put an entry at the end, or in the place of the one with its name. -/
def putEntry (name : String) (v : Value) : List (String × Value) → List (String × Value)
  | [] => [(name, v)]
  | (name', v') :: rest =>
    if name' = name then (name, v) :: rest else (name', v') :: putEntry name v rest

/-- Services in their order; of two with one name the last counts. -/
def serviceEntries (services : List Service) : List (String × Value) :=
  services.foldl (fun entries s => putEntry s.name (serviceValue s) entries) []

def resourcesField (name : String) (value : String → α → Value) (d : Dict α) : Field :=
  if d.isEmpty then none
  else field name (.mapping (d.entries.map fun (key, a) => (.string key, value key a)))

def documentValue (d : Document) : Value :=
  mapping [
    optionalField "version" (d.version.map .string),
    optionalField "name" (d.name.map .string),
    field "services"
      (.mapping ((serviceEntries d.services).map fun (name, v) => (.string name, v))),
    resourcesField "networks" networkValue d.networks,
    resourcesField "volumes" volumeValue d.volumes]

def output (d : Document) : Output := .single fileName (documentValue d).write {}

end ComposeToPodman.Target.ComposeFile
