import ComposeToPodman.Compose.Form.Basic
import ComposeToPodman.Yaml.Value

/-! Forms as YAML values: records with all their fields in declaration order, absent ones null. -/
namespace ComposeToPodman.Compose.Form

open Yaml

def textValue (s : String) : Value := .string s

def optionalValue (f : α → Value) : Option α → Value
  | none => .null
  | some a => f a

def listValue (f : α → Value) (l : List α) : Value := .sequence (l.map f)

def dictValue (f : α → Value) (d : Dict α) : Value :=
  .mapping (d.entries.map fun (k, a) => (.string k, f a))

def recordValue (fields : List (String × Value)) : Value :=
  .mapping (fields.map fun (name, v) => (.string name, v))

def Scalar.toValue : Scalar → Value
  | .bool b => .bool b
  | .int i => .number (.int i)
  | .float x => .number (.float x)
  | .text s => .string s

def Command.toValue : Command → Value
  | .shell line => .string line
  | .words ws => listValue textValue ws

def Environment.toValue : Environment → Value
  | .list items => listValue textValue items
  | .map values => dictValue (optionalValue Scalar.toValue) values

def LongPort.toValue (p : LongPort) : Value :=
  recordValue [
    ("target", .number (.int p.target)),
    ("published", optionalValue Scalar.toValue p.published),
    ("host_ip", optionalValue textValue p.hostIp),
    ("protocol", optionalValue textValue p.protocol),
    ("mode", optionalValue textValue p.mode)]

def Port.toValue : Port → Value
  | .short spec => spec.toValue
  | .long port => port.toValue

def BindOptions.toValue (b : BindOptions) : Value :=
  recordValue [
    ("propagation", optionalValue textValue b.propagation),
    ("selinux", optionalValue textValue b.selinux)]

def LongMount.toValue (m : LongMount) : Value :=
  recordValue [
    ("type", optionalValue textValue m.kind),
    ("source", optionalValue textValue m.source),
    ("target", .string m.target),
    ("read_only", optionalValue .bool m.readOnly),
    ("bind", optionalValue BindOptions.toValue m.bind)]

def Mount.toValue : Mount → Value
  | .short spec => .string spec
  | .long mount => mount.toValue

def Attachment.toValue (a : Attachment) : Value :=
  recordValue [
    ("aliases", optionalValue (listValue textValue) a.aliases),
    ("ipv4_address", optionalValue textValue a.ipv4Address),
    ("ipv6_address", optionalValue textValue a.ipv6Address)]

def Networks.toValue : Networks → Value
  | .list names => listValue textValue names
  | .map attachments => dictValue (optionalValue Attachment.toValue) attachments

def Condition.toValue (c : Condition) : Value :=
  recordValue [("condition", optionalValue textValue c.condition)]

def Dependencies.toValue : Dependencies → Value
  | .list names => listValue textValue names
  | .map conditions => dictValue Condition.toValue conditions

def Labels.toValue : Labels → Value
  | .list items => listValue textValue items
  | .map values => dictValue Scalar.toValue values

def External.toValue : External → Value
  | .flag b => .bool b
  | .named name => recordValue [("name", .string name)]

def Pool.toValue (p : Pool) : Value :=
  recordValue [
    ("subnet", optionalValue textValue p.subnet),
    ("gateway", optionalValue textValue p.gateway)]

def Ipam.toValue (i : Ipam) : Value :=
  recordValue [
    ("driver", optionalValue textValue i.driver),
    ("config", listValue Pool.toValue i.pools)]

def Network.toValue (n : Network) : Value :=
  recordValue [
    ("driver", optionalValue textValue n.driver),
    ("ipam", optionalValue Ipam.toValue n.ipam),
    ("external", optionalValue External.toValue n.external),
    ("internal", optionalValue .bool n.internal),
    ("name", optionalValue textValue n.name)]

def Volume.toValue (v : Volume) : Value :=
  recordValue [
    ("driver", optionalValue textValue v.driver),
    ("external", optionalValue External.toValue v.external),
    ("name", optionalValue textValue v.name)]

end ComposeToPodman.Compose.Form
