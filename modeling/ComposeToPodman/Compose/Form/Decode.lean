import ComposeToPodman.Compose.Form.Basic
import ComposeToPodman.Yaml.Decode

/-! Forms from YAML values. Every choice between forms is tried in the order in which the forms are
declared. -/
namespace ComposeToPodman.Compose.Form

open Yaml Yaml.Decode

/-- The integers of a scalar are those of 64 bits with a sign; larger ones become floating point. -/
def Scalar.shapes : List (Value → Result Scalar) := [
  fun v => .bool <$> Decode.bool v,
  fun v => match v with
    | .number (.int i) =>
      if -0x8000000000000000 ≤ i ∧ i < 0x8000000000000000 then .ok (.int i)
      else .error (.outOfRange i "i64")
    | other => .error (.wrongType other "i64"),
  fun v => match v with
    | .number (.float x) => .ok (.float x)
    | .number (.int i) => .ok (.float (.ofInt i))
    | other => .error (.wrongType other "f64"),
  fun v => .text <$> Decode.string v]

def Scalar.ofValue : Value → Result Scalar := firstOf "Scalar" Scalar.shapes

def Command.shapes : List (Value → Result Command) := [
  fun v => .shell <$> Decode.string v,
  fun v => .words <$> Decode.list .shape Decode.string v]

def Command.ofValue : Value → Result Command := firstOf "CommandConfig" Command.shapes

def Environment.shapes : List (Value → Result Environment) := [
  fun v => .list <$> Decode.list .shape Decode.string v,
  fun v => .map <$> Decode.dict .shape (Decode.optional Scalar.ofValue) v]

def Environment.ofValue : Value → Result Environment :=
  firstOf "EnvironmentConfig" Environment.shapes

/-- An optional field. -/
def field (name : String) (read : Value → Result α) (set : Option α → σ → σ) : RecordField σ where
  name := name
  read v s := do return set (← Decode.optional read v) s

def LongPort.fields : List (RecordField LongPort) := [
  { name := "target", required := true,
    read := fun v s => do return { s with target := ← word16 v } },
  field "published" Scalar.ofValue fun a s => { s with published := a },
  field "host_ip" Decode.string fun a s => { s with hostIp := a },
  field "protocol" Decode.string fun a s => { s with protocol := a },
  field "mode" Decode.string fun a s => { s with mode := a }]

def LongPort.ofValue (m : Mode) : Value → Result LongPort :=
  record m "PortConfigLong" LongPort.fields { target := 0 }

def Port.shapes : List (Value → Result Port) := [
  fun v => .short <$> Scalar.ofValue v,
  fun v => .long <$> LongPort.ofValue .shape v]

def Port.ofValue : Value → Result Port := firstOf "PortConfig" Port.shapes

def BindOptions.fields : List (RecordField BindOptions) := [
  field "propagation" Decode.string fun a s => { s with propagation := a },
  field "selinux" Decode.string fun a s => { s with selinux := a }]

def BindOptions.ofValue (m : Mode) : Value → Result BindOptions :=
  record m "BindOptions" BindOptions.fields {}

def LongMount.fields (m : Mode) : List (RecordField LongMount) := [
  field "type" Decode.string fun a s => { s with kind := a },
  field "source" Decode.string fun a s => { s with source := a },
  { name := "target", required := true,
    read := fun v s => do return { s with target := ← Decode.string v } },
  field "read_only" Decode.bool fun a s => { s with readOnly := a },
  field "bind" (BindOptions.ofValue m) fun a s => { s with bind := a }]

def LongMount.ofValue (m : Mode) : Value → Result LongMount :=
  record m "VolumeMountLong" (LongMount.fields m) { target := "" }

def Mount.shapes : List (Value → Result Mount) := [
  fun v => .short <$> Decode.string v,
  fun v => .long <$> LongMount.ofValue .shape v]

def Mount.ofValue : Value → Result Mount := firstOf "VolumeMountConfig" Mount.shapes

def Attachment.fields (m : Mode) : List (RecordField Attachment) := [
  { field "aliases" (Decode.list m Decode.string) fun a s => { s with aliases := a } with
    omissible := true },
  field "ipv4_address" Decode.string fun a s => { s with ipv4Address := a },
  field "ipv6_address" Decode.string fun a s => { s with ipv6Address := a }]

def Attachment.ofValue (m : Mode) : Value → Result Attachment :=
  record m "ServiceNetworkConfig" (Attachment.fields m) {}

def Networks.shapes : List (Value → Result Networks) := [
  fun v => .list <$> Decode.list .shape Decode.string v,
  fun v => .map <$> Decode.dict .shape (Decode.optional (Attachment.ofValue .shape)) v]

def Networks.ofValue : Value → Result Networks := firstOf "NetworksConfig" Networks.shapes

def Condition.fields : List (RecordField Condition) := [
  field "condition" Decode.string fun a s => { s with condition := a }]

def Condition.ofValue (m : Mode) : Value → Result Condition :=
  record m "DependsOnCondition" Condition.fields {}

def Dependencies.shapes : List (Value → Result Dependencies) := [
  fun v => .list <$> Decode.list .shape Decode.string v,
  fun v => .map <$> Decode.dict .shape (Condition.ofValue .shape) v]

def Dependencies.ofValue : Value → Result Dependencies :=
  firstOf "DependsOnConfig" Dependencies.shapes

def Labels.shapes : List (Value → Result Labels) := [
  fun v => .list <$> Decode.list .shape Decode.string v,
  fun v => .map <$> Decode.dict .shape Scalar.ofValue v]

def Labels.ofValue : Value → Result Labels := firstOf "LabelsConfig" Labels.shapes

/-- The name of a resource that is external by name. -/
def External.fields : List (RecordField String) := [
  { name := "name", required := true, read := fun v _ => Decode.string v }]

/-- A name is given in a mapping only. -/
def External.shapes : List (Value → Result External) := [
  fun v => .flag <$> Decode.bool v,
  fun v => match v with
    | .mapping _ => .named <$> record .shape "ExternalConfig" External.fields "" v
    | other => .error (.wrongType other "a map")]

def External.ofValue : Value → Result External := firstOf "ExternalConfig" External.shapes

def Pool.fields : List (RecordField Pool) := [
  field "subnet" Decode.string fun a s => { s with subnet := a },
  field "gateway" Decode.string fun a s => { s with gateway := a }]

def Pool.ofValue (m : Mode) : Value → Result Pool :=
  record m "IpamPoolConfig" Pool.fields {}

def Ipam.fields (m : Mode) : List (RecordField Ipam) := [
  field "driver" Decode.string fun a s => { s with driver := a },
  { name := "config", omissible := true,
    read := fun v s => do return { s with pools := ← Decode.list m (Pool.ofValue m) v } }]

def Ipam.ofValue (m : Mode) : Value → Result Ipam :=
  record m "IpamConfig" (Ipam.fields m) {}

def Network.fields (m : Mode) : List (RecordField Network) := [
  field "driver" Decode.string fun a s => { s with driver := a },
  field "ipam" (Ipam.ofValue m) fun a s => { s with ipam := a },
  field "external" External.ofValue fun a s => { s with external := a },
  field "internal" Decode.bool fun a s => { s with internal := a },
  field "name" Decode.string fun a s => { s with name := a }]

def Network.ofValue (m : Mode) : Value → Result Network :=
  record m "NetworkConfig" (Network.fields m) {}

def Volume.fields : List (RecordField Volume) := [
  field "driver" Decode.string fun a s => { s with driver := a },
  field "external" External.ofValue fun a s => { s with external := a },
  field "name" Decode.string fun a s => { s with name := a }]

def Volume.ofValue (m : Mode) : Value → Result Volume :=
  record m "VolumeConfig" Volume.fields {}

end ComposeToPodman.Compose.Form
