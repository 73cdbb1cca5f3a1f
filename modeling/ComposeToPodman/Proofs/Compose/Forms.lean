import ComposeToPodman.Compose.Read.Document
import ComposeToPodman.Proofs.Compose.FormValues
import ComposeToPodman.Target.ComposeFile

/-! The forms that written values are read as. Of several forms for a setting the writer uses one,
and no earlier one fits what it writes. -/
namespace ComposeToPodman.Compose.Form

open Target Target.ComposeFile Yaml Yaml.Decode

theorem Scalar.ofValue_string (s : String) : Scalar.ofValue (.string s) = .ok (.text s) := rfl

theorem Port.ofValue_string (s : String) : Port.ofValue (.string s) = .ok (.short (.text s)) := rfl

theorem Mount.ofValue_string (s : String) : Mount.ofValue (.string s) = .ok (.short s) := rfl

theorem Command.ofValue_texts (l : List String) :
    Command.ofValue (.sequence (texts l)) = .ok (.words l) := Command.ofValue_toValue (.words l)

theorem Networks.ofValue_texts (l : List String) :
    Networks.ofValue (.sequence (texts l)) = .ok (.list l) := Networks.ofValue_toValue (.list l)

theorem Dependencies.ofValue_texts (l : List String) :
    Dependencies.ofValue (.sequence (texts l)) = .ok (.list l) :=
  Dependencies.ofValue_toValue (.list l)

/-- The value that is written for a map of texts. -/
def textDict (d : Dict String) : Value :=
  .mapping (d.entries.map fun e => (.string e.1,.string e.2))

theorem dictValue_mapEntries {α : Type} (write : α → Value) (f : String × String → α)
    (same : ∀ e, write (f e) = .string e.2) (d : Dict String) :
    dictValue write (d.mapEntries f) = textDict d := by
  simp [dictValue,textDict,Dict.mapEntries,same]

theorem Labels.ofValue_textDict (d : Dict String) :
    Labels.ofValue (textDict d) = .ok (.map (d.mapEntries fun e => .text e.2)) := by
  rw [← dictValue_mapEntries Scalar.toValue (fun e => .text e.2) (fun _ => rfl) d]
  refine Labels.ofValue_toValue (c := .map _) fun e inside => ?_
  obtain ⟨_,_,rfl⟩ := List.mem_map.mp inside
  trivial

theorem Environment.ofValue_textDict (d : Dict String) :
    Environment.ofValue (textDict d) = .ok (.map (d.mapEntries fun e => some (.text e.2))) := by
  rw [← dictValue_mapEntries (optionalValue Scalar.toValue) (fun e => some (.text e.2))
    (fun _ => rfl) d]
  refine Environment.ofValue_toValue (c := .map _) fun e inside => ?_
  obtain ⟨_,_,rfl⟩ := List.mem_map.mp inside
  rintro s ⟨⟩
  trivial

variable {α β σ : Type}

/-- A field that may be left out changes the record by what it holds. -/
theorem foldlM_field {fields : List (RecordField σ)} {name : String} {read : Value → Result α}
    {set : Option α → σ → σ} {f : β → Value} {g : β → α} {s : σ}
    (known : fields.find? (·.name == name) = some (field name read set)) (unset : set none s = s)
    (reads : ∀ b, optional read (f b) = .ok (some (g b))) (v : Option β) (rest : List Field) :
    (optionalField name (v.map f) :: rest).foldlM (readField fields) s =
      rest.foldlM (readField fields) (set (v.map g) s) := by
  rw [List.foldlM_cons]
  cases v with
  | none => simp [readField,optionalField,unset]
  | some b => simp [readField,optionalField,known,field,reads]

theorem textField_eq (name s : String) :
    textField name s = optionalField name ((some s).map .string) := rfl

theorem nameField_eq (key name : String) :
    nameField key name =
      optionalField "name" ((if name = key then none else some name).map .string) := by
  unfold nameField
  split <;> rfl

theorem flagField_eq (name : String) (b : Bool) :
    flagField name b = optionalField name ((if b then some true else none).map .bool) := by
  cases b <;> rfl

/-- The form that the value of a volume has. -/
def Volume.written (key : String) (v : Compose.Volume) : Volume :=
  { name := if v.name = key then none else some v.name
    driver := some v.driver
    external := (if v.external then some true else none).map .flag }

theorem Volume.ofValue_volumeValue (key : String) (v : Compose.Volume) :
    Volume.ofValue .alone (volumeValue key v) = .ok (.written key v) := by
  unfold Volume.ofValue volumeValue
  rw [nameField_eq,textField_eq,flagField_eq,record_mapping .alone "VolumeConfig" _ rfl <|
    given_nodup (.cons (named_optionalField "name" _) <| .cons (named_optionalField "driver" _) <|
      .cons (named_optionalField "external" _) .nil) (by decide)]
  rw [foldlM_field rfl rfl (g := id) fun _ => rfl,foldlM_field rfl rfl (g := id) fun _ => rfl,
    foldlM_field rfl rfl fun _ => rfl]
  simp only [Option.map_id]
  rfl

theorem volumeOf_written (key : String) (v : Compose.Volume) :
    volumeOf key (.written key v) = v := by
  cases v with
  | mk name driver external =>
    by_cases same : name = key <;> cases external <;>
      simp [volumeOf,Volume.written,same,External.isExternal]

def Pool.written (n : Compose.Network) : Pool := { subnet := n.subnet, gateway := n.gateway }

theorem Pool.ofValue_mapping (n : Compose.Network) :
    Pool.ofValue .alone (mapping [
      optionalField "subnet" (n.subnet.map .string),
      optionalField "gateway" (n.gateway.map .string)]) = .ok (.written n) := by
  unfold Pool.ofValue
  rw [record_mapping .alone "IpamPoolConfig" _ rfl <|
    given_nodup (.cons (named_optionalField "subnet" _) <|
      .cons (named_optionalField "gateway" _) .nil) (by decide)]
  rw [foldlM_field rfl rfl (g := id) fun _ => rfl,foldlM_field rfl rfl (g := id) fun _ => rfl]
  simp only [Option.map_id]
  rfl

/-- The network has an address pool, which is then its only one. -/
def Ipam.written (n : Compose.Network) : Ipam := { pools := [.written n] }

/-- The value of the address pool of a network. -/
def ipamValue (n : Compose.Network) : Value :=
  mapping [
    Target.field "config" (.sequence [
      mapping [
        optionalField "subnet" (n.subnet.map .string),
        optionalField "gateway" (n.gateway.map .string)]])]

theorem Ipam.ofValue_ipamValue (n : Compose.Network) :
    Ipam.ofValue .alone (ipamValue n) = .ok (.written n) := by
  unfold Ipam.ofValue ipamValue
  rw [record_mapping .alone "IpamConfig" _ rfl <|
    given_nodup (.cons (named_field "config" _) .nil) (by decide)]
  have pools := list_map .alone (l := [n]) fun n _ => Pool.ofValue_mapping n
  simp only [List.map_cons,List.map_nil] at pools
  simp [readField,Target.field,Ipam.fields,field,pools,Ipam.written]

theorem ipamField_eq (n : Compose.Network) :
    ipamField n = optionalField "ipam"
      ((if n.subnet.isNone && n.gateway.isNone then none else some n).map ipamValue) := by
  unfold ipamField
  split <;> rfl

/-- The form that the value of a network has. -/
def Network.written (key : String) (n : Compose.Network) : Network :=
  { name := if n.name = key then none else some n.name
    driver := some n.driver
    internal := if n.internal then some true else none
    external := (if n.external then some true else none).map .flag
    ipam := (if n.subnet.isNone && n.gateway.isNone then none else some n).map .written }

theorem Network.ofValue_networkValue (key : String) (n : Compose.Network) :
    Network.ofValue .alone (networkValue key n) = .ok (.written key n) := by
  unfold Network.ofValue networkValue
  rw [nameField_eq,textField_eq,flagField_eq,flagField_eq,ipamField_eq,
    record_mapping .alone "NetworkConfig" _ rfl <|
      given_nodup (.cons (named_optionalField "name" _) <|
        .cons (named_optionalField "driver" _) <| .cons (named_optionalField "internal" _) <|
        .cons (named_optionalField "external" _) <| .cons (named_optionalField "ipam" _) .nil)
        (by decide)]
  have ipam (n : Compose.Network) :
      optional (Ipam.ofValue .alone) (ipamValue n) = .ok (some (.written n)) := by
    change some <$> _ = _
    rw [Ipam.ofValue_ipamValue,map_ok]
  rw [foldlM_field rfl rfl (g := id) fun _ => rfl,foldlM_field rfl rfl (g := id) fun _ => rfl,
    foldlM_field rfl rfl (g := id) fun _ => rfl,foldlM_field rfl rfl fun _ => rfl,
    foldlM_field rfl rfl ipam]
  simp only [Option.map_id]
  rfl

theorem networkOf_written (key : String) (n : Compose.Network) :
    networkOf key (.written key n) = n := by
  cases n with
  | mk name driver internal external subnet gateway =>
    by_cases same : name = key <;> cases internal <;> cases external <;> cases subnet <;>
      cases gateway <;>
      simp [networkOf,Network.written,same,External.isExternal,Ipam.written,Pool.written]

end ComposeToPodman.Compose.Form
