import ComposeToPodman.Compose.CommandLine
import ComposeToPodman.Compose.Form.Decode
import ComposeToPodman.Compose.Read.Mounts
import ComposeToPodman.Compose.Read.Ports

/-! Services, setting by setting. -/
namespace ComposeToPodman.Compose

open Yaml (Value)

/-- The text of a plain scalar; a tagged one has none. -/
def scalarText? : Value → Option String
  | .string s => some s
  | .number n => some n.text
  | .bool b => some (toString b)
  | _ => none

def commandWords : Form.Command → List String
  | .shell line => splitCommand line
  | .words ws => ws

/-- `key=value`, split at the first equals sign. -/
def assignment? (item : String) : Option (String × String) := Text.cutText? '=' item

def dictOf (pairs : List (String × String)) : Dict String := Dict.ofList pairs

/-- A variable without a value would be taken from the caller's environment, and is left out. -/
def readEnvironment (service : String) : Form.Environment → Reading (Dict String)
  | .list items => dictOf <$> Reading.filterMap (fun item =>
      match assignment? item with
      | some pair => return some pair
      | none => .skip service (.unsetVariable item)) items
  | .map values => dictOf <$> Reading.filterMap (fun (key, value) =>
      match value with
      | some (v : Form.Scalar) => return some (key, v.asText)
      | none => .skip service (.unsetVariable key)) values.entries

/-- A label without a value is empty. -/
def labelsOf : Form.Labels → Dict String
  | .list items => dictOf (items.map fun item => (assignment? item).getD (item, ""))
  | .map values => dictOf (values.entries.map fun (key, value) => (key, value.asText))

def readNetworks (service : String) : Form.Networks → Reading (List String)
  | .list names => return names
  | .map attachments => Reading.filterMap (fun (name, attachment) => do
      if (attachment.map Form.Attachment.isCustomized).getD false then
        .warn service (.attachmentDropped name)
      return some name) attachments.entries

/-- Only the order of starting is kept of a condition. -/
def readDependencies (service : String) : Form.Dependencies → Reading (List String)
  | .list names => return names
  | .map conditions => Reading.filterMap (fun (name, c) => do
      match c.condition.filter (· != "service_started") with
      | some condition => .warn service (.conditionDropped condition name)
      | none => pure ()
      return some name) conditions.entries

inductive Setting
  /-- Without the blanks around it; an image that is no text is empty. -/
  | image (reference : String)
  | ports (ports : List PortMapping)
  | mounts (mounts : List Mount)
  | environment (values : Dict String)
  | labels (values : Dict String)
  | restart (policy : RestartPolicy)
  | networkMode (mode : NetworkMode)
  | networks (names : List String)
  | privileged (value : Bool)
  | command (arguments : Option (List String))
  | entrypoint (arguments : Option (List String))
  | dependsOn (names : List String)

def Setting.apply (s : Service) : Setting → Service
  | image reference => { s with image := reference }
  | ports l => { s with ports := l }
  | mounts l => { s with mounts := l }
  | environment values => { s with environment := values }
  | labels values => { s with labels := values }
  | restart policy => { s with restart := some policy }
  | networkMode mode => { s with networkMode := some mode }
  | networks names => { s with networks := names }
  | privileged value => { s with privileged := value }
  | command arguments => { s with command := arguments }
  | entrypoint arguments => { s with entrypoint := arguments }
  | dependsOn names => { s with dependsOn := names }

def decodeSetting (service key : String) (decoded : Yaml.Decode.Result α)
    (read : α → Reading Setting) : Reading (Option Setting) :=
  match decoded with
  | .ok a => some <$> read a
  | .error cause => .skip service (.invalidSetting key cause)

def tokenSetting (service : String) (value : Value) (parse : String → Option Setting)
    (unknown : String → ServiceNotice) : Reading (Option Setting) :=
  match (scalarText? value).bind parse with
  | some setting => return some setting
  | none => .skip service (unknown ((scalarText? value).getD ""))

/-- Words for a command or an entry point. If they have the wrong form there are none. -/
def wordsSetting (service key : String) (value : Value)
    (setting : Option (List String) → Setting) : Reading (Option Setting) :=
  match Form.Command.ofValue value with
  | .ok c => return some (setting (some (commandWords c)))
  | .error cause => do
    .warn service (.invalidSetting key cause)
    return some (setting none)

def readSetting (service : String) (volumes : Dict Volume) (key : String) (value : Value) :
    Reading (Option Setting) :=
  match key with
  | "image" => return some (.image (((scalarText? value).map Text.trim).getD ""))
  | "ports" =>
    decodeSetting service key (Yaml.Decode.list .alone Form.Port.ofValue value) fun ports =>
      .ports <$> Reading.filterMap (readPort service) ports
  | "volumes" =>
    decodeSetting service key (Yaml.Decode.list .alone Form.Mount.ofValue value) fun mounts =>
      .mounts <$> Reading.filterMap (readMount service volumes) mounts
  | "environment" =>
    decodeSetting service key (Form.Environment.ofValue value) fun environment =>
      .environment <$> readEnvironment service environment
  | "labels" =>
    decodeSetting service key (Form.Labels.ofValue value) fun labels =>
      return .labels (labelsOf labels)
  | "restart" =>
    tokenSetting service value (fun t => (RestartPolicy.ofText? t).map .restart) .unknownRestart
  | "network_mode" =>
    tokenSetting service value (fun t => (NetworkMode.ofText? t).map .networkMode)
      .unsupportedNetworkMode
  | "networks" =>
    decodeSetting service key (Form.Networks.ofValue value) fun networks =>
      .networks <$> readNetworks service networks
  | "privileged" =>
    decodeSetting service key (Yaml.Decode.bool value) fun b => return .privileged b
  | "command" => wordsSetting service key value .command
  | "entrypoint" => wordsSetting service key value .entrypoint
  | "depends_on" =>
    decodeSetting service key (Form.Dependencies.ofValue value) fun dependencies =>
      .dependsOn <$> readDependencies service dependencies
  | other => .skip service (.directiveDropped other)

def readEntry (service : String) (volumes : Dict Volume) (entry : Value × Value) :
    Reading (Option Setting) :=
  match entry.1.text? with
  | some key => readSetting service volumes key entry.2
  | none => .skip service (.nonStringKey entry.1)

/-- A service is nothing without an image. -/
def readService (volumes : Dict Volume) (name : String) (value : Value) :
    Reading (Option Service) :=
  match value with
  | .mapping entries => do
    let settings ← Reading.filterMap (readEntry name volumes) entries
    let service := settings.foldl Setting.apply { name }
    if service.image.isEmpty then
      .report (.noImage name)
      return none
    else return some service
  | _ => do
    .report (.serviceNotMapping name)
    return none

end ComposeToPodman.Compose
