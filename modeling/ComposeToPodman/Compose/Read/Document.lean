import ComposeToPodman.Compose.Read.Service
import ComposeToPodman.Yaml.Value.Read

/-! Documents: the top level of a compose file, and what refers from one service to another. -/
namespace ComposeToPodman.Compose

open Yaml (Value)

/-- Names of services, networks and volumes, which become names of files. -/
def isName (s : String) : Bool :=
  match s.toList with
  | c :: rest => c.isAlphanum && rest.all fun c => c.isAlphanum || c == '_' || c == '.' || c == '-'
  | [] => false

def networkOf (key : String) (f : Form.Network) : Network :=
  let pool := f.ipam.bind (·.pools.head?)
  { name := f.name.getD key
    driver := f.driver.getD "bridge"
    internal := f.internal.getD false
    external := (f.external.map Form.External.isExternal).getD false
    subnet := pool.bind (·.subnet)
    gateway := pool.bind (·.gateway) }

def volumeOf (key : String) (f : Form.Volume) : Volume :=
  { name := f.name.getD key
    driver := f.driver.getD "local"
    external := (f.external.map Form.External.isExternal).getD false }

/-- Declared resources by name; one without settings has the usual ones. -/
def readResources (key kind : String) (read : Value → Yaml.Decode.Result α) (bare : α)
    (make : String → α → β) (value : Value) : Reading (Dict β) :=
  match Yaml.Decode.dict .alone (Yaml.Decode.optional read) value with
  | .error cause => do
    .notice (.invalidSetting key cause)
    return {}
  | .ok forms =>
    Dict.ofList <$> Reading.filterMap (fun (name, form) =>
      if isName name then return some (name, make name (form.getD bare))
      else do
        .report (.invalidName kind name)
        return none) forms.entries

inductive TopSetting
  | version (text : Option String)
  | name (text : Option String)
  | services (value : Value)
  | networks (networks : Dict Network)
  | volumes (volumes : Dict Volume)

/-- The top level, with the services still unread. -/
structure Draft where
  version : Option String := none
  name : Option String := none
  services : Value := .null
  networks : Dict Network := {}
  volumes : Dict Volume := {}

def TopSetting.apply (d : Draft) : TopSetting → Draft
  | version text => { d with version := text }
  | name text => { d with name := text }
  | services value => { d with services := value }
  | networks declared => { d with networks := declared }
  | volumes declared => { d with volumes := declared }

/-- Keys that start with `x-` are extensions and stand for nothing. -/
def readTopSetting (key : String) (value : Value) : Reading (Option TopSetting) :=
  match key with
  | "version" => return some (.version (scalarText? value))
  | "name" => return some (.name (scalarText? value))
  | "services" => return some (.services value)
  | "networks" =>
    (some ∘ .networks) <$>
      readResources key "network" (Form.Network.ofValue .alone) {} networkOf value
  | "volumes" =>
    (some ∘ .volumes) <$> readResources key "volume" (Form.Volume.ofValue .alone) {} volumeOf value
  | other =>
    if (Text.afterText? "x-" other).isSome then return none
    else do
      .notice (.keyDropped other)
      return none

def readTopEntry (entry : Value × Value) : Reading (Option TopSetting) :=
  match entry.1.text? with
  | some key => readTopSetting key entry.2
  | none => do
    .notice (.nonStringKey entry.1)
    return none

def readServiceEntry (volumes : Dict Volume) (entry : Value × Value) : Reading (Option Service) :=
  match entry.1.text? with
  | some name =>
    if isName name then readService volumes name entry.2
    else do
      .report (.invalidName "service" name)
      return none
  | none => do
    .report (.invalidServiceKey entry.1)
    return none

/-- Each network once, an undeclared one being the default network. -/
def resolveNetworks (service : String) (declared : Dict Network) :
    List String → List String → Reading (List String)
  | resolved, [] => return resolved
  | resolved, name :: rest => do
    let known := name == defaultNetwork || declared.contains name
    if !known then .notice (.undeclaredNetwork service name)
    let name := if known then name else defaultNetwork
    let resolved := if resolved.contains name then resolved else resolved ++ [name]
    resolveNetworks service declared resolved rest

def reportUnknown (service : String) (names : List String) : List String → Reading Unit
  | [] => return ()
  | dependency :: rest => do
    if !names.contains dependency then .report (.unknownDependency service dependency)
    reportUnknown service names rest

/-- A network mode takes the place of networks. -/
def resolveService (names : List String) (declared : Dict Network) (s : Service) :
    Reading Service := do
  reportUnknown s.name names s.dependsOn
  if s.networkMode.isSome && !s.networks.isEmpty then .warn s.name .networksWithMode
  let listed := if s.networkMode.isSome then [] else s.networks
  return { s with networks := ← resolveNetworks s.name declared [] listed }

def readServices (d : Draft) (entries : List (Value × Value)) : Reading Document := do
  let services ← Reading.filterMap (readServiceEntry d.volumes) entries
  let services ← services.mapM (resolveService (services.map (·.name)) d.networks)
  return { version := d.version, name := d.name, services, networks := d.networks,
           volumes := d.volumes }

/-- A document as far as it can be read; an empty file has an empty top level. -/
def readRoot (root : Value) : Reading (Option Document) :=
  let readEntries (entries : List (Value × Value)) : Reading (Option Document) := do
    let settings ← Reading.filterMap readTopEntry entries
    let draft := settings.foldl TopSetting.apply {}
    match draft.services with
    | .null | .mapping [] => do
      .report .noServices
      return none
    | .mapping services => some <$> readServices draft services
    | _ => do
      .report .servicesNotMapping
      return none
  match root with
  | .mapping entries => readEntries entries
  | .null => readEntries []
  | _ => do
    .report .rootNotMapping
    return none

/-- A document without problems, whose services can be put in order, and what was noticed. -/
def Document.ofValue (root : Value) : Except Failure (Document × List Notice) :=
  let r := readRoot root
  match r.value, r.problems with
  | some d, [] =>
    match d.startOrderOrFail with
    | .ok _ => .ok (d, r.notices)
    | .error e => .error ⟨e, r.notices⟩
  | _, problems => .error ⟨.invalid problems, r.notices⟩

def Document.read (text : String) : Except Failure (Document × List Notice) :=
  match Value.read text with
  | .ok root => Document.ofValue root
  | .error cause => .error ⟨.unreadable cause, []⟩

end ComposeToPodman.Compose
