import ComposeToPodman.Json.Write
import ComposeToPodman.Target.Output
import ComposeToPodman.Target.UnitFile

/-! Documents as unit files: a container unit for each service, and units for the networks and
volumes that the project owns. A service of systemd is named after the unit that it comes from. -/
namespace ComposeToPodman.Target.Quadlet

open Compose

structure NamedUnit where
  fileName : String
  file : UnitFile
deriving DecidableEq, Repr

def NamedUnit.toOutput (u : NamedUnit) : OutputFile := ⟨u.fileName, u.file.render⟩

def describe (project name : String) : UnitSection :=
  ⟨"Unit", [("Description", project ++ " " ++ name)]⟩

def networkUnit (project key : String) (n : Network) : NamedUnit :=
  let settings : UnitSection := ⟨"Network",
    [("NetworkName", n.name), ("Driver", n.driver)] ++
    (if n.internal then [("Internal", "true")] else []) ++
    (n.subnet.toList.map ("Subnet", ·)) ++
    (n.gateway.toList.map ("Gateway", ·))⟩
  ⟨key ++ ".network", .ofSections [describe project key, settings]⟩

def volumeUnit (project key : String) (v : Volume) : NamedUnit :=
  let settings : UnitSection := ⟨"Volume",
    [("VolumeName", v.name)] ++ (if v.driver = "local" then [] else [("Driver", v.driver)])⟩
  ⟨key ++ ".volume", .ofSections [describe project key, settings]⟩

/-- One word stands for itself; several are an array of JSON. -/
def entrypointValue : List String → String
  | [word] => UnitFile.quote word
  | words => UnitFile.escapeSpecifiers (Json.array words)

/-- A declared volume is referred to by its unit, an external one by its name. -/
def mountSource (d : Document) (m : Mount) : String :=
  match m.kind, d.volumes.get? m.source with
  | .volume, some v => if v.external then v.name else m.source ++ ".volume"
  | _, _ => m.source

def mountValue (d : Document) (m : Mount) : String :=
  mountSource d m ++ ":" ++ m.target ++ m.optionSuffix

/-- A declared network is referred to by its unit, an external one by its name. -/
def networkReference (d : Document) (name : String) : String :=
  match d.networks.get? name with
  | some n => if n.external then n.name else name ++ ".network"
  | none => name

def networkValues (d : Document) (s : Service) : List String :=
  let joined := (s.networks.filter (· ≠ defaultNetwork)).map (networkReference d)
  match s.networkMode with
  | none => joined
  | some .bridge => joined
  | some mode => [mode.text]

def restartValue : RestartPolicy → String
  | .no => "no"
  | .always => "always"
  | .unlessStopped => "always"
  | .onFailure _ => "on-failure"

def containerEntries (d : Document) (s : Service) : List (String × String) :=
  let pairs (key : String) (values : Dict String) :=
    values.entries.map fun (name, value) => (key, UnitFile.quote (name ++ "=" ++ value))
  [("ContainerName", s.name), ("Image", s.image)] ++
    s.entrypoint.toList.map (fun words => ("Entrypoint", entrypointValue words)) ++
    s.command.toList.map (fun words => ("Exec", UnitFile.quoteWords words)) ++
    s.ports.map (fun p => ("PublishPort", p.text)) ++
    s.mounts.map (fun m => ("Volume", UnitFile.quote (mountValue d m))) ++
    pairs "Environment" s.environment ++
    pairs "Label" s.labels ++
    (networkValues d s).map (("Network", ·)) ++
    (if s.privileged then [("PodmanArgs", "--privileged")] else [])

/-- A service is started after those it depends on, and only with them. -/
def containerUnit (d : Document) (project : String) (s : Service) : NamedUnit :=
  let dependencies := s.dependsOn.flatMap fun name =>
    [("Requires", name ++ ".service"), ("After", name ++ ".service")]
  ⟨s.name ++ ".container", .ofSections [
    (describe project s.name).setAll dependencies,
    ⟨"Container", containerEntries d s⟩,
    ⟨"Service", s.restart.toList.map fun r => ("Restart", restartValue r)⟩,
    ⟨"Install", [("WantedBy", "default.target")]⟩]⟩

/-- Networks, volumes, then services; what is external has no unit. -/
def units (d : Document) (project : String) : List NamedUnit :=
  (d.networks.entries.filter (!·.2.external)).map (fun (key, n) => networkUnit project key n) ++
    (d.volumes.entries.filter (!·.2.external)).map (fun (key, v) => volumeUnit project key v) ++
    d.services.map (containerUnit d project)

/-- Services that find each other by name only if they are on a declared network. -/
def onDefaultNetwork (s : Service) : Bool :=
  s.networkMode.isNone && (s.networks.isEmpty || s.networks.contains defaultNetwork)

def notices (d : Document) : Diagnostics Notice :=
  if 1 < (d.services.filter onDefaultNetwork).length then .ofWarnings [.noNameResolution] else {}

/-- The units behind each other, each under its file name. -/
def output (d : Document) (o : Options) : Output :=
  let files := (units d (o.project d)).map NamedUnit.toOutput
  let output := "\n".intercalate (files.map fun f => "# ==> " ++ f.name ++ " <==\n" ++ f.contents)
  ⟨output, files, notices d⟩

end ComposeToPodman.Target.Quadlet
