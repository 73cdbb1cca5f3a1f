import ComposeToPodman.Target.Label
import ComposeToPodman.Target.Output
import ComposeToPodman.Target.Pod
import ComposeToPodman.Yaml.Value.Write

/-! Documents as one Pod. What a Pod shares between its containers cannot be told per service; what
is lost by that is reported. -/
namespace ComposeToPodman.Target.Kube

open Compose

/-- The services in the order in which they start; in their own order if there is none. -/
def orderedServices (d : Document) : List Service :=
  let names : List String := match d.startOrder with
    | .ok order => order
    | .error _ => d.services.map Service.name
  names.filterMap d.service?

def volumeName? (volumes : List PodVolume) (m : Mount) : Option String :=
  (volumes.find? fun v => v.kind == m.kind && v.source == m.source).map (·.name)

def labelStart : MountKind → String
  | .bind => "host-"
  | .volume => "vol-"

def volumeContent (d : Document) (m : Mount) : VolumeContent :=
  match m.kind with
  | .bind => .hostPath m.source
  | .volume =>
    match d.volumes.get? m.source with
    | some v => .claim v.name
    | none => .emptyDir

/-- What is lost where a volume is first used. -/
def volumeDiagnostics (d : Document) (m : Mount) : Diagnostics ServiceNotice :=
  match m.kind with
  | .bind => .ofWarnings (if Text.startsWith m.source '/' then [] else [.relativeSource m.source])
  | .volume =>
    .ofErrors (if (d.volumes.get? m.source).isSome then [] else [.undeclaredVolume m.source])

def newVolume (d : Document) (volumes : List PodVolume) (m : Mount) : PodVolume :=
  { name := Label.unique (labelStart m.kind ++ m.source) (volumes.map (·.name))
    kind := m.kind
    source := m.source
    content := volumeContent d m }

/-- Options that a Pod does not know, apart from relabelling. -/
def optionNotices (m : Mount) : List ServiceNotice :=
  (m.options.toList.filter fun o => !(["ro", "rw", "z", "Z"].contains o)).map
    (.mountOptionDropped · m.target)

/-- The mounts of a container, with the volumes of the Pod so far. -/
structure MountTable where
  volumes : List PodVolume
  mounts : List PodMount := []
  diagnostics : Diagnostics ServiceNotice := {}

def MountTable.add (d : Document) (t : MountTable) (m : Mount) : MountTable :=
  let mount (name : String) : PodMount := ⟨name, m.target, m.isReadOnly⟩
  match volumeName? t.volumes m with
  | some name =>
    { t with mounts := t.mounts ++ [mount name]
             diagnostics := t.diagnostics ++ .ofWarnings (optionNotices m) }
  | none =>
    let v := newVolume d t.volumes m
    { volumes := t.volumes ++ [v]
      mounts := t.mounts ++ [mount v.name]
      diagnostics := t.diagnostics ++ volumeDiagnostics d m ++ .ofWarnings (optionNotices m) }

def headNotices (s : Service) (name : String) : List ServiceNotice :=
  (if name = s.name then [] else [.containerRenamed name]) ++
    (if s.dependsOn.isEmpty then [] else [.dependenciesDropped])

def relabelNotices (s : Service) : List ServiceNotice :=
  if s.mounts.any Mount.hasRelabel then [.relabelDropped] else []

def container (s : Service) (name : String) (mounts : List PodMount) : Container :=
  { name
    image := s.image
    command := s.entrypoint
    arguments := s.command
    ports := s.ports
    environment := s.environment.entries
    mounts
    privileged := s.privileged }

/-- A label keeps the first value it gets. -/
def annotate (annotations : Dict String) (labels : List (String × String)) :
    Dict String × List ServiceNotice :=
  labels.foldl (fun (kept, notices) (key, value) =>
    match kept.get? key with
    | none => (kept.insert key value, notices)
    | some existing =>
      (kept, if existing = value then notices else notices ++ [.labelConflict key]))
    (annotations, [])

/-- The part of a Pod that is made service by service. -/
structure Draft where
  containers : List Container := []
  volumes : List PodVolume := []
  annotations : Dict String := {}
  diagnostics : Diagnostics Notice := {}

def inService (name : String) (d : Diagnostics ServiceNotice) : Diagnostics Notice :=
  ⟨d.entries.map fun e => ⟨e.severity, .inService name e.message⟩⟩

def Draft.add (d : Document) (p : Draft) (s : Service) : Draft :=
  let name := Label.unique s.name (p.containers.map (·.name))
  let table := s.mounts.foldl (MountTable.add d) { volumes := p.volumes }
  let (annotations, conflicts) := annotate p.annotations s.labels.entries
  { containers := p.containers ++ [container s name table.mounts]
    volumes := table.volumes
    annotations
    diagnostics := p.diagnostics ++ inService s.name
      (.ofWarnings (headNotices s name) ++ table.diagnostics ++ .ofWarnings (relabelNotices s) ++
        .ofWarnings conflicts) }

def networkNotices (services : List Service) : List Notice :=
  let affected := (services.filter fun s => s.networks.any (· ≠ defaultNetwork)).map (·.name)
  (if affected.isEmpty then [] else [.networksShared affected]) ++
    (services.filter (·.networkMode = some .none)).map fun s => .inService s.name .isolationDropped

def hostServices (services : List Service) : List Service :=
  services.filter (·.networkMode = some .host)

def hostNotices (services : List Service) : List Notice :=
  let host := hostServices services
  if !host.isEmpty && host.length < services.length then [.hostNetworkShared (host.map (·.name))]
  else []

/-- The policies that are asked for, by service. -/
def requested (services : List Service) : List (String × PodRestart) :=
  services.filterMap fun s => s.restart.map fun r => (s.name, .ofPolicy r)

/-- The most restrictive policy that is asked for. -/
def chosenRestart (services : List Service) : Option PodRestart :=
  match requested services with
  | [] => none
  | (_, p) :: rest => some (rest.foldl (fun p r => p.stricter r.2) p)

def restartNotices (services : List Service) : List Notice :=
  match chosenRestart services with
  | none => []
  | some chosen =>
    let affected := ((requested services).filter (·.2 ≠ chosen)).map (·.1)
    if affected.isEmpty then [] else [.restartOverridden chosen affected]

def draft (d : Document) : Draft := (orderedServices d).foldl (Draft.add d) {}

def pod (d : Document) (o : Options) : Pod :=
  let services := orderedServices d
  let draft := draft d
  { name := Label.ofText (o.project d)
    annotations := draft.annotations
    restart := chosenRestart services
    hostNetwork := !(hostServices services).isEmpty
    containers := draft.containers
    volumes := draft.volumes }

def diagnostics (d : Document) : Diagnostics Notice :=
  let services := orderedServices d
  (draft d).diagnostics ++
    .ofWarnings (networkNotices services ++ hostNotices services ++ restartNotices services)

def output (d : Document) (o : Options) : Output :=
  let p := pod d o
  .single (p.name ++ ".yaml") p.toValue.write (diagnostics d)

end ComposeToPodman.Target.Kube
