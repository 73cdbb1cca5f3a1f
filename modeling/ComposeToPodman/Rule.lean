import ComposeToPodman.Failure
import ComposeToPodman.Options

/-! Rules change a document so that Podman understands it. Most look at each service by itself; the
last one checks that the network namespaces which services join are there. -/
namespace ComposeToPodman

open Compose

namespace Rule

/-- What a rule may consult besides the document. -/
structure Context where
  format : Format
  options : Options

/-- A changed document, with what is to be reported. -/
structure Revision where
  document : Document
  notices : List Notice := []

def eachService (change : Service → Service) (notices : Service → List ServiceNotice)
    (d : Document) : Revision :=
  ⟨{ d with services := d.services.map change },
    d.services.flatMap fun s => (notices s).map (.inService s.name)⟩

def dockerSocket : String := "/var/run/docker.sock"

/-- The socket of the Podman service that runs as root. -/
def podmanSocket : String := "/run/podman/podman.sock"

def replaceSocket (m : Mount) : Mount :=
  if m.source = dockerSocket then { m with source := podmanSocket } else m

def replaceSockets (d : Document) : Revision :=
  eachService
    (fun s => { s with mounts := s.mounts.map replaceSocket })
    (fun s => (s.mounts.filter (·.source = dockerSocket)).map fun _ => .socketReplaced podmanSocket)
    d

/-- How an image is named. Podman has no registry of its own for short names. -/
inductive Reference
  /-- Names a registry. -/
  | qualified
  /-- `user/repository` without a registry. -/
  | namespaced
  /-- A single component, such as `nginx:latest`. -/
  | official
deriving DecidableEq, Repr

def hubLibrary : String := "docker.io/library/"

/-- The first component is a registry if it has a point or a colon, or is the local host. -/
def Reference.ofImage (image : String) : Reference :=
  match Text.cut? '/' image.toList with
  | none => .official
  | some (first, _) =>
    if first.contains '.' || first.contains ':' || first == "localhost".toList then .qualified
    else .namespaced

def qualify (image : String) : String :=
  if Reference.ofImage image = .official then hubLibrary ++ image else image

def qualifyImages (d : Document) : Revision :=
  eachService
    (fun s => { s with image := qualify s.image })
    (fun s => if Reference.ofImage s.image = .namespaced then [.unqualifiedImage s.image] else [])
    d

/-- A bind mount without a relabel option gets the caller's. -/
def relabel (option : String) (m : Mount) : Mount :=
  if m.kind = .bind ∧ !m.hasRelabel then { m with options := m.options.insert option } else m

def relabelMounts (o : Options) (d : Document) : Revision :=
  let change (s : Service) := { s with mounts := s.mounts.map (relabel o.relabel.option) }
  eachService change (fun _ => []) d

/-- The nearest restart policy that the format can express. -/
def restrict (f : Format) : RestartPolicy → RestartPolicy
  | .onFailure (some n) => if f.keepsRetries then .onFailure (some n) else .onFailure none
  | .unlessStopped => if f.keepsUnlessStopped then .unlessStopped else .always
  | p => p

def restrictNotices (f : Format) : Option RestartPolicy → List ServiceNotice
  | some (.onFailure (some n)) => if f.keepsRetries then [] else [.retriesDropped n f]
  | some .unlessStopped => if f.keepsUnlessStopped then [] else [.unlessStoppedReplaced f]
  | _ => []

def restrictRestarts (f : Format) (d : Document) : Revision :=
  eachService
    (fun s => { s with restart := s.restart.map (restrict f) })
    (fun s => restrictNotices f s.restart)
    d

def dangling? (d : Document) (s : Service) : Option Dangling :=
  match s.networkMode with
  | some (.container target) =>
    if target = s.name then some (.itself s.name)
    else if d.hasService target then none
    else some (.missing s.name target)
  | _ => none

/-- The first service that joins a namespace that is not there is the error. -/
def checkNamespaces (d : Document) : Except ConversionError Revision :=
  match d.services.findSome? (dangling? d) with
  | some reference => .error (.unresolved reference)
  | none => .ok ⟨d, []⟩

end Rule

inductive Rule
  | sockets
  | images
  | relabels
  | restarts
  | namespaces
deriving DecidableEq, Repr

namespace Rule

def id : Rule → String
  | sockets => "docker-socket"
  | images => "registry-prefix"
  | relabels => "selinux-labels"
  | restarts => "restart-policy"
  | namespaces => "network-mode"

def description : Rule → String
  | sockets => "Rewrites Docker socket mounts to the Podman socket"
  | images => "Prefixes official Docker Hub images with docker.io/library/"
  | relabels => "Appends an SELinux relabel option to bind mounts"
  | restarts => "Normalizes restart policies for the target format"
  | namespaces => "Resolves container:<name> network modes against the document"

def apply (c : Context) (d : Document) : Rule → Except ConversionError Revision
  | sockets => .ok (replaceSockets d)
  | images => .ok (qualifyImages d)
  | relabels => .ok (relabelMounts c.options d)
  | restarts => .ok (restrictRestarts c.format d)
  | namespaces => checkNamespaces d

/-- All rules, in the order of a conversion. The socket has its final path when it is labelled. -/
def all : List Rule := [sockets, images, relabels, restarts, namespaces]

def ofId? (id : String) : Option Rule := all.find? (·.id == id)

/-- Run rules in order; `noticed` is what was noticed before. The first error stops the run. -/
def runFrom (c : Context) : List Rule → Document → List Notice → Except Failure Revision
  | [], d, noticed => .ok ⟨d, noticed⟩
  | r :: rest, d, noticed =>
    match r.apply c d with
    | .ok w => runFrom c rest w.document (noticed ++ w.notices)
    | .error e => .error ⟨e, noticed⟩

def run (c : Context) (rules : List Rule) (d : Document) : Except Failure Revision :=
  runFrom c rules d []

end Rule

end ComposeToPodman
