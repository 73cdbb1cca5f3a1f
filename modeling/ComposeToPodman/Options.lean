import ComposeToPodman.Compose.Document

/-! What the caller of a conversion decides: the format, with the restart policies that it can
express, and the options. -/
namespace ComposeToPodman

inductive Format
  /-- A compose file for podman-compose. -/
  | podmanCompose
  /-- Unit files for systemd. -/
  | quadlet
  /-- A Pod manifest for `podman kube play`. -/
  | kube
deriving DecidableEq, Repr, Inhabited

namespace Format

def text : Format → String
  | podmanCompose => "podman-compose"
  | quadlet => "quadlet"
  | kube => "kube"

def ofText? : String → Option Format
  | "podman-compose" => some podmanCompose
  | "quadlet" => some quadlet
  | "kube" => some kube
  | _ => none

theorem ofText?_text (f : Format) : ofText? f.text = some f := by cases f <;> rfl

/-- Whether a limit on retries can be expressed. -/
def keepsRetries (f : Format) : Bool := f == podmanCompose

/-- Whether `unless-stopped` can be expressed. -/
def keepsUnlessStopped (f : Format) : Bool := f == podmanCompose

end Format

/-- The restart policies of a Pod, from the least restrictive to the most. -/
inductive Target.PodRestart
  | always
  | onFailure
  | never
deriving DecidableEq, Repr

namespace Target.PodRestart

open Compose

def text : PodRestart → String
  | always => "Always"
  | onFailure => "OnFailure"
  | never => "Never"

def rank : PodRestart → Nat
  | always => 0
  | onFailure => 1
  | never => 2

/-- The more restrictive of two. -/
def stricter (p q : PodRestart) : PodRestart := if p.rank < q.rank then q else p

/-- The policy of a Pod that comes nearest to that of a service. -/
def ofPolicy : RestartPolicy → PodRestart
  | .always => always
  | .unlessStopped => always
  | .onFailure _ => onFailure
  | .no => never

end Target.PodRestart

/-- Who may use the host path of a bind mount. -/
inductive Relabel
  | shared
  | exclusive
deriving DecidableEq, Repr, Inhabited

/-- The mount option that asks for it. -/
def Relabel.option : Relabel → String
  | shared => "z"
  | exclusive => "Z"

def Relabel.text : Relabel → String
  | shared => "shared"
  | exclusive => "private"

def Relabel.ofText? : String → Option Relabel
  | "shared" => some .shared
  | "private" => some .exclusive
  | _ => none

structure Options where
  /-- Takes the place of the document's name. -/
  projectName : Option String := none
  relabel : Relabel := .shared
deriving DecidableEq, Repr, Inhabited

def defaultProject : String := "compose"

/-- The name of the project: the caller's, else the document's. A blank one is as good as none. -/
def Options.project (o : Options) (d : Compose.Document) : String :=
  ((o.projectName.or d.name).filter (!Text.allBlank ·)).getD defaultProject

end ComposeToPodman
