import ComposeToPodman.Compose.Document
import ComposeToPodman.Options
import ComposeToPodman.Yaml.Decode

/-! Everything a run may have to report short of failing. -/
namespace ComposeToPodman

open Compose

inductive ServiceNotice
  | nonStringKey (key : Yaml.Value)
  | directiveDropped (key : String)
  | invalidSetting (key : String) (cause : Yaml.DecodeError)
  | unknownRestart (token : String)
  | unsupportedNetworkMode (token : String)
  | malformedPort (spec : String)
  | portProtocol (spec : String) (protocol : String)
  | targetProtocol (target : Nat) (protocol : String)
  | portOutOfRange (spec : String)
  | sameHostPort (port : Nat)
  | swarmPortMode (mode : String)
  | anonymousVolume (spec : String)
  | malformedVolume (spec : String)
  | mountKind (kind : String) (target : String)
  | relativeTarget (target : String)
  | unsetVariable (key : String)
  | attachmentDropped (network : String)
  | conditionDropped (condition : String) (service : String)
  | networksWithMode
  | socketReplaced (socket : String)
  | unqualifiedImage (image : String)
  | retriesDropped (retries : Nat) (format : Format)
  | unlessStoppedReplaced (format : Format)
  | labelConflict (key : String)
  | containerRenamed (name : String)
  | dependenciesDropped
  | mountOptionDropped (option : String) (target : String)
  | relabelDropped
  | relativeSource (source : String)
  | undeclaredVolume (source : String)
  | isolationDropped
deriving DecidableEq

namespace ServiceNotice

def message : ServiceNotice → String
  | nonStringKey key => "ignoring non-string key " ++ key.shown
  | directiveDropped key =>
    "directive '" ++ key ++ "' is not representable in Podman output and was dropped"
  | invalidSetting key cause => "invalid '" ++ key ++ "' (" ++ cause.message ++ "), ignored"
  | unknownRestart token => "unknown restart policy " ++ Text.quoted token ++ ", dropped"
  | unsupportedNetworkMode token => "unsupported network_mode " ++ Text.quoted token ++ ", dropped"
  | malformedPort spec => "malformed port '" ++ spec ++ "', skipped"
  | portProtocol spec protocol =>
    "port '" ++ spec ++ "' has " ++ Protocol.unsupported protocol ++ ", skipped"
  | targetProtocol target protocol =>
    "port target " ++ toString target ++ " has " ++ Protocol.unsupported protocol ++ ", skipped"
  | portOutOfRange spec => "port '" ++ spec ++ "' is out of range 1-65535, skipped"
  | sameHostPort port =>
    "port " ++ toString port ++ " has no host port, published on the same host port"
  | swarmPortMode mode => "port mode '" ++ mode ++ "' is swarm-only, published as a host port"
  | anonymousVolume spec => "anonymous volume '" ++ spec ++ "' is not representable, skipped"
  | malformedVolume spec => "malformed volume '" ++ spec ++ "', skipped"
  | mountKind kind target =>
    "mount type '" ++ kind ++ "' for '" ++ target ++ "' is not supported, skipped"
  | relativeTarget target => "volume target '" ++ target ++ "' is not absolute, skipped"
  | unsetVariable key => "environment variable '" ++ key ++ "' has no value and was dropped"
  | attachmentDropped network =>
    "aliases and static addresses on network '" ++ network ++
      "' are not representable and were dropped"
  | conditionDropped condition service =>
    "depends_on condition '" ++ condition ++ "' for '" ++ service ++
      "' is not representable, only start ordering is kept"
  | networksWithMode => "'networks' cannot be combined with network_mode and was dropped"
  | socketReplaced socket =>
    "Docker socket mount rewritten to " ++ socket ++
      " (rootless Podman uses $XDG_RUNTIME_DIR/podman/podman.sock)"
  | unqualifiedImage image =>
    "image '" ++ image ++ "' names no registry and is left as written; " ++
      "Podman resolves it through unqualified-search-registries"
  | retriesDropped retries format =>
    "retry count " ++ toString retries ++ " not representable in " ++ format.text ++
      " format, dropped"
  | unlessStoppedReplaced format =>
    "restart policy 'unless-stopped' not representable in " ++ format.text ++
      " format, using 'always'"
  | labelConflict key =>
    "label '" ++ key ++ "' conflicts with another service's value and was dropped"
  | containerRenamed name => "container renamed to '" ++ name ++ "' to satisfy Kubernetes naming"
  | dependenciesDropped =>
    "depends_on has no Pod equivalent; containers are listed in dependency order instead"
  | mountOptionDropped option target =>
    "mount option '" ++ option ++ "' on '" ++ target ++
      "' has no Kubernetes equivalent and was dropped"
  | relabelDropped =>
    "SELinux relabel options (:z/:Z) have no Kubernetes equivalent and were dropped; " ++
      "relabel the host paths manually"
  | relativeSource source =>
    "bind source '" ++ source ++ "' is relative; hostPath requires an absolute path"
  | undeclaredVolume source =>
    "volume '" ++ source ++ "' is not declared under top-level volumes; " ++
      "emitted as emptyDir, data will not persist"
  | isolationDropped =>
    "network_mode 'none' cannot isolate one container of a Pod and was dropped"

end ServiceNotice

inductive Notice
  | inService (service : String) (notice : ServiceNotice)
  | undeclaredNetwork (service : String) (network : String)
  | nonStringKey (key : Yaml.Value)
  | keyDropped (key : String)
  | invalidSetting (key : String) (cause : Yaml.DecodeError)
  | noNameResolution
  | networksShared (services : List String)
  | hostNetworkShared (services : List String)
  | restartOverridden (chosen : Target.PodRestart) (services : List String)
deriving DecidableEq

namespace Notice

def message : Notice → String
  | inService service notice => "service '" ++ service ++ "': " ++ notice.message
  | undeclaredNetwork service network =>
    "service '" ++ service ++ "' references undeclared network '" ++ network ++
      "', using the default network"
  | nonStringKey key => "ignoring non-string top-level key " ++ key.shown
  | keyDropped key =>
    "top-level key '" ++ key ++ "' is not representable in Podman output and was dropped"
  | invalidSetting key cause =>
    "top-level: invalid '" ++ key ++ "' (" ++ cause.message ++ "), ignored"
  | noNameResolution =>
    "services on the implicit default network run on Podman's default network, which has no " ++
      "name resolution between containers; declare a network to keep service discovery"
  | networksShared services =>
    "Kubernetes Pod has a single shared network namespace; per-service networks discarded " ++
      "(services: " ++ ", ".intercalate services ++ ")"
  | hostNetworkShared services =>
    "network_mode 'host' applies to the whole Pod; every container shares the host network " ++
      "(requested by: " ++ ", ".intercalate services ++ ")"
  | restartOverridden chosen services =>
    "services disagree on restart policy; Pod uses " ++ chosen.text ++ ", overriding services: " ++
      ", ".intercalate services

end Notice

end ComposeToPodman
