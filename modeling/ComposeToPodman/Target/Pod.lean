import ComposeToPodman.Notice
import ComposeToPodman.Target.Output

/-! Pods: containers that share one network and one restart policy. -/
namespace ComposeToPodman.Target

open Compose Yaml

structure PodMount where
  /-- The name of the Pod's volume. -/
  volume : String
  path : String
  readOnly : Bool
deriving DecidableEq, Repr

structure Container where
  name : String
  image : String
  command : Option (List String)
  arguments : Option (List String)
  ports : List PortMapping
  environment : List (String × String)
  mounts : List PodMount
  privileged : Bool
deriving DecidableEq, Repr

inductive VolumeContent
  | hostPath (path : String)
  /-- A persistent volume. -/
  | claim (name : String)
  | emptyDir
deriving DecidableEq, Repr

structure PodVolume where
  name : String
  /-- What the volume was made for: mounts of the same kind and source share it. -/
  kind : MountKind
  source : String
  content : VolumeContent
deriving DecidableEq, Repr

structure Pod where
  name : String
  annotations : Dict String
  restart : Option PodRestart
  hostNetwork : Bool
  containers : List Container
  volumes : List PodVolume
deriving DecidableEq, Repr

def portValue (p : PortMapping) : Value :=
  mapping [
    field "containerPort" (natural p.containerPort),
    field "hostPort" (natural p.hostPort),
    optionalField "hostIP" (p.hostIp.map .string),
    textField "protocol" (match p.protocol with | .tcp => "TCP" | .udp => "UDP")]

def PodMount.toValue (m : PodMount) : Value :=
  mapping [
    textField "name" m.volume,
    textField "mountPath" m.path,
    flagField "readOnly" m.readOnly]

def Container.toValue (c : Container) : Value :=
  mapping [
    textField "name" c.name,
    textField "image" c.image,
    optionalField "command" (c.command.map fun words => .sequence (texts words)),
    optionalField "args" (c.arguments.map fun words => .sequence (texts words)),
    listField "ports" (c.ports.map portValue),
    listField "env" (c.environment.map fun (name, value) =>
      mapping [textField "name" name, textField "value" value]),
    listField "volumeMounts" (c.mounts.map PodMount.toValue),
    if c.privileged then field "securityContext" (mapping [flagField "privileged" true]) else none]

def VolumeContent.toField : VolumeContent → Field
  | .hostPath path => field "hostPath" (mapping [textField "path" path])
  | .claim name => field "persistentVolumeClaim" (mapping [textField "claimName" name])
  | .emptyDir => field "emptyDir" (mapping [])

def PodVolume.toValue (v : PodVolume) : Value :=
  mapping [textField "name" v.name, v.content.toField]

def Pod.toValue (p : Pod) : Value :=
  mapping [
    textField "apiVersion" "v1",
    textField "kind" "Pod",
    field "metadata" (mapping [
      textField "name" p.name,
      dictField "annotations" .string p.annotations]),
    field "spec" (mapping [
      optionalField "restartPolicy" (p.restart.map fun r => .string r.text),
      flagField "hostNetwork" p.hostNetwork,
      field "containers" (.sequence (p.containers.map Container.toValue)),
      listField "volumes" (p.volumes.map PodVolume.toValue)])]

end ComposeToPodman.Target
