import ComposeToPodman.Proofs.Target.Fields
import ComposeToPodman.Proofs.Target.PodNotices
import ComposeToPodman.Proofs.Target.VolumeNames

/-! The containers of a Pod. A document whose dependencies can be put in order has one container for
each service, dependencies first, and what a service asks for stands in its container. -/
namespace ComposeToPodman.Target

open Compose Yaml
open ComposeFile (fieldUnder?)

namespace Kube

def protocolName : Protocol → String
  | .tcp => "TCP"
  | .udp => "UDP"

/-- An entry of `ports`. -/
structure PublishedBy (p : PortMapping) (v : Value) : Prop where
  container : fieldUnder? "containerPort" v = some (natural p.containerPort)
  host : fieldUnder? "hostPort" v = some (natural p.hostPort)
  address : fieldUnder? "hostIP" v = p.hostIp.map .string
  protocol : fieldUnder? "protocol" v = some (.string (protocolName p.protocol))

/-- An entry of `env`. -/
structure SetBy (e : String × String) (v : Value) : Prop where
  name : fieldUnder? "name" v = some (.string e.1)
  value : fieldUnder? "value" v = some (.string e.2)

/-- An entry of `volumeMounts`. -/
structure MountedBy (m : Mount) (v : Value) : Prop where
  path : fieldUnder? "mountPath" v = some (.string m.target)
  readOnly : fieldUnder? "readOnly" v = if m.options.contains "ro" then some (.bool true) else none

/-- What a service asks for, in its container as it is written. -/
structure Carries (s : Service) (v : Value) : Prop where
  image : fieldUnder? "image" v = some (.string s.image)
  command : fieldUnder? "command" v = s.entrypoint.map fun words => .sequence (texts words)
  arguments : fieldUnder? "args" v = s.command.map fun words => .sequence (texts words)
  environment : List.Forall₂ SetBy s.environment.entries (itemsUnder "env" v)
  ports : List.Forall₂ PublishedBy s.ports (itemsUnder "ports" v)
  mounts : List.Forall₂ MountedBy s.mounts (itemsUnder "volumeMounts" v)
  privileged : fieldUnder? "securityContext" v =
    if s.privileged then some (mapping [flagField "privileged" true]) else none

theorem publishedBy_portValue (p : PortMapping) : PublishedBy p (portValue p) := by
  obtain ⟨ip,host,container,protocol⟩ := p
  constructor
  case protocol => cases protocol <;> simp [portValue,protocolName]
  all_goals simp [portValue]

theorem mountedBy_toValue {m : Mount} {p : PodMount} (path : p.path = m.target)
    (readOnly : p.readOnly = m.isReadOnly) : MountedBy m p.toValue := by
  constructor
  · simp [PodMount.toValue,path]
  · simp [PodMount.toValue,readOnly,Mount.isReadOnly]

/-- What a service asks for, in its container. -/
structure Holds (s : Service) (c : Container) : Prop where
  image : c.image = s.image
  command : c.command = s.entrypoint
  arguments : c.arguments = s.command
  environment : c.environment = s.environment.entries
  ports : c.ports = s.ports
  mounts : List.Forall₂ (fun (m : Mount) (p : PodMount) =>
    p.path = m.target ∧ p.readOnly = m.isReadOnly) s.mounts c.mounts
  privileged : c.privileged = s.privileged

theorem Holds.carries {s : Service} {c : Container} (holds : Holds s c) : Carries s c.toValue where
  image := by simp [Container.toValue,holds.image]
  command := by simp [Container.toValue,holds.command]
  arguments := by simp [Container.toValue,holds.arguments]
  environment := by
    have items : itemsUnder "env" c.toValue =
        c.environment.map fun e => mapping [textField "name" e.1,textField "value" e.2] :=
      itemsUnder_of_eq (by simp [Container.toValue])
    rw [items,holds.environment,List.forall₂_map_right_iff,List.forall₂_same]
    exact fun e _ => ⟨by simp,by simp⟩
  ports := by
    have items : itemsUnder "ports" c.toValue = c.ports.map portValue :=
      itemsUnder_of_eq (by simp [Container.toValue])
    rw [items,holds.ports,List.forall₂_map_right_iff,List.forall₂_same]
    exact fun p _ => publishedBy_portValue p
  mounts := by
    have items : itemsUnder "volumeMounts" c.toValue = c.mounts.map PodMount.toValue :=
      itemsUnder_of_eq (by simp [Container.toValue])
    rw [items,List.forall₂_map_right_iff]
    exact holds.mounts.imp fun _ _ ⟨path,readOnly⟩ => mountedBy_toValue path readOnly
  privileged := by simp [Container.toValue,holds.privileged]

def containersOf (v : Value) : List Value := (fieldUnder? "spec" v).elim [] (itemsUnder "containers")

theorem containersOf_toValue (p : Pod) :
    containersOf p.toValue = p.containers.map Container.toValue := by
  simp [containersOf,Pod.toValue,itemsUnder]

/-- The service and the new name of its container, if the notice is about that. -/
def renaming? : Notice → Option (String × String)
  | .inService service (.containerRenamed name) => some (service,name)
  | _ => none

def renamings (notices : List Notice) : List (String × String) := notices.filterMap renaming?

theorem renamings_append (notices others : List Notice) :
    renamings (notices ++ others) = renamings notices ++ renamings others := List.filterMap_append

/-- The services whose containers have other names than they have, with these names. -/
def renamed (services : List Service) (names : List String) : List (String × String) :=
  ((services.map (·.name)).zip names).filter fun (service,name) => name ≠ service

def KeepsName (notices : List ServiceNotice) : Prop := ∀ name, .containerRenamed name ∉ notices

theorem renamings_inService {notices : List ServiceNotice} (keeps : KeepsName notices)
    (service : String) : renamings (notices.map (.inService service)) = [] := by
  rw [renamings,List.filterMap_map,List.filterMap_eq_nil_iff]
  intro n member
  cases n with
  | containerRenamed name => exact absurd member (keeps name)
  | _ => rfl

theorem renamings_headNotices (s : Service) (name : String) :
    renamings ((headNotices s name).map (.inService s.name)) =
      if name = s.name then [] else [(s.name,name)] := by
  unfold headNotices
  split <;> split <;> rfl

/-- Only the first notices of a service can be about the name of its container. -/
theorem keepsName_others (d : Document) (p : Draft) (s : Service) :
    KeepsName
      ((p.nextMounts d s).diagnostics.warnings ++ relabelNotices s ++ (p.nextLabels s).2) := by
  intro name member
  simp only [List.mem_append] at member
  rcases member with (mount | relabel) | label
  · cases ofMount_nextMounts d p s _ mount
  · cases relabelDropped_of_mem relabel
  · obtain ⟨_,other⟩ := labelConflict_of_mem label
    cases other

/-- What holds of the part of a Pod that was made for some services. -/
structure Draft.Made (services : List Service) (p : Draft) : Prop where
  containers : List.Forall₂ (fun (s : Service) (c : Container) => c = container s c.name c.mounts)
    services p.containers
  notices : renamings p.diagnostics.warnings = renamed services (p.containers.map (·.name))

theorem renamed_snoc {services : List Service} {names : List String} (s : Service) (name : String)
    (length : services.length = names.length) : renamed (services ++ [s]) (names ++ [name]) =
      renamed services names ++ if name = s.name then [] else [(s.name,name)] := by
  have length : (services.map (·.name)).length = names.length := by rw [List.length_map,length]
  rw [renamed,List.map_append,List.zip_append length,List.filter_append,renamed]
  by_cases same : name = s.name <;> simp [same]

/-- One step: a container for the service, and a notice if it has another name. -/
theorem Draft.Made.add {services : List Service} {p : Draft} (made : Draft.Made services p)
    (d : Document) (s : Service) : Draft.Made (services ++ [s]) (p.add d s) := by
  have containers : (p.add d s).containers =
      p.containers ++ [container s (p.nextName s) (p.nextMounts d s).mounts] := rfl
  constructor
  · rw [containers]
    exact List.rel_append made.containers (.cons rfl .nil)
  · have length : services.length = (p.containers.map (·.name)).length := by
      rw [List.length_map,made.containers.length_eq]
    rw [warnings_add,Draft.nextNotices,List.map_append,renamings_append,renamings_append,
      made.notices,renamings_headNotices,renamings_inService (keepsName_others d p s),
      List.append_nil,containers,List.map_append]
    exact (renamed_snoc s (p.nextName s) length).symm

theorem made_draft (d : Document) : Draft.Made (orderedServices d) (draft d) :=
  draft_induction ⟨.nil,rfl⟩ fun _ s _ made => made.add d s

theorem renamings_sharedNotices (services : List Service) :
    renamings (sharedNotices services) = [] := by
  refine List.filterMap_eq_nil_iff.mpr fun n member => ?_
  cases ofServices_sharedNotices services n member <;> rfl

theorem renamings_diagnostics (d : Document) :
    renamings (diagnostics d).warnings =
      renamed (orderedServices d) ((draft d).containers.map (·.name)) := by
  rw [warnings_diagnostics,renamings_append,renamings_sharedNotices,List.append_nil,
    (made_draft d).notices]

theorem holds_containers (d : Document) :
    List.Forall₂ Holds (orderedServices d) (draft d).containers := by
  have made := (made_draft d).containers
  have placed := (sound_draft d).placed
  rw [List.forall₂_iff_zip]
  refine ⟨made.length_eq,fun {s c} pair => ?_⟩
  have whole : c = container s c.name c.mounts := List.forall₂_zip made pair
  have mounts := List.forall₂_zip placed pair
  rw [whole]
  refine ⟨rfl,rfl,rfl,rfl,rfl,mounts.imp fun m p placed => ?_,rfl⟩
  obtain ⟨_,_,_,_,rfl⟩ := placed
  exact ⟨rfl,rfl⟩

section Order

variable {d : Document} {order : List String}

theorem orderedServices_eq (ordered : d.startOrder = .ok order) :
    orderedServices d = (d.inOrder order).services := by
  rw [orderedServices,ordered,Document.inOrder]

theorem orderedServices_perm (distinct : (d.services.map (·.name)).Nodup)
    (known : ∀ s ∈ d.services, ∀ n ∈ s.dependsOn, ∃ t ∈ d.services, t.name = n)
    (ordered : d.startOrder = .ok order) : (orderedServices d).Perm d.services := by
  rw [orderedServices_eq ordered]
  exact Document.perm_inOrder distinct known ordered

theorem names_orderedServices (distinct : (d.services.map (·.name)).Nodup)
    (known : ∀ s ∈ d.services, ∀ n ∈ s.dependsOn, ∃ t ∈ d.services, t.name = n)
    (ordered : d.startOrder = .ok order) : (orderedServices d).map (·.name) = order := by
  rw [orderedServices_eq ordered]
  exact Document.names_inOrder distinct known ordered

theorem dependsOn_before (distinct : (d.services.map (·.name)).Nodup)
    (known : ∀ s ∈ d.services, ∀ n ∈ s.dependsOn, ∃ t ∈ d.services, t.name = n)
    (ordered : d.startOrder = .ok order) {before after : List Service} {s : Service}
    (split : orderedServices d = before ++ s :: after) :
    ∀ n ∈ s.dependsOn, ∃ t ∈ before, t.name = n := by
  rw [orderedServices_eq ordered] at split
  exact Document.dependsOnEarlier_inOrder distinct known ordered before s after split

end Order

/-- If the services of a document have distinct names, depend only on each other and never on
themselves, its Pod has one container for each of them, behind those of the services that it depends
on. A container has all that its service asks for. It is noticed of exactly the services whose
containers have other names than they have. -/
theorem pod_has_services {d : Document} (distinct : (d.services.map (·.name)).Nodup)
    (known : ∀ s ∈ d.services, ∀ n ∈ s.dependsOn, ∃ t ∈ d.services, t.name = n)
    (acyclic : ∀ name, ¬Relation.TransGen d.DependsOn name name) (o : Options) :
    ∃ (services : List Service) (names : List String), services.Perm d.services ∧
      (∀ before s after, services = before ++ s :: after →
        ∀ n ∈ s.dependsOn, ∃ t ∈ before, t.name = n) ∧
      List.Forall₂ Carries services (containersOf (pod d o).toValue) ∧
      (containersOf (pod d o).toValue).map (fieldUnder? "name") =
        names.map (fun name => some (.string name)) ∧
      renamings (diagnostics d).warnings = renamed services names := by
  obtain ⟨order,ordered⟩ := Document.startOrder_ok_iff.mpr fun _ _ name _ => acyclic name
  refine ⟨orderedServices d,(draft d).containers.map (·.name),
    orderedServices_perm distinct known ordered,?_,?_,?_,renamings_diagnostics d⟩
  · intro before s after split
    exact dependsOn_before distinct known ordered split
  · rw [containersOf_toValue,List.forall₂_map_right_iff]
    exact (holds_containers d).imp fun _ _ => Holds.carries
  · rw [containersOf_toValue,List.map_map,List.map_map]
    exact List.map_congr_left fun c _ => by simp [Container.toValue]

/-- A service that is started last, and is called otherwise in a Pod. -/
def workshop : Document :=
  { services := [
      { name := "Web", image := "web", entrypoint := some ["/bin/web"], command := some ["-v"]
        environment := Dict.ofList [("MODE","a b")]
        ports := [{ hostIp := some "::1", hostPort := 80, containerPort := 8080, protocol := .udp }]
        mounts := [{ source := "/srv", target := "/data", kind := .bind,
                     options := TextSet.ofList ["ro"] }]
        dependsOn := ["db"] },
      { name := "db", image := "db", privileged := true }] }

theorem dependsOn_workshop {a b : String} (depends : workshop.DependsOn a b) :
    a = "Web" ∧ b = "db" := by
  have needed : b ∈ workshop.dependencies a := depends
  have named : a ∈ ["Web","db"] :=
    Document.mem_names_of_dependencies (List.ne_nil_of_mem needed)
  have web : workshop.dependencies "Web" = ["db"] := by decide
  have db : workshop.dependencies "db" = [] := by decide
  rcases List.mem_cons.mp named with rfl | named
  · exact ⟨rfl,List.mem_singleton.mp (web ▸ needed)⟩
  · obtain rfl := List.mem_singleton.mp named
    rw [db] at needed
    cases needed

theorem pod_has_services_workshop :
    ∃ services : List Service, services.Perm workshop.services ∧
      List.Forall₂ Carries services (containersOf (pod workshop {}).toValue) ∧
      (containersOf (pod workshop {}).toValue).map (fieldUnder? "name") =
        [some (.string "db"),some (.string "web")] ∧
      renamings (diagnostics workshop).warnings = [("Web","web")] := by
  have acyclic (name : String) : ¬Relation.TransGen workshop.DependsOn name name := by
    intro circle
    obtain ⟨_,first,_⟩ := Relation.TransGen.head'_iff.mp circle
    obtain ⟨_,_,last⟩ := Relation.TransGen.tail'_iff.mp circle
    have apart := (dependsOn_workshop first).1.symm.trans (dependsOn_workshop last).2
    exact absurd apart (by decide)
  obtain ⟨services,_,perm,_,carries,_,_⟩ :=
    pod_has_services (d := workshop) (by decide) (by decide) acyclic {}
  exact ⟨services,perm,carries,by decide +kernel,by decide +kernel⟩

end Kube

end ComposeToPodman.Target
