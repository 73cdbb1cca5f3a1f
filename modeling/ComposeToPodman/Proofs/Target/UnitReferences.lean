import ComposeToPodman.Proofs.Rule.Effect
import ComposeToPodman.Proofs.Target.Files

/-! What unit files refer to: each other, or what is external. A reference is an entry of a unit; the
units that it may name are those of the same document. -/
namespace ComposeToPodman.Target.Quadlet

open Compose

/-- An entry of a unit, in whichever section. -/
def NamedUnit.Sets (u : NamedUnit) (key value : String) : Prop :=
  ∃ part ∈ u.file.sections, (key,value) ∈ part.entries

variable {d : Document} {project : String} {s : Service} {key value : String}

theorem sets_ofSections {name : String} {parts : List UnitSection} :
    NamedUnit.Sets ⟨name,.ofSections parts⟩ key value ↔
      ∃ part ∈ parts, (key,value) ∈ part.entries := by
  constructor
  · rintro ⟨part,kept,entry⟩
    exact ⟨part,(List.mem_filter.mp kept).1,entry⟩
  · rintro ⟨part,listed,entry⟩
    have nonempty : part.entries ≠ [] := List.ne_nil_of_mem entry
    exact ⟨part,List.mem_filter.mpr ⟨listed,by simpa using nonempty⟩,entry⟩

theorem key_of_networkUnit {name : String} {n : Network}
    (sets : (networkUnit project name n).Sets key value) :
    key ∈ ["Description","NetworkName","Driver","Internal","Subnet","Gateway"] := by
  rw [networkUnit,sets_ofSections] at sets
  simp [describe] at sets ⊢
  tauto

theorem key_of_volumeUnit {name : String} {v : Volume}
    (sets : (volumeUnit project name v).Sets key value) :
    key ∈ ["Description","VolumeName","Driver"] := by
  rw [volumeUnit,sets_ofSections] at sets
  simp [describe] at sets ⊢
  tauto

theorem sets_dependency (order : key ∈ ["Requires","After"]) :
    (containerUnit d project s).Sets key value ↔
      ∃ name ∈ s.dependsOn, value = name ++ ".service" := by
  rw [containerUnit,sets_ofSections]
  rcases List.mem_pair.mp order with rfl | rfl <;>
    simp [describe,UnitSection.setAll,containerEntries]

theorem sets_containerName : (containerUnit d project s).Sets "ContainerName" value ↔
    value = s.name := by
  rw [containerUnit,sets_ofSections]
  simp [describe,UnitSection.setAll,containerEntries]

theorem sets_network : (containerUnit d project s).Sets "Network" value ↔
    value ∈ networkValues d s := by
  rw [containerUnit,sets_ofSections]
  simp [describe,UnitSection.setAll,containerEntries]

theorem sets_mount : (containerUnit d project s).Sets "Volume" value ↔
    ∃ m ∈ s.mounts, UnitFile.quote (mountValue d m) = value := by
  rw [containerUnit,sets_ofSections]
  simp [describe,UnitSection.setAll,containerEntries]

theorem mem_units_iff {u : NamedUnit} : u ∈ units d project ↔
    (∃ name n, (name,n) ∈ d.networks.entries ∧ n.external = false ∧
      networkUnit project name n = u) ∨
    (∃ name v, (name,v) ∈ d.volumes.entries ∧ v.external = false ∧
      volumeUnit project name v = u) ∨
    ∃ s ∈ d.services, containerUnit d project s = u := by
  simp [units,and_assoc]

/-- Only containers refer to anything. -/
theorem container_of_sets {u : NamedUnit} (member : u ∈ units d project) (sets : u.Sets key value)
    (refers : key ∈ ["Requires","After","Network"]) :
    ∃ s ∈ d.services, containerUnit d project s = u := by
  rcases mem_units_iff.mp member with ⟨_,_,_,_,rfl⟩ | ⟨_,_,_,_,rfl⟩ | container
  · have key := key_of_networkUnit sets
    grind
  · have key := key_of_volumeUnit sets
    grind
  · exact container

theorem containerUnit_mem (service : s ∈ d.services) :
    containerUnit d project s ∈ units d project :=
  mem_units_iff.mpr (.inr (.inr ⟨s,service,rfl⟩))

theorem networkUnit_mem {name : String} {n : Network} (declared : d.networks.get? name = some n)
    (own : n.external = false) : networkUnit project name n ∈ units d project :=
  mem_units_iff.mpr (.inl ⟨name,n,Dict.get?_eq_some_iff.mp declared,own,rfl⟩)

theorem volumeUnit_mem {name : String} {v : Volume} (declared : d.volumes.get? name = some v)
    (own : v.external = false) : volumeUnit project name v ∈ units d project :=
  mem_units_iff.mpr (.inr (.inl ⟨name,v,Dict.get?_eq_some_iff.mp declared,own,rfl⟩))

/-- A unit of the document has this file name. -/
def HasUnit (d : Document) (project fileName : String) : Prop :=
  ∃ u ∈ units d project, u.fileName = fileName

/-- What the units refer to is a unit of the document, unless it is external. -/
structure Closed (d : Document) (project : String) : Prop where
  dependencies : ∀ u ∈ units d project, ∀ key ∈ ["Requires","After"], ∀ value, u.Sets key value →
    ∃ name, value = name ++ ".service" ∧ HasUnit d project (name ++ ".container")
  networks : ∀ s ∈ d.services, s.networkMode = none ∨ s.networkMode = some .bridge →
    ∀ name ∈ s.networks, name ≠ defaultNetwork → ∃ n, d.networks.get? name = some n ∧
      (n.external = false → (containerUnit d project s).Sets "Network" (name ++ ".network") ∧
        HasUnit d project (name ++ ".network")) ∧
      (n.external = true → (containerUnit d project s).Sets "Network" n.name)
  volumes : ∀ s ∈ d.services, ∀ m ∈ s.mounts, m.kind = .volume →
    ∀ v, d.volumes.get? m.source = some v →
      let written (source : String) : Prop := (containerUnit d project s).Sets "Volume"
        (UnitFile.quote (source ++ ":" ++ m.target ++ m.optionSuffix))
      (v.external = false → written (m.source ++ ".volume") ∧
        HasUnit d project (m.source ++ ".volume")) ∧
      (v.external = true → written v.name)
  /-- The name of an external network may look like a namespace. -/
  namespaces : ∀ u ∈ units d project, ∀ name, u.Sets "Network" ("container:" ++ name) →
    (∃ w ∈ units d project, w.fileName = name ++ ".container" ∧
      ∀ value, w.Sets "ContainerName" value ↔ value = name) ∨
    ∃ s ∈ d.services, u = containerUnit d project s ∧ ∃ listed ∈ s.networks, ∃ n,
      d.networks.get? listed = some n ∧ n.external = true ∧ n.name = "container:" ++ name
  ownedNetworks : ∀ name n, d.networks.get? name = some n →
    ((units d project).map (·.fileName)).count (name ++ ".network") = if n.external then 0 else 1
  ownedVolumes : ∀ name v, d.volumes.get? name = some v →
    ((units d project).map (·.fileName)).count (name ++ ".volume") = if v.external then 0 else 1

theorem hasUnit_of_dependency (wellFormed : d.WellFormed) {u : NamedUnit}
    (member : u ∈ units d project) (order : key ∈ ["Requires","After"]) (sets : u.Sets key value) :
    ∃ name, value = name ++ ".service" ∧ HasUnit d project (name ++ ".container") := by
  have refers : key ∈ ["Requires","After","Network"] := List.mem_append_left ["Network"] order
  obtain ⟨s,service,rfl⟩ := container_of_sets member sets refers
  obtain ⟨name,dependency,rfl⟩ := (sets_dependency order).mp sets
  have known := (wellFormed.services s service).dependencies name dependency
  obtain ⟨t,other,rfl⟩ := List.mem_map.mp known
  exact ⟨t.name,rfl,containerUnit d project t,containerUnit_mem other,rfl⟩

theorem networkValues_of_bridge (mode : s.networkMode = none ∨ s.networkMode = some .bridge) :
    networkValues d s = (s.networks.filter (· ≠ defaultNetwork)).map (networkReference d) := by
  rcases mode with mode | mode <;> simp [networkValues,mode]

/-- A network that is listed is declared, unless it is the default network. -/
theorem declared_of_listed (wellFormed : d.WellFormed) (service : s ∈ d.services) {name : String}
    (listed : name ∈ s.networks) (other : name ≠ defaultNetwork) :
    ∃ n, d.networks.get? name = some n :=
  Dict.get?_of_contains
    (((wellFormed.services s service).known name listed).resolve_left other)

theorem sets_listed (wellFormed : d.WellFormed) (service : s ∈ d.services)
    (mode : s.networkMode = none ∨ s.networkMode = some .bridge) {name : String}
    (listed : name ∈ s.networks) (other : name ≠ defaultNetwork) :
    ∃ n, d.networks.get? name = some n ∧
      (n.external = false → (containerUnit d project s).Sets "Network" (name ++ ".network") ∧
        HasUnit d project (name ++ ".network")) ∧
      (n.external = true → (containerUnit d project s).Sets "Network" n.name) := by
  obtain ⟨n,declared⟩ := declared_of_listed wellFormed service listed other
  have reference : (containerUnit d project s).Sets "Network" (networkReference d name) := by
    rw [sets_network,networkValues_of_bridge mode]
    exact List.mem_map_of_mem (List.mem_filter.mpr ⟨listed,by simpa using other⟩)
  rw [networkReference,declared] at reference
  refine ⟨n,declared,fun own => ⟨by simpa [own] using reference,?_⟩,fun external => ?_⟩
  · exact ⟨_,networkUnit_mem declared own,rfl⟩
  · simpa [external] using reference

/-- The network of a namespace belongs to a network mode, or it is called so elsewhere. -/
theorem namespace_of_networkValues (wellFormed : d.WellFormed) (service : s ∈ d.services)
    {name : String} (value : "container:" ++ name ∈ networkValues d s) :
    s.networkMode = some (.container name) ∨ ∃ listed ∈ s.networks, ∃ n,
      d.networks.get? listed = some n ∧ n.external = true ∧ n.name = "container:" ++ name := by
  have listed (mode : s.networkMode = none ∨ s.networkMode = some .bridge) :
      ∃ listed ∈ s.networks, ∃ n,
        d.networks.get? listed = some n ∧ n.external = true ∧ n.name = "container:" ++ name := by
    rw [networkValues_of_bridge mode] at value
    obtain ⟨listed,member,same⟩ := List.mem_map.mp value
    obtain ⟨member,other⟩ := List.mem_filter.mp member
    obtain ⟨n,declared⟩ := declared_of_listed wellFormed service member (by simpa using other)
    rw [networkReference,declared] at same
    cases external : n.external with
    | true => exact ⟨listed,member,n,declared,external,by simpa [external] using same⟩
    | false =>
      have text : listed ++ ".network" = "container:" ++ name := by simpa [external] using same
      have named := wellFormed.networks listed
        (List.mem_map_of_mem (Dict.get?_eq_some_iff.mp declared))
      have colon : ':' ∈ (listed ++ ".network").toList := by simp [text]
      rw [String.toList_append,List.mem_append] at colon
      rcases colon with inside | suffix
      · exact absurd inside (not_mem_of_isName named (by decide))
      · exact absurd suffix (by decide)
  cases mode : s.networkMode with
  | none => exact .inr (listed (.inl mode))
  | some m =>
    cases m with
    | bridge => exact .inr (listed (.inr mode))
    | container target =>
      have same : "container:" ++ name = "container:" ++ target := by
        simpa [networkValues,mode,NetworkMode.text] using value
      exact .inl (by rw [(String.append_right_inj _).mp same])
    | host | none =>
      have same := congrArg String.toList (List.mem_singleton.mp (by
        simpa [networkValues,mode] using value : "container:" ++ name ∈ [NetworkMode.text _]))
      simp [NetworkMode.text] at same

theorem hasUnit_of_namespace (wellFormed : d.WellFormed)
    (joined : d.services.findSome? (Rule.dangling? d) = none) {u : NamedUnit}
    (member : u ∈ units d project) {name : String}
    (sets : u.Sets "Network" ("container:" ++ name)) :
    (∃ w ∈ units d project, w.fileName = name ++ ".container" ∧
      ∀ value, w.Sets "ContainerName" value ↔ value = name) ∨
    ∃ s ∈ d.services, u = containerUnit d project s ∧ ∃ listed ∈ s.networks, ∃ n,
      d.networks.get? listed = some n ∧ n.external = true ∧ n.name = "container:" ++ name := by
  obtain ⟨s,service,rfl⟩ := container_of_sets member sets (by simp)
  rcases namespace_of_networkValues wellFormed service (sets_network.mp sets) with mode | listed
  · obtain ⟨_,t,other,rfl⟩ := Rule.joined_namespace joined service mode
    exact .inl ⟨containerUnit d project t,containerUnit_mem other,rfl,fun _ => sets_containerName⟩
  · exact .inr ⟨s,service,rfl,listed⟩

theorem mem_owned_iff {external : α → Bool} {resources : Dict α} {name : String} {a : α}
    (declared : resources.get? name = some a) :
    name ∈ owned external resources ↔ external a = false := by
  have entry := Dict.get?_eq_some_iff.mp declared
  constructor
  · intro member
    obtain ⟨⟨_,b⟩,kept,rfl⟩ := List.mem_map.mp member
    obtain ⟨other,own⟩ := List.mem_filter.mp kept
    obtain rfl := Option.some.inj (declared.symm.trans (Dict.get?_eq_some_iff.mpr other))
    simpa using own
  · intro own
    exact List.mem_map_of_mem (List.mem_filter.mpr ⟨entry,by simp [own]⟩)

/-- What the project owns has one name among those of its kind. -/
theorem count_owned {external : α → Bool} {resources : Dict α} {name : String} {a : α}
    (declared : resources.get? name = some a) (suffix : String) :
    ((owned external resources).map (· ++ suffix)).count (name ++ suffix) =
      if external a then 0 else 1 := by
  have member : name ++ suffix ∈ (owned external resources).map (· ++ suffix) ↔
      external a = false := by
    rw [List.mem_map_of_injective fun _ _ same => (String.append_left_inj suffix).mp same]
    exact mem_owned_iff declared
  rw [(nodup_map_append suffix (nodup_owned external resources)).count]
  cases own : external a <;> simp [member,own]

/-- No name of another kind has this ending. -/
theorem count_other {suffix other : String} (left : suffix.toList ≠ []) (right : other.toList ≠ [])
    (ends : suffix.toList.getLast? ≠ other.toList.getLast?) (name : String) (names : List String) :
    (names.map (· ++ other)).count (name ++ suffix) = 0 := by
  refine List.count_eq_zero.mpr fun member => ?_
  obtain ⟨key,_,same⟩ := List.mem_map.mp member
  exact append_ne_append left right ends name key same.symm

theorem count_network {name : String} {n : Network} (declared : d.networks.get? name = some n) :
    (unitNames d).count (name ++ ".network") = if n.external then 0 else 1 := by
  rw [unitNames,List.count_append,List.count_append,count_owned declared,
    count_other (by decide) (by decide) (by decide),count_other (by decide) (by decide) (by decide),
    Nat.add_zero]

theorem count_volume {name : String} {v : Volume} (declared : d.volumes.get? name = some v) :
    (unitNames d).count (name ++ ".volume") = if v.external then 0 else 1 := by
  rw [unitNames,List.count_append,List.count_append,count_owned declared,
    count_other (by decide) (by decide) (by decide),count_other (by decide) (by decide) (by decide),
    Nat.zero_add,Nat.add_zero]

theorem sets_declared_volume (project : String) {m : Mount} (mount : m ∈ s.mounts)
    (kind : m.kind = .volume) {v : Volume} (declared : d.volumes.get? m.source = some v) :
    (containerUnit d project s).Sets "Volume" (UnitFile.quote
      ((if v.external then v.name else m.source ++ ".volume") ++ ":" ++ m.target ++
        m.optionSuffix)) := by
  refine sets_mount.mpr ⟨m,mount,?_⟩
  rw [mountValue,mountSource,kind,declared]

/-- The units of a well-formed document are closed if its namespaces are there. -/
theorem closed_units (wellFormed : d.WellFormed)
    (joined : d.services.findSome? (Rule.dangling? d) = none) (project : String) :
    Closed d project where
  dependencies _ member _ order _ sets := hasUnit_of_dependency wellFormed member order sets
  networks _ service mode _ listed other := sets_listed wellFormed service mode listed other
  volumes s _ m mount kind v declared := by
    have written := sets_declared_volume project mount kind declared
    refine ⟨fun own => ⟨by simpa [own] using written,?_⟩,fun external => ?_⟩
    · exact ⟨_,volumeUnit_mem declared own,rfl⟩
    · simpa [external] using written
  namespaces _ member _ sets := hasUnit_of_namespace wellFormed joined member sets
  ownedNetworks _ _ declared := by rw [fileNames_units,count_network declared]
  ownedVolumes _ _ declared := by rw [fileNames_units,count_volume declared]

end ComposeToPodman.Target.Quadlet

namespace ComposeToPodman

open Compose Target Target.Quadlet

/-- Converting a document that the rules accept gives the files of its units. Whatever a unit is
started after or with has a file, as has every network and volume that is referred to and that the
project owns, exactly one, and what is external is called by its own name. A namespace that is joined
is that of a container with a file, unless an external network is called like it. -/
theorem convertTo_closed {o : Options} {input : String} {d : Document} {notices : List Notice}
    {w : Rule.Revision} (read : Document.read input = .ok (d,notices))
    (ran : Rule.run ⟨.quadlet,o⟩ Rule.all d = .ok w) :
    ∃ t, convertTo o .quadlet input = .ok t ∧
      t.files = (units w.document (o.project w.document)).map NamedUnit.toOutput ∧
      Closed w.document (o.project w.document) := by
  obtain ⟨missing,made⟩ := Rule.run_eq_ok ran
  rw [Rule.missing?_all] at missing
  rw [Rule.changed_all] at made
  obtain ⟨t,converted,tells⟩ := convertTo_of_read (o := o) (f := .quadlet) read missing
  have rejoined : (Rule.rewrite ⟨.quadlet,o⟩ d).services.findSome?
      (Rule.dangling? (Rule.rewrite ⟨.quadlet,o⟩ d)) = none := by
    rw [Rule.findSome?_dangling?_rewrite,missing]
  refine ⟨t,converted,?_,?_⟩
  · rw [tells.files,made]
    rfl
  · rw [made]
    exact closed_units (Rule.wellFormed_rewrite (wellFormed_of_read read)) rejoined _

/-- References of every kind. -/
def stackText : String := "services:
  db:
    image: db
    networks: [net]
    volumes: ['data:/db']
  web:
    image: web
    network_mode: service:db
    depends_on: [db]
networks:
  net:
volumes:
  data:
"

def stack : Document :=
  { services := [
      { name := "db", image := "db", networks := ["net"]
        mounts := [{ source := "data", target := "/db", kind := .volume }] },
      { name := "web", image := "web", networkMode := some (.container "db"), dependsOn := ["db"] }]
    networks := Dict.ofList [("net",{ name := "net" })]
    volumes := Dict.ofList [("data",{ name := "data" })] }

theorem convertTo_closed_stack :
    ∃ w t, Rule.run ⟨.quadlet,{}⟩ Rule.all stack = .ok w ∧ convertTo {} .quadlet stackText = .ok t ∧
      Closed w.document (Options.project {} w.document) ∧
      t.files.map (·.name) = ["net.network","data.volume","db.container","web.container"] := by
  have read : Document.read stackText = .ok (stack,[]) := by decide +kernel
  have joined : stack.services.findSome? (Rule.dangling? stack) = none := by rfl
  obtain ⟨noticed,ran⟩ := Rule.run_all_of_joined joined ⟨.quadlet,{}⟩
  obtain ⟨t,converted,files,closed⟩ := convertTo_closed read ran
  refine ⟨_,t,ran,converted,closed,?_⟩
  have named : unitNames stack = ["net.network","data.volume","db.container","web.container"] := by
    decide
  rw [files,← named,← unitNames_rewrite ⟨.quadlet,{}⟩ stack,← fileNames_quadlet _ {}]
  rfl

/-- An external network that is called like a namespace. -/
def ghostText : String := "networks:
  n:
    external: true
    name: container:ghost
services:
  web:
    image: docker.io/library/nginx
    networks: [n]
"

def ghost : Document :=
  { services := [{ name := "web", image := "docker.io/library/nginx", networks := ["n"] }]
    networks := Dict.ofList [("n",{ name := "container:ghost", external := true })] }

/-- The namespace is joined in a file, and no container with its name has one. -/
theorem namespace_without_container_ghost :
    ∃ w t, Rule.run ⟨.quadlet,{}⟩ Rule.all ghost = .ok w ∧
      Document.read ghostText = .ok (ghost,[]) ∧ convertTo {} .quadlet ghostText = .ok t ∧
      (∃ u ∈ units w.document "compose", u.toOutput ∈ t.files ∧
        u.Sets "Network" "container:ghost") ∧
      ∀ file ∈ t.files, file.name ≠ "ghost.container" := by
  have read : Document.read ghostText = .ok (ghost,[]) := by decide +kernel
  have joined : ghost.services.findSome? (Rule.dangling? ghost) = none := by rfl
  obtain ⟨noticed,ran⟩ := Rule.run_all_of_joined joined ⟨.quadlet,{}⟩
  obtain ⟨t,converted,tells⟩ := convertTo_of_read (o := {}) (f := .quadlet) read joined
  have files : t.files = (units (Rule.rewrite ⟨.quadlet,{}⟩ ghost) "compose").map
      NamedUnit.toOutput := tells.files
  have names : t.files.map (·.name) = ["web.container"] := by
    rw [files]
    rfl
  let web := Rule.rewriteService ⟨.quadlet,{}⟩
    { name := "web", image := "docker.io/library/nginx", networks := ["n"] }
  have unit : containerUnit (Rule.rewrite ⟨.quadlet,{}⟩ ghost) "compose" web ∈
      units (Rule.rewrite ⟨.quadlet,{}⟩ ghost) "compose" := containerUnit_mem List.mem_cons_self
  refine ⟨_,t,ran,read,converted,⟨_,unit,?_,sets_network.mpr (by decide)⟩,fun file member => ?_⟩
  · rw [files]
    exact List.mem_map_of_mem unit
  · have name : file.name ∈ ["web.container"] := names ▸ List.mem_map_of_mem member
    rw [List.mem_singleton.mp name]
    decide

end ComposeToPodman
