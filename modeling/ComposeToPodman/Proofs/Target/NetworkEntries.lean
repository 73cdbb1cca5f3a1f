import ComposeToPodman.Proofs.Target.UnitReferences

/-! The networks that containers join. Each network that a service lists has an entry of its own in
the unit of the service, but for the one that is called like the default network: this one is not
joined even where it is declared. -/
namespace ComposeToPodman.Target.Quadlet

open Compose

variable {d : Document} {project : String} {s : Service}

/-- The values that a unit sets a key to, in order. -/
def NamedUnit.values (u : NamedUnit) (key : String) : List String :=
  ((u.file.sections.flatMap (·.entries)).filter (·.1 = key)).map (·.2)

/-- A declared network is joined through its unit, an external one under its name. -/
def ReferredToAs (d : Document) (name value : String) : Prop :=
  ∃ n, d.networks.get? name = some n ∧ value = if n.external then n.name else name ++ ".network"

theorem flatMap_ofSections (parts : List UnitSection) :
    (UnitFile.ofSections parts).sections.flatMap (·.entries) = parts.flatMap (·.entries) := by
  rw [UnitFile.ofSections]
  induction parts with
  | nil => rfl
  | cons part rest ih =>
    cases empty : part.entries with
    | nil => simpa [empty] using ih
    | cons => simpa [empty] using ih

theorem filter_flagged {key other : String} (apart : other ≠ key) (flag : Bool) (value : String) :
    (if flag then [(other,value)] else []).filter (·.1 = key) = [] := by
  split <;> simp [apart]

theorem values_network (d : Document) (project : String) (s : Service) :
    (containerUnit d project s).values "Network" = networkValues d s := by
  rw [NamedUnit.values,containerUnit,flatMap_ofSections]
  simp [describe,UnitSection.setAll,containerEntries,List.filter_flatMap,List.filter_map,
    Function.comp_def,filter_flagged]

/-- What is listed and not called like the default network is declared, and referred to in one
way. -/
theorem referredToAs_of_listed (wellFormed : d.WellFormed) (service : s ∈ d.services) {name : String}
    (listed : name ∈ s.networks) (other : name ≠ defaultNetwork) :
    ReferredToAs d name (networkReference d name) := by
  obtain ⟨n,declared⟩ := declared_of_listed wellFormed service listed other
  exact ⟨n,declared,by rw [networkReference,declared]⟩

/-- In a document that is read, a service without a network mode has one entry for each network that
it lists, in order, but for the one that is called like the default network. So a declared network is
joined unless it is called like that, or if another one happens to be referred to alike. -/
theorem networkEntries_of_read {input : String} {notices : List Notice}
    (read : Document.read input = .ok (d,notices)) (service : s ∈ d.services)
    (mode : s.networkMode = none) (project : String) :
    List.Forall₂ (ReferredToAs d) (s.networks.filter (· ≠ defaultNetwork))
      ((containerUnit d project s).values "Network") ∧
    ∀ name ∈ s.networks, ∀ value, ReferredToAs d name value →
      ((containerUnit d project s).Sets "Network" value ↔ name ≠ defaultNetwork ∨
        ∃ other ∈ s.networks, other ≠ defaultNetwork ∧ ReferredToAs d other value) := by
  have wellFormed := wellFormed_of_read read
  have entries : networkValues d s =
      (s.networks.filter (· ≠ defaultNetwork)).map (networkReference d) :=
    networkValues_of_bridge (.inl mode)
  have each : ∀ name ∈ s.networks.filter (· ≠ defaultNetwork),
      ReferredToAs d name (networkReference d name) := by
    intro name member
    obtain ⟨listed,other⟩ := List.mem_filter.mp member
    exact referredToAs_of_listed wellFormed service listed (by simpa using other)
  refine ⟨?_,fun name listed value refers => ?_⟩
  · rw [values_network,entries,List.forall₂_map_right_iff]
    exact List.forall₂_same.mpr each
  · rw [sets_network,entries,List.mem_map]
    constructor
    · rintro ⟨other,member,rfl⟩
      obtain ⟨among,apart⟩ := List.mem_filter.mp member
      exact .inr ⟨other,among,by simpa using apart,each other member⟩
    · have joined {other : String} (among : other ∈ s.networks) (apart : other ≠ defaultNetwork)
          (refers : ReferredToAs d other value) :
          ∃ other ∈ s.networks.filter (· ≠ defaultNetwork), networkReference d other = value := by
        obtain ⟨n,declared,rfl⟩ := refers
        refine ⟨other,List.mem_filter.mpr ⟨among,by simpa using apart⟩,?_⟩
        rw [networkReference,declared]
      rintro (apart | ⟨other,among,apart,alike⟩)
      · exact joined listed apart refers
      · exact joined among apart alike

def lanText : String := "services:
  web:
    image: docker.io/library/nginx
    networks: [default, back, corp]
networks:
  default:
    name: lan
  back:
  corp:
    name: office
    external: true
"

def lan : Document :=
  { services := [
      { name := "web", image := "docker.io/library/nginx"
        networks := ["default","back","corp"] }]
    networks := Dict.ofList [("default",{ name := "lan" }),("back",{ name := "back" }),
      ("corp",{ name := "office", external := true })] }

theorem read_lanText : Document.read lanText = .ok (lan,[]) := by decide +kernel

theorem networkEntries_of_read_lan :
    ∃ s ∈ lan.services, (containerUnit lan "compose" s).values "Network" =
        ["back.network","office"] ∧
      List.Forall₂ (ReferredToAs lan) ["back","corp"]
        ((containerUnit lan "compose" s).values "Network") ∧
      (containerUnit lan "compose" s).Sets "Network" "office" := by
  obtain ⟨entries,joined⟩ :=
    networkEntries_of_read read_lanText List.mem_cons_self rfl "compose"
  have office : ReferredToAs lan "corp" "office" := ⟨_,rfl,rfl⟩
  exact ⟨_,List.mem_cons_self,by decide,entries,
    (joined "corp" (by decide) "office" office).mpr (.inl (by decide))⟩

/-- The network that is called like the default network is declared and listed, and has a unit of its
own. The service does not join it. -/
theorem network_not_joined_lan :
    Document.read lanText = .ok (lan,[]) ∧ HasUnit lan "compose" "default.network" ∧
      ∃ s ∈ lan.services, s.networkMode = none ∧ "default" ∈ s.networks ∧
        ReferredToAs lan "default" "default.network" ∧
        ¬(containerUnit lan "compose" s).Sets "Network" "default.network" := by
  have declared : lan.networks.get? "default" = some { name := "lan" } := by decide
  refine ⟨read_lanText,⟨_,networkUnit_mem declared rfl,rfl⟩,_,List.mem_cons_self,rfl,by decide,
    ⟨_,declared,rfl⟩,?_⟩
  rw [sets_network]
  decide

end ComposeToPodman.Target.Quadlet
