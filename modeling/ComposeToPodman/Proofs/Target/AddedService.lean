import ComposeToPodman.Proofs.Target.Files
import Mathlib.Data.List.Nodup

/-! A service more. The unit of a service tells of nothing but the service itself, the project and the
declared resources; so a service that is added leaves all other unit files as they are. -/
namespace ComposeToPodman.Target.Quadlet

open Compose

/-- The units of what the project declares. -/
def resourceUnits (d : Document) (project : String) : List NamedUnit :=
  (d.networks.entries.filter (!·.2.external)).map (fun (key, n) => networkUnit project key n) ++
    (d.volumes.entries.filter (!·.2.external)).map (fun (key, v) => volumeUnit project key v)

theorem units_eq (d : Document) (project : String) :
    units d project = resourceUnits d project ++ d.services.map (containerUnit d project) := rfl

section Frame

variable {d e : Document} (networks : e.networks = d.networks) (volumes : e.volumes = d.volumes)
include networks volumes

theorem resourceUnits_of_declared (project : String) :
    resourceUnits e project = resourceUnits d project := by
  rw [resourceUnits,networks,volumes,resourceUnits]

/-- Other services have no part in the unit of a service. -/
theorem containerUnit_of_declared (project : String) (s : Service) :
    containerUnit e project s = containerUnit d project s := by
  have sources : mountSource e = mountSource d := by
    funext m
    rw [mountSource,volumes,mountSource]
  have references : networkReference e = networkReference d := by
    funext name
    rw [networkReference,networks,networkReference]
  simp only [containerUnit,containerEntries,mountValue,sources,networkValues,references]

end Frame

theorem units_addService (d : Document) (project : String) (before after : List Service)
    (s : Service) :
    ∃ front back,
      units { d with services := before ++ after } project = front ++ back ∧
      units { d with services := before ++ s :: after } project =
        front ++ containerUnit d project s :: back := by
  have resources (services : List Service) :
      resourceUnits { d with services } project = resourceUnits d project :=
    resourceUnits_of_declared rfl rfl project
  have containers (services : List Service) :
      services.map (containerUnit { d with services } project) =
        services.map (containerUnit d project) :=
    List.map_congr_left fun t _ => containerUnit_of_declared rfl rfl project t
  refine ⟨resourceUnits d project ++ before.map (containerUnit d project),
    after.map (containerUnit d project),?_,?_⟩
  · rw [units_eq,resources,containers,List.map_append,List.append_assoc]
  · rw [units_eq,resources,containers,List.map_append,List.append_assoc,List.map_cons]

end ComposeToPodman.Target.Quadlet

namespace ComposeToPodman

open Compose Target

/-- A service of another name, put anywhere among the services of a document, adds its own unit file to
those of the document. All others are the same as without it, and in the same order. -/
theorem files_of_addedService {d : Document} {before after : List Service} {s : Service} {o : Options}
    {w v : Rule.Revision} (whole : d.services = before ++ after)
    (distinct : (d.services.map (·.name)).Nodup) (fresh : s.name ∉ d.services.map (·.name))
    (ran : Rule.run ⟨.quadlet,o⟩ Rule.all d = .ok w)
    (ranMore : Rule.run ⟨.quadlet,o⟩ Rule.all { d with services := before ++ s :: after } = .ok v) :
    ∃ front added back,
      (Format.quadlet.output w.document o).files = front ++ back ∧
      (Format.quadlet.output v.document o).files = front ++ added :: back ∧
      added.name = s.name ++ ".container" ∧
      ((Format.quadlet.output v.document o).files.map (·.name)).Nodup := by
  have first := (Rule.run_eq_ok ran).2
  have second := (Rule.run_eq_ok ranMore).2
  rw [Rule.changed_all] at first second
  obtain ⟨front,back,without,more⟩ := Quadlet.units_addService d (o.project d)
    (before.map (Rule.rewriteService ⟨.quadlet,o⟩)) (after.map (Rule.rewriteService ⟨.quadlet,o⟩))
    (Rule.rewriteService ⟨.quadlet,o⟩ s)
  let added := Quadlet.containerUnit d (o.project d) (Rule.rewriteService ⟨.quadlet,o⟩ s)
  refine ⟨front.map (·.toOutput),added.toOutput,back.map (·.toOutput),?_,?_,rfl,?_⟩
  · rw [← List.map_append,← without,← List.map_append,← whole,first]
    rfl
  · rw [← List.map_cons,← List.map_append,← more,← List.map_cons,← List.map_append,second]
    rfl
  · have names : ((before ++ s :: after).map (·.name)).Nodup := by
      rw [whole,List.map_append] at distinct fresh
      rw [List.map_append,List.map_cons,List.nodup_middle]
      exact List.nodup_cons.mpr ⟨fresh,distinct⟩
    rw [second]
    exact nodup_output (by rwa [Rule.names_rewrite]) .quadlet o

/-- Two services that share a volume and a network of the project. -/
def store : Document :=
  { services :=
      [{ name := "db", image := "postgres", networks := ["data"]
         mounts := [{ source := "files", target := "/var", kind := .volume }] },
       { name := "web", image := "nginx", dependsOn := ["db"], networks := ["data"] }]
    networks := Dict.ofList [("data",{ name := "data" })]
    volumes := Dict.ofList [("files",{ name := "files" })] }

def cache : Service :=
  { name := "cache", image := "redis", networks := ["data"], dependsOn := ["db"]
    mounts := [{ source := "files", target := "/files", kind := .volume }] }

def cachedStore : Document :=
  { store with services := store.services.take 1 ++ cache :: store.services.drop 1 }

theorem files_of_addedService_cachedStore :
    ∃ w v front added back, Rule.run ⟨.quadlet,{}⟩ Rule.all store = .ok w ∧
      Rule.run ⟨.quadlet,{}⟩ Rule.all cachedStore = .ok v ∧
      (Format.quadlet.output w.document {}).files = front ++ back ∧
      (Format.quadlet.output v.document {}).files = front ++ added :: back ∧
      added.name = "cache.container" ∧ unitNames v.document =
        ["data.network","files.volume","db.container","cache.container","web.container"] := by
  have joined : store.services.findSome? (Rule.dangling? store) = none := by rfl
  have joinedMore : cachedStore.services.findSome? (Rule.dangling? cachedStore) = none := by rfl
  obtain ⟨_,ran⟩ := Rule.run_all_of_joined joined ⟨.quadlet,{}⟩
  obtain ⟨_,ranMore⟩ := Rule.run_all_of_joined joinedMore ⟨.quadlet,{}⟩
  obtain ⟨front,added,back,without,more,name,_⟩ :=
    @files_of_addedService store (store.services.take 1) (store.services.drop 1) cache {} _ _ rfl
      (by decide) (by decide) ran ranMore
  have names : unitNames cachedStore =
      ["data.network","files.volume","db.container","cache.container","web.container"] := by decide
  exact ⟨_,_,front,added,back,ran,ranMore,without,more,name,(unitNames_rewrite _ _).trans names⟩

end ComposeToPodman
