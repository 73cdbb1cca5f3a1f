import ComposeToPodman.Proofs.Compose.FileOrder
import ComposeToPodman.Proofs.Target.Fields
import ComposeToPodman.Proofs.Target.PodVolumes
import ComposeToPodman.Proofs.Target.UnitReferences

/-! The name of a declared volume, as each format tells it: by the unit of the volume, by a volume of
the Pod, and by the declaration in a compose file. -/
namespace ComposeToPodman

open Compose Target

namespace Target.Quadlet

variable {d : Document} {project : String}

/-- The unit of a service mounts a volume of this name: through the unit of the volume, the only one
of its file name, or under the name itself if the volume is external. -/
structure Mounts (d : Document) (project : String) (s : Service) (m : Mount) (v : Volume)
    (name : String) : Prop where
  entry : (containerUnit d project s).Sets "Volume"
    (UnitFile.quote (mountSource d m ++ ":" ++ m.target ++ m.optionSuffix))
  external : v.external = true → mountSource d m = name
  owned : v.external = false → ((units d project).map (·.fileName)).count (mountSource d m) = 1 ∧
    ∃ u ∈ units d project, u.fileName = mountSource d m ∧
      ∀ value, u.Sets "VolumeName" value ↔ value = name

theorem sets_volumeName {key value : String} {v : Volume} :
    (volumeUnit project key v).Sets "VolumeName" value ↔ value = v.name := by
  rw [volumeUnit,sets_ofSections]
  simp [describe]

theorem mounts_declared {s : Service} {m : Mount} (mount : m ∈ s.mounts) (kind : m.kind = .volume)
    {v : Volume} (declared : d.volumes.get? m.source = some v) :
    Mounts d project s m v v.name := by
  have source : mountSource d m = if v.external then v.name else m.source ++ ".volume" := by
    rw [mountSource,kind,declared]
  refine ⟨sets_mount.mpr ⟨m,mount,rfl⟩,fun external => by simp [source,external],fun own => ?_⟩
  have source : mountSource d m = m.source ++ ".volume" := by simp [source,own]
  rw [source,fileNames_units,count_volume declared,own]
  exact ⟨rfl,_,volumeUnit_mem declared own,rfl,fun _ => sets_volumeName⟩

end Target.Quadlet

namespace Target.Kube

variable {d : Document}

/-- A mount of a service, and the mount that it became in the container of the service. -/
def Becomes (d : Document) (o : Options) (s : Service) (m : Mount) (p : PodMount) : Prop :=
  ∃ c, (s,c) ∈ (orderedServices d).zip (pod d o).containers ∧ (m,p) ∈ s.mounts.zip c.mounts

/-- The container of a service mounts the only volume of the Pod with the volume's name, which claims
the persistent volume of this name. -/
structure Claims (d : Document) (o : Options) (s : Service) (m : Mount) (name : String) : Prop where
  mounted : ∃ p, Becomes d o s m p
  claimed : ∀ p, Becomes d o s m p → p.path = m.target ∧ ∃ v ∈ (pod d o).volumes,
    v.name = p.volume ∧ v.content = .claim name ∧ ∀ w ∈ (pod d o).volumes, w.name = p.volume → w = v

theorem mem_orderedServices (distinct : (d.services.map (·.name)).Nodup)
    (ordered : ∃ order, d.startOrder = .ok order) {s : Service} (service : s ∈ d.services) :
    s ∈ orderedServices d := by
  obtain ⟨order,ordered⟩ := ordered
  have member : s.name ∈ order := (Document.mem_startOrder_iff ordered).mpr ⟨s,service,.refl⟩
  simp only [orderedServices,ordered]
  exact List.mem_filterMap.mpr ⟨s.name,member,Document.service?_name distinct service⟩

theorem exists_mem_zip {α β : Type} {R : α → β → Prop} {l : List α} {l' : List β}
    (related : List.Forall₂ R l l') {a : α} (member : a ∈ l) : ∃ b, (a,b) ∈ l.zip l' := by
  rw [← List.map_fst_zip (Nat.le_of_eq related.length_eq)] at member
  obtain ⟨⟨_,b⟩,pair,rfl⟩ := List.mem_map.mp member
  exact ⟨b,pair⟩

theorem claims_declared (distinct : (d.services.map (·.name)).Nodup)
    (ordered : ∃ order, d.startOrder = .ok order) (o : Options) {s : Service}
    (service : s ∈ d.services) {m : Mount} (mount : m ∈ s.mounts) (kind : m.kind = .volume)
    {v : Volume} (declared : d.volumes.get? m.source = some v) : Claims d o s m v.name := by
  have sound := sound_draft d
  constructor
  · obtain ⟨c,pair⟩ :=
      exists_mem_zip sound.placed (mem_orderedServices distinct ordered service)
    obtain ⟨p,inner⟩ := exists_mem_zip (List.forall₂_zip sound.placed pair) mount
    exact ⟨p,c,pair,inner⟩
  · rintro p ⟨c,pair,inner⟩
    obtain ⟨w,member,sameKind,source,rfl⟩ :=
      List.forall₂_zip (List.forall₂_zip sound.placed pair) inner
    have backs := sound.catalogue.backs w member m sameKind source
    exact ⟨rfl,w,member,rfl,backs.declared kind v declared,fun x among same =>
      sound.catalogue.eq_of_name among member same⟩

end Target.Kube

namespace Target.ComposeFile

open Yaml (Value)

/-- The name that a compose file gives to what is declared under a key: its name field, or the key. -/
def nameUnder (key : String) (v : Value) : Value := (fieldUnder? "name" v).getD (.string key)

/-- The volume that a compose file declares under a key has this name. -/
def Declares (d : Document) (key name : String) : Prop :=
  ∃ volumes value, fieldUnder? "volumes" (documentValue d) = some volumes ∧
    fieldUnder? key volumes = some value ∧ nameUnder key value = .string name

theorem fieldUnder?_entries (key : String) (f : String → α → Value) (d : Dict α) :
    fieldUnder? key (.mapping (d.entries.map fun (key,a) => (.string key,f key a))) =
      (d.get? key).map (f key) := by
  change under? key _ = (d.entries.lookup key).map _
  induction d.entries with
  | nil => rfl
  | cons e rest ih =>
    obtain ⟨other,a⟩ := e
    by_cases here : key = other
    · simp [under?,here]
    · have apart : (key == other) = false := by simpa using here
      have value : (Value.string key == .string other) = false := by simpa using here
      simpa [under?,List.lookup_cons,apart,value] using ih

theorem nameUnder_volumeValue (key : String) (v : Volume) :
    nameUnder key (volumeValue key v) = .string v.name := by
  unfold nameUnder volumeValue nameField
  split
  next same => simp [same]
  next => simp

theorem fieldNamed?_resourcesField (name other : String) (value : String → α → Value) (d : Dict α) :
    fieldNamed? name (resourcesField other value d) = if other = name ∧ d.isEmpty = false then
      some (.mapping (d.entries.map fun (key,a) => (.string key,value key a))) else none := by
  unfold resourcesField
  split
  next empty => simp [empty]
  next nonempty => simp [nonempty]

theorem declares_volume {d : Document} {key : String} {v : Volume}
    (declared : d.volumes.get? key = some v) : Declares d key v.name := by
  have nonempty : d.volumes.isEmpty = false := by
    by_contra empty
    have bare : d.volumes = {} := Dict.eq_empty_of_isEmpty (by simpa using empty)
    rw [bare] at declared
    cases declared
  refine ⟨_,volumeValue key v,?_,by rw [fieldUnder?_entries,declared]; rfl,
    nameUnder_volumeValue key v⟩
  simp [documentValue,fieldNamed?_resourcesField,nonempty]

end Target.ComposeFile

/-- The rules leave the mounts of declared volumes alone: no volume is called like a socket. -/
theorem rewriteMount_of_declared {d : Document} (wellFormed : d.WellFormed) (o : Options) {m : Mount}
    (kind : m.kind = .volume) {v : Volume} (declared : d.volumes.get? m.source = some v) :
    Rule.rewriteMount o m = m := by
  have named := wellFormed.volumes m.source (List.mem_map_of_mem (Dict.get?_eq_some_iff.mp declared))
  have other : m.source ≠ Rule.dockerSocket := fun socket => absurd (socket ▸ named) (by decide)
  rw [Rule.rewriteMount,Rule.replaceSocket_eq_self other,Rule.relabel,if_neg (by simp [kind])]

/-- If a document with distinct service names is converted to any format, it is to all of them, and a
mount of a declared volume comes down to the name of the volume in each: by the unit files, by the
Pod and by the compose file. -/
theorem volume_names_agree {o : Options} {f : Format} {input : String} {d : Document}
    {notices : List Notice} {t : Conversion} (read : Document.read input = .ok (d,notices))
    (distinct : (d.services.map (·.name)).Nodup) (converted : convertTo o f input = .ok t) :
    let quadlet := Rule.rewrite ⟨.quadlet,o⟩ d
    let kube := Rule.rewrite ⟨.kube,o⟩ d
    let compose := Rule.rewrite ⟨.podmanCompose,o⟩ d
    (∃ t, convertTo o .quadlet input = .ok t ∧
      t.files = (Quadlet.units quadlet (o.project quadlet)).map Quadlet.NamedUnit.toOutput) ∧
    (∃ t, convertTo o .kube input = .ok t ∧ t.output = some (Kube.pod kube o).toValue.write) ∧
    (∃ t, convertTo o .podmanCompose input = .ok t ∧
      t.output = some (ComposeFile.documentValue compose).write) ∧
    ∀ s ∈ d.services, ∀ m ∈ s.mounts, m.kind = .volume →
      ∀ v, d.volumes.get? m.source = some v →
        Quadlet.Mounts quadlet (o.project quadlet) (Rule.rewriteService ⟨.quadlet,o⟩ s) m v v.name ∧
        Kube.Claims kube o (Rule.rewriteService ⟨.kube,o⟩ s) m v.name ∧
        ComposeFile.Declares compose m.source v.name := by
  have joined := joined_of_convertTo read converted
  have wellFormed := wellFormed_of_read read
  refine ⟨?_,?_,?_,fun s service m mount kind v declared => ?_⟩
  · obtain ⟨t,converted,tells⟩ := convertTo_of_read (o := o) (f := .quadlet) read joined
    exact ⟨t,converted,tells.files⟩
  · obtain ⟨t,converted,tells⟩ := convertTo_of_read (o := o) (f := .kube) read joined
    exact ⟨t,converted,tells.output⟩
  · obtain ⟨t,converted,tells⟩ := convertTo_of_read (o := o) (f := .podmanCompose) read joined
    exact ⟨t,converted,tells.output⟩
  · have kept (f : Format) : m ∈ (Rule.rewriteService ⟨f,o⟩ s).mounts := by
      rw [← rewriteMount_of_declared wellFormed o kind declared]
      exact List.mem_map_of_mem mount
    have ordered := (Rule.wellFormed_rewrite (c := ⟨.kube,o⟩) wellFormed).ordered
    have same : ((Rule.rewrite ⟨.kube,o⟩ d).services.map (·.name)).Nodup := by simpa using distinct
    exact ⟨Quadlet.mounts_declared (kept .quadlet) kind declared,
      Kube.claims_declared same ordered o (List.mem_map_of_mem service) (kept .kube) kind declared,
      ComposeFile.declares_volume declared⟩

/-- A volume with a name of its own, and one that is external. -/
def shelfText : String := "services:
  db:
    image: db
    volumes: ['data:/a', 'media:/b']
volumes:
  data:
    name: shelf
  media:
    external: true
"

def shelf : Document :=
  { services := [
      { name := "db", image := "db"
        mounts := [
          { source := "data", target := "/a", kind := .volume },
          { source := "media", target := "/b", kind := .volume }] }]
    volumes := Dict.ofList [
      ("data",{ name := "shelf" }),("media",{ name := "media", external := true })] }

theorem volume_names_agree_shelf :
    (∃ t, convertTo {} .quadlet shelfText = .ok t) ∧
      ∃ s m, s ∈ shelf.services ∧ m ∈ s.mounts ∧
        Quadlet.Mounts (Rule.rewrite ⟨.quadlet,{}⟩ shelf) "compose"
          (Rule.rewriteService ⟨.quadlet,{}⟩ s) m { name := "shelf" } "shelf" ∧
        Kube.Claims (Rule.rewrite ⟨.kube,{}⟩ shelf) {} (Rule.rewriteService ⟨.kube,{}⟩ s) m "shelf" ∧
        ComposeFile.Declares (Rule.rewrite ⟨.podmanCompose,{}⟩ shelf) "data" "shelf" := by
  have read : Document.read shelfText = .ok (shelf,[]) := by decide +kernel
  have joined : shelf.services.findSome? (Rule.dangling? shelf) = none := by rfl
  obtain ⟨t,converted,_⟩ := convertTo_of_read (o := {}) (f := .quadlet) read joined
  obtain ⟨_,_,_,agree⟩ := volume_names_agree read (by decide) converted
  have declared : shelf.volumes.get? "data" = some { name := "shelf" } := by decide
  have data := agree _ List.mem_cons_self _ List.mem_cons_self rfl _ declared
  exact ⟨⟨t,converted⟩,_,_,List.mem_cons_self,List.mem_cons_self,data⟩

/-- Two services with one name, of which the second mounts a volume. -/
def twinMountsText : String := "services:
  web:
    image: a
  !x web:
    image: a
    volumes: ['data:/data']
volumes:
  data:
"

def twinMounts : Document :=
  { services := [
      { name := "web", image := "a" },
      { name := "web", image := "a",
        mounts := [{ source := "data", target := "/data", kind := .volume }] }]
    volumes := Dict.ofList [("data",{ name := "data" })] }

/-- No container of the Pod mounts the volume. -/
theorem volume_not_claimed_twinMounts :
    Document.read twinMountsText = .ok (twinMounts,[]) ∧
      (∃ t, convertTo {} .kube twinMountsText = .ok t ∧ t.output =
        some (Kube.pod (Rule.rewrite ⟨.kube,{}⟩ twinMounts) {}).toValue.write) ∧
      (∃ s ∈ twinMounts.services, ∃ m ∈ s.mounts, m.kind = .volume ∧
        ∃ v, twinMounts.volumes.get? m.source = some v ∧
          ¬Kube.Claims (Rule.rewrite ⟨.kube,{}⟩ twinMounts) {}
            (Rule.rewriteService ⟨.kube,{}⟩ s) m v.name) ∧
      (Kube.pod (Rule.rewrite ⟨.kube,{}⟩ twinMounts) {}).volumes = [] := by
  have read : Document.read twinMountsText = .ok (twinMounts,[]) := by decide +kernel
  have joined : twinMounts.services.findSome? (Rule.dangling? twinMounts) = none := by rfl
  obtain ⟨t,converted,tells⟩ := convertTo_of_read (o := {}) (f := .kube) read joined
  have declared : twinMounts.volumes.get? "data" = some { name := "data" } := by decide
  have ordered : Kube.orderedServices (Rule.rewrite ⟨.kube,{}⟩ twinMounts) =
      [Rule.rewriteService ⟨.kube,{}⟩ { name := "web", image := "a" }] := by decide
  refine ⟨read,⟨t,converted,tells.output⟩,?_,by decide⟩
  refine ⟨_,List.mem_cons_of_mem _ List.mem_cons_self,_,List.mem_cons_self,rfl,_,declared,?_⟩
  rintro ⟨⟨p,c,pair,_⟩,_⟩
  rw [ordered] at pair
  have same := List.mem_singleton.mp (List.of_mem_zip pair).1
  exact absurd same (by decide)

end ComposeToPodman
