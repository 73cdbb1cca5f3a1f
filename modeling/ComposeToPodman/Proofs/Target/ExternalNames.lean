import ComposeToPodman.Proofs.Compose.Sections
import ComposeToPodman.Proofs.Target.NetworkEntries
import ComposeToPodman.Proofs.Target.UndeclaredVolumes
import ComposeToPodman.Proofs.Target.VolumeNames

/-! The names of external resources. Whatever refers to one does so by the name of its declaration, or
by its key if there is none; a name inside of its external block is read and left unused. -/
namespace ComposeToPodman

open Compose Target
open Yaml (Value)

namespace Compose

/-- The name that an external block holds. -/
def Form.External.name? : Form.External → Option String
  | .flag _ => none
  | .named name => some name

/-- The name that a resource has outside of the project: that of its declaration, or else that of its
external block, or else its key. -/
def realName (key : String) (name : Option String) (external : Option Form.External) : String :=
  name.getD ((external.bind Form.External.name?).getD key)

/-- A name in the external block counts only if the declaration has none. -/
def BlockNameUnneeded (key : String) (name : Option String) (external : Option Form.External) :
    Prop :=
  name ≠ none ∨ ∀ other, external = some (.named other) → other = key

theorem getD_eq_realName_iff {key : String} {name : Option String}
    {external : Option Form.External} :
    name.getD key = realName key name external ↔ BlockNameUnneeded key name external := by
  cases name with
  | some name => simp [realName,BlockNameUnneeded]
  | none =>
    cases external with
    | none => simp [realName,BlockNameUnneeded]
    | some block => cases block <;> simp [realName,BlockNameUnneeded,Form.External.name?,eq_comm]

/-- If a resource is called by one name, it is called by its real one only if no other is needed. -/
theorem realName_iff {Called : String → Prop} {key : String} {name : Option String}
    {external : Option Form.External} (called : Called (name.getD key))
    (unique : ∀ other, Called other → name.getD key = other) :
    Called (realName key name external) ↔ BlockNameUnneeded key name external := by
  rw [← getD_eq_realName_iff]
  exact ⟨unique _,fun same => same ▸ called⟩

end Compose

namespace Target.Quadlet

variable {d : Document} {project : String} {s : Service}

theorem values_mount (d : Document) (project : String) (s : Service) :
    (containerUnit d project s).values "Volume" =
      s.mounts.map fun m => UnitFile.quote (mountValue d m) := by
  rw [NamedUnit.values,containerUnit,flatMap_ofSections]
  simp [describe,UnitSection.setAll,containerEntries,List.filter_flatMap,List.filter_map,
    Function.comp_def,filter_flagged]

/-- A unit joins some networks, one entry each, and the one of this key by this name. -/
def JoinsBy (u : NamedUnit) (networks : List String) (key name : String) : Prop :=
  List.Forall₂ (fun listed value => listed = key → value = name)
    (networks.filter (· ≠ defaultNetwork)) (u.values "Network")

/-- A unit has some mounts, one entry each, and those of the volume of this key by this name. -/
def MountsBy (u : NamedUnit) (mounts : List Mount) (key name : String) : Prop :=
  List.Forall₂ (fun m value => m.kind = .volume → m.source = key →
    value = UnitFile.quote (name ++ ":" ++ m.target ++ m.optionSuffix)) mounts (u.values "Volume")

theorem joinsBy_external (mode : s.networkMode = none) {key : String} {n : Network}
    (declared : d.networks.get? key = some n) (external : n.external = true) :
    JoinsBy (containerUnit d project s) s.networks key n.name := by
  rw [JoinsBy,values_network,networkValues_of_bridge (.inl mode),List.forall₂_map_right_iff]
  refine List.forall₂_same.mpr fun listed _ same => ?_
  rw [same,networkReference,declared]
  exact if_pos external

end Target.Quadlet

namespace Target.Kube

open Target.ComposeFile (fieldUnder?)

variable {d : Document}

/-- What a volume of a Pod claims, as it is written. -/
def claimName? (v : Value) : Option Value :=
  (fieldUnder? "persistentVolumeClaim" v).bind (fieldUnder? "claimName")

theorem claimName?_of_claim {v : PodVolume} {name : String} (content : v.content = .claim name) :
    claimName? v.toValue = some (.string name) := by
  simp [claimName?,PodVolume.toValue,VolumeContent.toField,content]

/-- A mount that a container has of the volume of this key names a volume of the Pod that claims this
name. -/
def ClaimsBy (d : Document) (o : Options) (s : Service) (key name : String) : Prop :=
  ∀ m p, Becomes d o s m p → m.kind = .volume → m.source = key →
    (∃ v ∈ volumesOf (pod d o).toValue, fieldUnder? "name" v = some (.string p.volume)) ∧
    ∀ v ∈ volumesOf (pod d o).toValue, fieldUnder? "name" v = some (.string p.volume) →
      claimName? v = some (.string name)

theorem claimsBy_declared {key : String} {volume : Volume}
    (declared : d.volumes.get? key = some volume) (o : Options) (s : Service) :
    ClaimsBy d o s key volume.name := by
  have name (v : PodVolume) : fieldUnder? "name" v.toValue = some (.string v.name) := by
    simp [PodVolume.toValue]
  rintro m p ⟨c,pair,inner⟩ kind rfl
  have sound := sound_draft d
  obtain ⟨v,member,sameKind,source,rfl⟩ :=
    List.forall₂_zip (List.forall₂_zip sound.placed pair) inner
  have content := (sound.catalogue.backs v member m sameKind source).declared kind volume declared
  rw [volumesOf_toValue]
  refine ⟨⟨_,List.mem_map_of_mem member,name v⟩,fun written among named => ?_⟩
  obtain ⟨w,inside,rfl⟩ := List.mem_map.mp among
  rw [name w] at named
  obtain rfl := sound.catalogue.eq_of_name inside member (Value.string.inj (Option.some.inj named))
  exact claimName?_of_claim content

end Target.Kube

variable {d : Document} {o : Options} {key : String}

/-- The unit that is written for a service. -/
def unitOf (d : Document) (o : Options) (s : Service) : Quadlet.NamedUnit :=
  let quadlet := Rule.rewrite ⟨.quadlet,o⟩ d
  Quadlet.containerUnit quadlet (o.project quadlet) (Rule.rewriteService ⟨.quadlet,o⟩ s)

/-- A network is external, and this is its name in the document and wherever a unit refers to it. -/
structure NetworkCalled (d : Document) (o : Options) (key name : String) : Prop where
  entry : ∃ n, d.networks.get? key = some n ∧ n.external = true ∧ n.name = name
  units : ∀ s ∈ d.services, s.networks ≠ [] → Quadlet.JoinsBy (unitOf d o s) s.networks key name

/-- A volume is external, and this is its name in the document and wherever a unit or the Pod refers
to it. -/
structure VolumeCalled (d : Document) (o : Options) (key name : String) : Prop where
  entry : ∃ v, d.volumes.get? key = some v ∧ v.external = true ∧ v.name = name
  units : ∀ s ∈ d.services, Quadlet.MountsBy (unitOf d o s) s.mounts key name
  claims : ∀ s ∈ d.services, Kube.ClaimsBy (Rule.rewrite ⟨.kube,o⟩ d) o
    (Rule.rewriteService ⟨.kube,o⟩ s) key name

theorem NetworkCalled.unique {name other : String} (called : NetworkCalled d o key name)
    (alike : NetworkCalled d o key other) : name = other := by
  obtain ⟨n,declared,_,rfl⟩ := called.entry
  obtain ⟨m,again,_,rfl⟩ := alike.entry
  rw [Option.some.inj (declared.symm.trans again)]

theorem VolumeCalled.unique {name other : String} (called : VolumeCalled d o key name)
    (alike : VolumeCalled d o key other) : name = other := by
  obtain ⟨v,declared,_,rfl⟩ := called.entry
  obtain ⟨w,again,_,rfl⟩ := alike.entry
  rw [Option.some.inj (declared.symm.trans again)]

theorem networkCalled_of_external (wellFormed : d.WellFormed) (o : Options) {n : Network}
    (declared : d.networks.get? key = some n) (external : n.external = true) :
    NetworkCalled d o key n.name := by
  refine ⟨⟨n,declared,external,rfl⟩,fun s service joins => ?_⟩
  have mode : s.networkMode = none := by
    cases given : s.networkMode with
    | none => rfl
    | some mode =>
      exact absurd ((wellFormed.services s service).exclusive (by rw [given]; rfl)) joins
  exact Quadlet.joinsBy_external (s := Rule.rewriteService ⟨.quadlet,o⟩ s) mode declared external

theorem volumeCalled_of_external (wellFormed : d.WellFormed) (o : Options) {v : Volume}
    (declared : d.volumes.get? key = some v) (external : v.external = true) :
    VolumeCalled d o key v.name := by
  refine ⟨⟨v,declared,external,rfl⟩,fun s _ => ?_,fun s _ => ?_⟩
  · rw [Quadlet.MountsBy,unitOf,Quadlet.values_mount]
    simp only [Rule.rewriteService,List.map_map,List.forall₂_map_right_iff]
    refine List.forall₂_same.mpr fun m _ kind source => ?_
    subst source
    have mountSource : Quadlet.mountSource (Rule.rewrite ⟨.quadlet,o⟩ d) m = v.name := by
      rw [Quadlet.mountSource,kind,Rule.rewrite,declared]
      exact if_pos external
    rw [Function.comp_apply,rewriteMount_of_declared wellFormed o kind declared,Quadlet.mountValue,
      mountSource]
  · exact Kube.claimsBy_declared (d := Rule.rewrite ⟨.kube,o⟩ d) declared o _

/-- In a document that is read, and in what it is converted to, an external resource is called by the
name of its declaration, or else by its key. This is its real name unless there is another one in its
external block. -/
theorem external_names_of_read {input : String} {notices : List Notice}
    (read : Document.read input = .ok (d,notices)) (o : Options) :
    ∃ entries, Value.read input = .ok (.mapping entries) ∧
      (∀ key form, DeclaredUnder "networks" (Form.Network.ofValue .alone) entries key (some form) →
        form.external.any Form.External.isExternal = true →
        NetworkCalled d o key (form.name.getD key) ∧
        (NetworkCalled d o key (realName key form.name form.external) ↔
          BlockNameUnneeded key form.name form.external)) ∧
      (∀ key form, DeclaredUnder "volumes" (Form.Volume.ofValue .alone) entries key (some form) →
        form.external.any Form.External.isExternal = true →
        VolumeCalled d o key (form.name.getD key) ∧
        (VolumeCalled d o key (realName key form.name form.external) ↔
          BlockNameUnneeded key form.name form.external)) ∧
      (∀ t, convertTo o .quadlet input = .ok t →
        ∀ s ∈ d.services, (unitOf d o s).toOutput ∈ t.files) ∧
      ∀ t, convertTo o .kube input = .ok t →
        t.output = some (Kube.pod (Rule.rewrite ⟨.kube,o⟩ d) o).toValue.write := by
  have wellFormed := wellFormed_of_read read
  obtain ⟨entries,_,given,_,_,networks,volumes,clean⟩ := sections_of_read read
  have marked {external : Option Form.External}
      (given : external.any Form.External.isExternal = true) :
      (external.map Form.External.isExternal).getD false = true := by
    cases external <;> simp_all
  refine ⟨entries,given,fun key form declared external => ?_,fun key form declared external => ?_,
    fun t converted s service => ?_,fun t converted => (tells_of_convertTo read converted).output⟩
  · have found := networks_draftOf clean declared
    rw [← networks] at found
    have called : NetworkCalled d o key (form.name.getD key) :=
      networkCalled_of_external wellFormed o found (marked external)
    exact ⟨called,realName_iff called fun _ => called.unique⟩
  · have found := volumes_draftOf clean declared
    rw [← volumes] at found
    have called : VolumeCalled d o key (form.name.getD key) :=
      volumeCalled_of_external wellFormed o found (marked external)
    exact ⟨called,realName_iff called fun _ => called.unique⟩
  · rw [files_of_convertTo read converted]
    exact List.mem_map_of_mem (Quadlet.containerUnit_mem (List.mem_map_of_mem service))

/-- External resources, two of them with a name in their external block. -/
def officeText : String := "services:
  db:
    image: db
    networks: [corp, lan]
    volumes: ['legacy:/data']
networks:
  corp:
    external:
      name: office
  lan:
    name: campus
    external: true
volumes:
  legacy:
    external:
      name: legacy-data
"

def officeNetworks : Value := .mapping [
  (.string "corp",.mapping [(.string "external",.mapping [(.string "name",.string "office")])]),
  (.string "lan",.mapping [(.string "name",.string "campus"),(.string "external",.bool true)])]

def officeVolumes : Value := .mapping [
  (.string "legacy",
    .mapping [(.string "external",.mapping [(.string "name",.string "legacy-data")])])]

def officeServices : Value := .mapping [
  (.string "db",.mapping [
    (.string "image",.string "db"),
    (.string "networks",.sequence [.string "corp",.string "lan"]),
    (.string "volumes",.sequence [.string "legacy:/data"])])]

def officeEntries : List (Value × Value) := [
  (.string "services",officeServices),(.string "networks",officeNetworks),
  (.string "volumes",officeVolumes)]

def office : Document :=
  { services := [
      { name := "db", image := "db", networks := ["corp","lan"]
        mounts := [{ source := "legacy", target := "/data", kind := .volume }] }]
    networks := Dict.ofList [
      ("corp",{ name := "corp", external := true }),("lan",{ name := "campus", external := true })]
    volumes := Dict.ofList [("legacy",{ name := "legacy", external := true })] }

def corpForm : Form.Network := { external := some (.named "office") }

def lanForm : Form.Network := { name := some "campus", external := some (.flag true) }

def legacyForm : Form.Volume := { external := some (.named "legacy-data") }

theorem value_read_office : Value.read officeText = .ok (.mapping officeEntries) := by
  decide +kernel

theorem read_office : Document.read officeText = .ok (office,[]) :=
  read_eq_ok.mpr ⟨_,value_read_office,by decide +kernel⟩

theorem declared_corp :
    DeclaredUnder "networks" (Form.Network.ofValue .alone) officeEntries "corp" (some corpForm) :=
  ⟨officeNetworks,Dict.ofList [("corp",some corpForm),("lan",some lanForm)],rfl,by decide,by decide⟩

theorem declared_legacy :
    DeclaredUnder "volumes" (Form.Volume.ofValue .alone) officeEntries "legacy" (some legacyForm) :=
  ⟨officeVolumes,Dict.ofList [("legacy",some legacyForm)],rfl,by decide,by decide⟩

theorem external_names_of_read_office :
    Document.read officeText = .ok (office,[]) ∧
      NetworkCalled office {} "lan" "campus" ∧ NetworkCalled office {} "corp" "corp" ∧
      VolumeCalled office {} "legacy" "legacy" := by
  obtain ⟨entries,given,networks,volumes,_⟩ := external_names_of_read read_office {}
  obtain rfl := Value.mapping.inj (Except.ok.inj (value_read_office.symm.trans given))
  have declared_lan : DeclaredUnder "networks" (Form.Network.ofValue .alone) officeEntries "lan"
      (some lanForm) :=
    ⟨officeNetworks,Dict.ofList [("corp",some corpForm),("lan",some lanForm)],rfl,by decide,by decide⟩
  exact ⟨read_office,(networks "lan" lanForm declared_lan rfl).1,
    (networks "corp" corpForm declared_corp rfl).1,
    (volumes "legacy" legacyForm declared_legacy rfl).1⟩

/-- Units and the Pod refer to resources by other names than those in the external blocks. -/
theorem external_name_unused_office :
    Value.read officeText = .ok (.mapping officeEntries) ∧
    Document.read officeText = .ok (office,[]) ∧
    DeclaredUnder "networks" (Form.Network.ofValue .alone) officeEntries "corp" (some corpForm) ∧
    DeclaredUnder "volumes" (Form.Volume.ofValue .alone) officeEntries "legacy" (some legacyForm) ∧
    realName "corp" corpForm.name corpForm.external = "office" ∧
    realName "legacy" legacyForm.name legacyForm.external = "legacy-data" ∧
    office.networks.get? "corp" = some { name := "corp", external := true } ∧
    office.volumes.get? "legacy" = some { name := "legacy", external := true } ∧
    (∀ s ∈ office.services, (unitOf office {} s).values "Network" = ["corp","campus"] ∧
      (unitOf office {} s).values "Volume" = ["legacy:/data"]) ∧
    (Kube.volumesOf (Kube.pod (Rule.rewrite ⟨.kube,{}⟩ office) {}).toValue).map Kube.claimName? =
      [some (.string "legacy")] :=
  ⟨value_read_office,read_office,declared_corp,declared_legacy,by decide,by decide,by decide,
    by decide,by decide +kernel,by decide +kernel⟩

end ComposeToPodman
