import ComposeToPodman.Proofs.Target.UnitReferences
import ComposeToPodman.Proofs.Target.UnitText

/-! Which texts of a document the lines of its unit files depend on. Names do not count: they have no
line breaks. Neither does what is written as JSON. -/
namespace ComposeToPodman.Target

open Compose

@[simp] theorem oneLine_append (a b : String) : OneLine (a ++ b) ↔ OneLine a ∧ OneLine b := by
  simp [OneLine]

theorem oneLine_replaceChar {c : Char} {replacement : String} (other : c ≠ '\n')
    (single : OneLine replacement) (s : String) :
    OneLine (Text.replaceChar c replacement s) ↔ OneLine s := by
  unfold OneLine Text.replaceChar at *
  rw [String.toList_ofList,not_iff_not,List.mem_flatMap]
  constructor
  · rintro ⟨a,member,inside⟩
    split at inside
    next => exact absurd inside single
    next => exact List.mem_singleton.mp inside ▸ member
  · intro member
    exact ⟨'\n',member,by rw [if_neg (Ne.symm other)]; exact List.mem_singleton_self _⟩

theorem oneLine_intercalate {sep : String} (single : OneLine sep) (l : List String) :
    OneLine (sep.intercalate l) ↔ ∀ s ∈ l, OneLine s := by
  induction l with
  | nil => simp [OneLine]
  | cons s rest ih =>
    cases rest with
    | nil => simp
    | cons t more => simp [String.intercalate_cons_cons,ih,single]

namespace UnitFile

theorem oneLine_escapeSpecifiers (s : String) : OneLine (escapeSpecifiers s) ↔ OneLine s :=
  oneLine_replaceChar (by decide) (by decide) s

/-- Quoting neither makes nor unmakes a line break. -/
@[simp] theorem oneLine_quote (s : String) : OneLine (quote s) ↔ OneLine s := by
  have quotes : OneLine "\"" := by decide
  unfold quote
  dsimp only
  split
  · rw [oneLine_append,oneLine_append,oneLine_replaceChar (by decide) (by decide),
      oneLine_replaceChar (by decide) (by decide),oneLine_escapeSpecifiers]
    simp [quotes]
  · exact oneLine_escapeSpecifiers s

theorem oneLine_quoteWords (words : List String) :
    OneLine (quoteWords words) ↔ ∀ word ∈ words, OneLine word := by
  have dollars (word : String) : OneLine (Text.replaceChar '$' "$$" word) ↔ OneLine word :=
    oneLine_replaceChar (by decide) (by decide) word
  rw [quoteWords,oneLine_intercalate (by decide)]
  simp [dollars]

end UnitFile

theorem newline_not_mem_escape (c : Char) : '\n' ∉ Json.escape c := by
  have digits : ∀ n < 16, '\n' ≠ Json.hexDigit n := by decide
  unfold Json.escape
  split
  case h_8 quote backslash back feed line carriage tab =>
    split
    next control =>
      have small : c.toNat < 32 := by simpa [Char.lt_def,UInt32.lt_iff_toNat_lt] using control
      have high := digits (c.toNat / 16) (by omega)
      have low := digits (c.toNat % 16) (by omega)
      simp [high,low]
    next => simpa using Ne.symm line
  all_goals decide

/-- Line breaks are escaped in JSON. -/
theorem oneLine_array (items : List String) : OneLine (Json.array items) := by
  have quotes : OneLine "\"" := by decide
  have text (s : String) : OneLine (Json.text s) := by
    rw [Json.text,oneLine_append,oneLine_append]
    refine ⟨⟨quotes,?_⟩,quotes⟩
    simp [OneLine,newline_not_mem_escape]
  rw [Json.array,oneLine_append,oneLine_append,oneLine_intercalate (by decide)]
  exact ⟨⟨by decide,by simp [text]⟩,by decide⟩

theorem oneLine_of_isName {name : String} (named : isName name = true) : OneLine name :=
  not_mem_of_isName named (by decide)

theorem oneLine_binding (p : PortMapping) :
    OneLine p.binding ↔ ∀ ip, p.hostIp = some ip → OneLine ip := by
  have ports : '\n' ∉ p.pair := fun member =>
    absurd (PortMapping.isBindingChar_of_mem_pair member) (by decide)
  rw [OneLine,PortMapping.toList_binding]
  cases p.hostIp with
  | none => simpa using ports
  | some ip => by_cases colon : ':' ∈ ip.toList <;> simp [colon,ports,OneLine]

theorem oneLine_text (p : PortMapping) : OneLine p.text ↔ ∀ ip, p.hostIp = some ip → OneLine ip := by
  have protocol : OneLine p.protocol.text := by cases p.protocol <;> decide
  have slash : OneLine "/" := by decide
  rw [PortMapping.text,oneLine_append,oneLine_append,oneLine_binding]
  simp [protocol,slash]

theorem oneLine_optionSuffix (m : Mount) :
    OneLine m.optionSuffix ↔ ∀ o ∈ m.options.toList, OneLine o := by
  unfold Mount.optionSuffix
  split
  next empty =>
    rw [Dict.eq_empty_of_isEmpty empty]
    decide
  next =>
    have colon : OneLine ":" := by decide
    rw [oneLine_append,oneLine_intercalate (by decide)]
    exact and_iff_right colon

namespace Quadlet

variable {d : Document} {project : String}

/-- Every value of a unit is on one line. -/
def NamedUnit.Single (u : NamedUnit) : Prop :=
  ∀ part ∈ u.file.sections, ∀ e ∈ part.entries, OneLine e.2

theorem forall_ofSections {parts : List UnitSection} {P : String × String → Prop} :
    (∀ part ∈ (UnitFile.ofSections parts).sections, ∀ e ∈ part.entries, P e) ↔
      ∀ part ∈ parts, ∀ e ∈ part.entries, P e := by
  constructor
  · intro every part listed e inside
    have nonempty : part.entries ≠ [] := List.ne_nil_of_mem inside
    exact every part (List.mem_filter.mpr ⟨listed,by simpa using nonempty⟩) e inside
  · intro every part kept
    exact every part (List.mem_filter.mp kept).1

theorem oneLine_description (name : String) :
    OneLine (project ++ " " ++ name) ↔ OneLine project ∧ OneLine name := by
  have blank : OneLine " " := by decide
  simp [blank]

/-- What the unit of a network tells of it is on one line. -/
structure NetworkLines (n : Network) : Prop where
  name : OneLine n.name
  driver : OneLine n.driver
  subnet : ∀ subnet ∈ n.subnet, OneLine subnet
  gateway : ∀ gateway ∈ n.gateway, OneLine gateway

/-- What the unit of a service tells of it is on one line; several words of an entry point may have
line breaks. -/
structure ServiceLines (d : Document) (s : Service) : Prop where
  image : OneLine s.image
  entrypoint : ∀ words ∈ s.entrypoint, ∀ word, words = [word] → OneLine word
  command : ∀ words ∈ s.command, ∀ word ∈ words, OneLine word
  ports : ∀ p ∈ s.ports, ∀ ip, p.hostIp = some ip → OneLine ip
  mounts : ∀ m ∈ s.mounts, OneLine (mountSource d m) ∧ OneLine m.target ∧
    ∀ o ∈ m.options.toList, OneLine o
  environment : ∀ e ∈ s.environment.entries, OneLine e.1 ∧ OneLine e.2
  labels : ∀ e ∈ s.labels.entries, OneLine e.1 ∧ OneLine e.2
  networks : ∀ value ∈ networkValues d s, OneLine value

theorem single_networkUnit {name : String} {n : Network} :
    (networkUnit project name n).Single ↔ (OneLine project ∧ OneLine name) ∧ NetworkLines n := by
  have yes : OneLine "true" := by decide
  have internal : ∀ e ∈ (if n.internal then [("Internal","true")] else []), OneLine e.2 := by
    split <;> simp [yes]
  rw [NamedUnit.Single,networkUnit,forall_ofSections,describe]
  simp only [List.forall_mem_cons,List.forall_mem_append,List.forall_mem_map,Option.mem_toList,
    List.not_mem_nil,false_implies,implies_true,and_true,iff_true_intro internal,
    oneLine_description]
  refine and_congr_right fun _ => ⟨?_,?_⟩
  · rintro ⟨⟨⟨name,driver⟩,subnet⟩,gateway⟩
    exact ⟨name,driver,subnet,gateway⟩
  · rintro ⟨name,driver,subnet,gateway⟩
    exact ⟨⟨⟨name,driver⟩,subnet⟩,gateway⟩

theorem single_volumeUnit {name : String} {v : Volume} :
    (volumeUnit project name v).Single ↔
      (OneLine project ∧ OneLine name) ∧ OneLine v.name ∧ OneLine v.driver := by
  have driver : (∀ e ∈ (if v.driver = "local" then [] else [("Driver",v.driver)]), OneLine e.2) ↔
      OneLine v.driver := by
    split
    next same => simp [same,(by decide : OneLine "local")]
    next => simp
  rw [NamedUnit.Single,volumeUnit,forall_ofSections,describe]
  simp only [List.forall_mem_cons,List.forall_mem_append,List.not_mem_nil,false_implies,implies_true,
    and_true,driver,oneLine_description]

theorem oneLine_entrypointValue (words : List String) :
    OneLine (entrypointValue words) ↔ ∀ word, words = [word] → OneLine word := by
  unfold entrypointValue
  split
  next word => simp
  next several =>
    have escaped := (UnitFile.oneLine_escapeSpecifiers _).mpr (oneLine_array words)
    exact iff_of_true escaped fun word single => absurd single (several word)

theorem oneLine_mount (m : Mount) : OneLine (UnitFile.quote (mountValue d m)) ↔
    OneLine (mountSource d m) ∧ OneLine m.target ∧ ∀ o ∈ m.options.toList, OneLine o := by
  have colon : OneLine ":" := by decide
  simp [mountValue,oneLine_optionSuffix,colon,and_assoc]

theorem oneLine_pair (e : String × String) :
    OneLine (UnitFile.quote (e.1 ++ "=" ++ e.2)) ↔ OneLine e.1 ∧ OneLine e.2 := by
  have sign : OneLine "=" := by decide
  simp [sign]

theorem single_containerUnit {s : Service} :
    (containerUnit d project s).Single ↔
      ((OneLine project ∧ OneLine s.name) ∧ ∀ name ∈ s.dependsOn, OneLine name) ∧
        ServiceLines d s := by
  have privileged : ∀ e ∈ (if s.privileged then [("PodmanArgs","--privileged")] else []),
      OneLine e.2 := by
    have plain : OneLine "--privileged" := by decide
    split <;> simp [plain]
  have restart (r : RestartPolicy) : OneLine (restartValue r) := by
    cases r <;> simp [restartValue] <;> decide
  have service (name : String) : OneLine (name ++ ".service") ↔ OneLine name := by
    have ending : OneLine ".service" := by decide
    simp [ending]
  have install : OneLine "default.target" := by decide
  rw [NamedUnit.Single,containerUnit,forall_ofSections,describe]
  simp only [UnitSection.setAll,containerEntries,List.forall_mem_cons,List.forall_mem_append,
    List.forall_mem_map,List.forall_mem_flatMap,Option.mem_toList,List.not_mem_nil,false_implies,
    implies_true,and_true,iff_true_intro privileged,restart,install,service,and_self,
    oneLine_description,oneLine_entrypointValue,UnitFile.oneLine_quoteWords,oneLine_text,oneLine_mount,
    oneLine_pair]
  constructor
  · rintro ⟨header,⟨⟨⟨⟨⟨⟨⟨_,image⟩,entrypoint⟩,command⟩,ports⟩,mounts⟩,environment⟩,labels⟩,networks⟩
    exact ⟨header,image,entrypoint,command,ports,mounts,environment,labels,networks⟩
  · rintro ⟨header,image,entrypoint,command,ports,mounts,environment,labels,networks⟩
    exact ⟨header,⟨⟨⟨⟨⟨⟨⟨header.1.2,image⟩,entrypoint⟩,command⟩,ports⟩,mounts⟩,environment⟩,labels⟩,
      networks⟩

theorem plain_describe (name : String) : UnitFile.Plain (describe project name) :=
  ⟨(by decide : OneLine "Unit"),by simp +decide [describe]⟩

theorem plain_ofSections {parts : List UnitSection} (plain : ∀ part ∈ parts, UnitFile.Plain part) :
    ∀ part ∈ (UnitFile.ofSections parts).sections, UnitFile.Plain part :=
  fun part kept => plain part (List.mem_filter.mp kept).1

theorem plain_networkUnit (name : String) (n : Network) :
    ∀ part ∈ (networkUnit project name n).file.sections, UnitFile.Plain part := by
  refine plain_ofSections ?_
  simp only [List.forall_mem_cons,List.not_mem_nil,false_implies,implies_true,and_true]
  refine ⟨plain_describe name,(by decide : OneLine "Network"),?_⟩
  have internal : ∀ e ∈ (if n.internal then [("Internal","true")] else []),
      UnitFile.PlainKey e.1 := by
    split <;> simp +decide
  simp +decide only [List.forall_mem_cons,List.forall_mem_append,List.forall_mem_map,implies_true,
    and_true,iff_true_intro internal]

theorem plain_volumeUnit (name : String) (v : Volume) :
    ∀ part ∈ (volumeUnit project name v).file.sections, UnitFile.Plain part := by
  refine plain_ofSections ?_
  simp only [List.forall_mem_cons,List.not_mem_nil,false_implies,implies_true,and_true]
  refine ⟨plain_describe name,(by decide : OneLine "Volume"),?_⟩
  split <;> simp +decide

theorem plain_containerUnit (s : Service) :
    ∀ part ∈ (containerUnit d project s).file.sections, UnitFile.Plain part := by
  have privileged : ∀ e ∈ (if s.privileged then [("PodmanArgs","--privileged")] else []),
      UnitFile.PlainKey e.1 := by
    split <;> simp +decide
  refine plain_ofSections ?_
  simp only [List.forall_mem_cons,List.not_mem_nil,false_implies,implies_true,and_true]
  refine ⟨⟨(by decide : OneLine "Unit"),?_⟩,⟨(by decide : OneLine "Container"),?_⟩,
    ⟨(by decide : OneLine "Service"),?_⟩,(by decide : OneLine "Install"),?_⟩
  · simp +decide only [describe,UnitSection.setAll,List.forall_mem_cons,List.forall_mem_append,
      List.forall_mem_flatMap,implies_true,and_true]
  · simp +decide only [containerEntries,List.forall_mem_cons,List.forall_mem_append,
      List.forall_mem_map,implies_true,and_true,iff_true_intro privileged]
  · simp +decide only [List.forall_mem_map,implies_true]
  · simp +decide

/-- The names of sections and the keys are fixed, and none looks like anything else. -/
theorem plain_sections {u : NamedUnit} (member : u ∈ units d project) :
    ∀ part ∈ u.file.sections, UnitFile.Plain part := by
  rcases mem_units_iff.mp member with ⟨name,n,_,_,rfl⟩ | ⟨name,v,_,_,rfl⟩ | ⟨s,_,rfl⟩
  · exact plain_networkUnit name n
  · exact plain_volumeUnit name v
  · exact plain_containerUnit s

/-- What the units of a document tell is on one line. -/
structure DocumentLines (d : Document) (project : String) : Prop where
  project : OneLine project
  networks : ∀ e ∈ d.networks.entries, e.2.external = false → NetworkLines e.2
  volumes : ∀ e ∈ d.volumes.entries, e.2.external = false → OneLine e.2.name ∧ OneLine e.2.driver
  services : ∀ s ∈ d.services, ServiceLines d s

/-- Names of services, networks and volumes are on one line as they are. -/
theorem single_units_iff (wellFormed : d.WellFormed) (project : String) :
    (∀ u ∈ units d project, u.Single) ↔ DocumentLines d project := by
  constructor
  · intro single
    obtain ⟨s,rest,services⟩ := List.exists_cons_of_ne_nil wellFormed.nonempty
    have first : s ∈ d.services := services ▸ List.mem_cons_self
    refine ⟨(single_containerUnit.mp (single _ (containerUnit_mem first))).1.1.1,?_,?_,?_⟩
    · intro e entry own
      have unit := single _ (networkUnit_mem (Dict.get?_eq_some_iff.mpr entry) own)
      exact (single_networkUnit.mp unit).2
    · intro e entry own
      have unit := single _ (volumeUnit_mem (Dict.get?_eq_some_iff.mpr entry) own)
      exact (single_volumeUnit.mp unit).2
    · intro s service
      exact (single_containerUnit.mp (single _ (containerUnit_mem service))).2
  · intro lines u member
    have named {name : String} (known : name ∈ d.services.map (·.name)) : OneLine name := by
      obtain ⟨s,service,rfl⟩ := List.mem_map.mp known
      exact oneLine_of_isName (wellFormed.services s service).name
    rcases mem_units_iff.mp member with
      ⟨name,n,entry,own,rfl⟩ | ⟨name,v,entry,own,rfl⟩ | ⟨s,service,rfl⟩
    · have key := oneLine_of_isName (wellFormed.networks name (List.mem_map_of_mem entry))
      exact single_networkUnit.mpr ⟨⟨lines.project,key⟩,lines.networks _ entry own⟩
    · have key := oneLine_of_isName (wellFormed.volumes name (List.mem_map_of_mem entry))
      exact single_volumeUnit.mpr ⟨⟨lines.project,key⟩,lines.volumes _ entry own⟩
    · have dependencies := (wellFormed.services s service).dependencies
      exact single_containerUnit.mpr ⟨⟨⟨lines.project,named (List.mem_map_of_mem service)⟩,
        fun name dependency => named (dependencies name dependency)⟩,lines.services s service⟩

/-- Reading a unit file line by line gives the sections and entries that were set exactly if each
value is on one line, and this is so for all files of a document that was read exactly if what they
tell of it is on one line. Quoting does not help; in JSON line breaks are escaped. -/
theorem unitFiles_readBack_iff {input : String} {notices : List Notice}
    (read : Document.read input = .ok (d,notices)) (project : String) :
    (∀ u ∈ units d project,
      (UnitFile.sections? u.toOutput.contents = some u.file.sections ↔ u.Single)) ∧
    ((∀ u ∈ units d project, UnitFile.sections? u.toOutput.contents = some u.file.sections) ↔
      DocumentLines d project) := by
  have file (u : NamedUnit) (member : u ∈ units d project) :
      UnitFile.sections? u.toOutput.contents = some u.file.sections ↔ u.Single :=
    UnitFile.sections?_render_iff (plain_sections member)
  refine ⟨file,?_⟩
  rw [← single_units_iff (wellFormed_of_read read)]
  exact forall₂_congr file

/-- Line breaks where there are several words. -/
def escapedText : String := "services:
  web:
    image: a
    entrypoint: [\"x\\ny\", z]
"

def escaped : Document :=
  { services := [{ name := "web", image := "a", entrypoint := some ["x\ny","z"] }] }

theorem unitFiles_readBack_escaped : Document.read escapedText = .ok (escaped,[]) ∧
    ∀ u ∈ units escaped "shop", UnitFile.sections? u.toOutput.contents = some u.file.sections := by
  have read : Document.read escapedText = .ok (escaped,[]) := by decide +kernel
  have lines : DocumentLines escaped "shop" := by
    refine ⟨by decide,fun _ => nofun,fun _ => nofun,List.forall_mem_singleton.mpr ?_⟩
    exact ⟨by decide,by simp,nofun,nofun,nofun,by decide,by decide,by decide⟩
  exact ⟨read,(unitFiles_readBack_iff read "shop").2.mpr lines⟩

/-- A value whose second line looks like an entry. -/
def smuggledText : String := "services:
  web:
    image: docker.io/library/nginx
    environment:
      MOTD: \"hi\\nPodmanArgs=--privileged\"
"

def smuggled : Document :=
  { services := [
      { name := "web", image := "docker.io/library/nginx"
        environment := Dict.ofList [("MOTD","hi\nPodmanArgs=--privileged")] }] }

/-- An entry is read that was not set. -/
theorem unitFiles_not_readBack_smuggled :
    ∃ t, convertTo {} .quadlet smuggledText = .ok t ∧ ∃ u ∈ units smuggled "compose",
      u.toOutput ∈ t.files ∧ (∀ value, ¬u.Sets "PodmanArgs" value) ∧
      ∃ sections, UnitFile.sections? u.toOutput.contents = some sections ∧
        sections ≠ u.file.sections ∧
        ∃ part ∈ sections, ("PodmanArgs","--privileged\"") ∈ part.entries := by
  have read : Document.read smuggledText = .ok (smuggled,[]) := by decide +kernel
  have joined : smuggled.services.findSome? (Rule.dangling? smuggled) = none := by rfl
  obtain ⟨t,converted,tells⟩ := convertTo_of_read (o := {}) (f := .quadlet) read joined
  have same : Rule.rewrite ⟨.quadlet,{}⟩ smuggled = smuggled := by decide
  have files : t.files = (units smuggled "compose").map NamedUnit.toOutput := by
    rw [tells.files,same]
    rfl
  let web : Service :=
    { name := "web", image := "docker.io/library/nginx"
      environment := Dict.ofList [("MOTD","hi\nPodmanArgs=--privileged")] }
  have unit : containerUnit smuggled "compose" web ∈ units smuggled "compose" :=
    containerUnit_mem List.mem_cons_self
  have unset (value : String) : ¬(containerUnit smuggled "compose" web).Sets "PodmanArgs" value := by
    rw [containerUnit,sets_ofSections]
    simp [describe,UnitSection.setAll,containerEntries,web]
  let told : UnitSection := ⟨"Container",[("ContainerName","web"),("Image","docker.io/library/nginx"),
    ("Environment","\"MOTD=hi"),("PodmanArgs","--privileged\"")]⟩
  have sections : UnitFile.sections? (containerUnit smuggled "compose" web).toOutput.contents = some
      [⟨"Unit",[("Description","compose web")]⟩,told,
        ⟨"Install",[("WantedBy","default.target")]⟩] := by
    decide +kernel
  refine ⟨t,converted,_,unit,?_,unset,_,sections,by decide,told,by decide,by decide⟩
  rw [files]
  exact List.mem_map_of_mem unit

end Quadlet

end ComposeToPodman.Target
