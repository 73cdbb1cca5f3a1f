import ComposeToPodman.Proofs.Compose.Guarantees
import ComposeToPodman.Proofs.Conversion
import ComposeToPodman.Proofs.Target.Label

/-! Files of a conversion: their names fit the pattern of names, so that none leads out of the
directory they are written to, and no file takes the place of another. -/
namespace ComposeToPodman.Compose

instance (c : Char) : Decidable (LetterOrDigit c) :=
  inferInstanceAs (Decidable ('a' ≤ c ∧ c ≤ 'z' ∨ 'A' ≤ c ∧ c ≤ 'Z' ∨ '0' ≤ c ∧ c ≤ '9'))

/-- A name stays one with more characters of names behind it. -/
theorem MatchesName.append {name suffix : String} (named : MatchesName name)
    (fits : suffix.toList.all fun c => LetterOrDigit c ∨ c = '_' ∨ c = '.' ∨ c = '-') :
    MatchesName (name ++ suffix) := by
  simp only [List.all_eq_true,decide_eq_true_eq] at fits
  obtain ⟨first,rest,whole,head,tail⟩ := named
  refine ⟨first,rest ++ suffix.toList,by simp [whole],head,fun c member => ?_⟩
  rcases List.mem_append.mp member with inside | behind
  · exact tail c inside
  · exact fits c behind

end ComposeToPodman.Compose

namespace ComposeToPodman.Target

open Compose

theorem Label.LowerOrDigit.letterOrDigit {c : Char} (lower : LowerOrDigit c) : LetterOrDigit c :=
  lower.imp_right .inr

/-- A label is a name as well. -/
theorem Label.matchesName_ofText (s : String) : MatchesName (ofText s) := by
  obtain ⟨first,rest,whole,head,tail⟩ := ofText_shape s
  refine ⟨first,rest,whole,head.letterOrDigit,fun c member => ?_⟩
  rcases tail c member with rfl | lower
  · exact .inr (.inr (.inr rfl))
  · exact .inl lower.letterOrDigit

/-- The names of resources that the project owns. -/
def owned (external : α → Bool) (d : Dict α) : List String :=
  (d.entries.filter (!external ·.2)).map (·.1)

theorem mem_keys_of_mem_owned {external : α → Bool} {d : Dict α} {key : String}
    (member : key ∈ owned external d) : key ∈ d.keys := by
  obtain ⟨e,kept,rfl⟩ := List.mem_map.mp member
  exact List.mem_map_of_mem (List.mem_filter.mp kept).1

theorem nodup_owned (external : α → Bool) (d : Dict α) : (owned external d).Nodup := by
  refine List.pairwise_map.mpr (List.Pairwise.imp ?_ (d.sorted.filter _))
  rintro e later below same
  exact String.lt_irrefl _ (same ▸ below)

/-- The names of the unit files of a document. -/
def unitNames (d : Document) : List String :=
  (owned Network.external d.networks).map (· ++ ".network") ++
    (owned Volume.external d.volumes).map (· ++ ".volume") ++
    (d.services.map (·.name)).map (· ++ ".container")

theorem fileNames_units (d : Document) (project : String) :
    (Quadlet.units d project).map (·.fileName) = unitNames d := by
  simp [Quadlet.units,unitNames,owned,Function.comp_def,Quadlet.networkUnit,Quadlet.volumeUnit,
    Quadlet.containerUnit]

theorem fileNames_quadlet (d : Document) (o : Options) :
    (Quadlet.output d o).files.map (·.name) = unitNames d := by
  rw [← fileNames_units d (o.project d)]
  simp [Quadlet.output,Quadlet.NamedUnit.toOutput,Function.comp_def]

/-- Texts with different endings differ. -/
theorem append_ne_append {x y : String} (left : x.toList ≠ []) (right : y.toList ≠ [])
    (ends : x.toList.getLast? ≠ y.toList.getLast?) (a b : String) : a ++ x ≠ b ++ y := by
  intro same
  have last := congrArg (·.toList.getLast?) same
  simp only [String.toList_append,List.getLast?_append_of_ne_nil _ left,
    List.getLast?_append_of_ne_nil _ right] at last
  exact ends last

theorem nodup_map_append {names : List String} (suffix : String) (distinct : names.Nodup) :
    (names.map (· ++ suffix)).Nodup :=
  List.pairwise_map.mpr (distinct.imp fun apart same => apart ((String.append_left_inj _).mp same))

/-- The endings tell the kinds of units apart, whatever endings the names have themselves. -/
theorem nodup_unitNames {d : Document} (distinct : (d.services.map (·.name)).Nodup) :
    (unitNames d).Nodup := by
  have networks := nodup_map_append ".network" (nodup_owned Network.external d.networks)
  have volumes := nodup_map_append ".volume" (nodup_owned Volume.external d.volumes)
  have containers := nodup_map_append ".container" distinct
  refine List.nodup_append.mpr ⟨List.nodup_append.mpr ⟨networks,volumes,?_⟩,containers,?_⟩
  · intro a network b volume
    obtain ⟨key,_,rfl⟩ := List.mem_map.mp network
    obtain ⟨other,_,rfl⟩ := List.mem_map.mp volume
    exact append_ne_append (by decide) (by decide) (by decide) key other
  · intro a resource b container
    obtain ⟨name,_,rfl⟩ := List.mem_map.mp container
    rcases List.mem_append.mp resource with network | volume
    · obtain ⟨key,_,rfl⟩ := List.mem_map.mp network
      exact append_ne_append (by decide) (by decide) (by decide) key name
    · obtain ⟨key,_,rfl⟩ := List.mem_map.mp volume
      exact append_ne_append (by decide) (by decide) (by decide) key name

theorem matchesName_unitNames {d : Document} (wellFormed : d.WellFormed) :
    ∀ name ∈ unitNames d, MatchesName name := by
  intro name member
  rcases List.mem_append.mp member with resource | container
  · rcases List.mem_append.mp resource with network | volume
    · obtain ⟨key,owned,rfl⟩ := List.mem_map.mp network
      have named := wellFormed.networks key (mem_keys_of_mem_owned owned)
      exact ((isName_iff key).mp named).append (by decide)
    · obtain ⟨key,owned,rfl⟩ := List.mem_map.mp volume
      have named := wellFormed.volumes key (mem_keys_of_mem_owned owned)
      exact ((isName_iff key).mp named).append (by decide)
  · obtain ⟨_,listed,rfl⟩ := List.mem_map.mp container
    obtain ⟨s,service,rfl⟩ := List.mem_map.mp listed
    have named := (wellFormed.services s service).name
    exact ((isName_iff s.name).mp named).append (by decide)

theorem fileNames_kube (d : Document) (o : Options) :
    (Kube.output d o).files.map (·.name) = [Label.ofText (o.project d) ++ ".yaml"] := by
  simp [Kube.output,Kube.pod,Output.single]

theorem fileNames_composeFile (d : Document) :
    (ComposeFile.output d).files.map (·.name) = ["compose.yaml"] := rfl

theorem matchesName_output {d : Document} (wellFormed : d.WellFormed) (f : Format) (o : Options) :
    ∀ name ∈ (f.output d o).files.map (·.name), MatchesName name := by
  intro name member
  cases f with
  | podmanCompose =>
    rw [Format.output,fileNames_composeFile,List.mem_singleton] at member
    exact member ▸ by decide
  | quadlet =>
    rw [Format.output,fileNames_quadlet] at member
    exact matchesName_unitNames wellFormed name member
  | kube =>
    rw [Format.output,fileNames_kube,List.mem_singleton] at member
    exact member ▸ (Label.matchesName_ofText _).append (by decide)

theorem nodup_output {d : Document} (distinct : (d.services.map (·.name)).Nodup) (f : Format)
    (o : Options) : ((f.output d o).files.map (·.name)).Nodup := by
  cases f with
  | podmanCompose =>
    rw [Format.output,fileNames_composeFile]
    exact List.pairwise_singleton _ _
  | quadlet =>
    rw [Format.output,fileNames_quadlet]
    exact nodup_unitNames distinct
  | kube =>
    rw [Format.output,fileNames_kube]
    exact List.pairwise_singleton _ _

theorem unitNames_rewrite (c : Rule.Context) (d : Document) :
    unitNames (Rule.rewrite c d) = unitNames d := by
  rw [unitNames,Rule.names_rewrite]
  rfl

end ComposeToPodman.Target

namespace ComposeToPodman

open Compose Target

theorem files_of_convertTo {o : Options} {f : Format} {input : String} {d : Document}
    {notices : List Notice} {t : Conversion} (read : Document.read input = .ok (d,notices))
    (converted : convertTo o f input = .ok t) :
    t.files = (f.output (Rule.rewrite ⟨f,o⟩ d) o).files :=
  (tells_of_convertTo read converted).files

theorem read_of_convertTo {o : Options} {f : Format} {input : String} {t : Conversion}
    (converted : convertTo o f input = .ok t) :
    ∃ d notices, Document.read input = .ok (d,notices) := by
  cases read : Document.read input with
  | ok given => exact ⟨given.1,given.2,rfl⟩
  | error failure =>
    rw [convertTo,read] at converted
    cases converted

/-- Whatever is converted, and whatever the project is called, every file has a name that fits the
pattern, files have different names if services have, and unit files are those of the networks and
volumes that the project owns and of the services. -/
theorem convertTo_fileNames {o : Options} {f : Format} {input : String} {t : Conversion}
    (converted : convertTo o f input = .ok t) :
    (∀ file ∈ t.files, MatchesName file.name) ∧
      ∃ d notices, Document.read input = .ok (d,notices) ∧
        ((d.services.map (·.name)).Nodup → (t.files.map (·.name)).Nodup) ∧
        (f = .quadlet → t.files.map (·.name) = unitNames d) := by
  obtain ⟨d,notices,read⟩ := read_of_convertTo converted
  have files := files_of_convertTo read converted
  have wellFormed : (Rule.rewrite ⟨f,o⟩ d).WellFormed :=
    Rule.wellFormed_rewrite (wellFormed_of_read read)
  refine ⟨?_,d,notices,read,fun distinct => ?_,?_⟩
  · intro file member
    exact matchesName_output wellFormed f o file.name (List.mem_map_of_mem (files ▸ member))
  · rw [files]
    exact nodup_output (by simpa using distinct) f o
  · rintro rfl
    rw [files]
    exact (fileNames_quadlet _ o).trans (unitNames_rewrite _ d)

/-- Names that end like files of another kind. -/
def plantText : String := "services:
  a.network:
    image: a
networks:
  a:
  c:
    external: true
volumes:
  a.network:
"

def plant : Document :=
  { services := [{ name := "a.network", image := "a" }]
    networks := Dict.ofList [("a",{ name := "a" }),("c",{ name := "c", external := true })]
    volumes := Dict.ofList [("a.network",{ name := "a.network" })] }

/-- A project that is called like the way to another directory. -/
def astray : Options := { projectName := some "../.." }

theorem convertTo_fileNames_plant :
    ∃ t, convertTo astray .quadlet plantText = .ok t ∧ (∀ file ∈ t.files, MatchesName file.name) ∧
      (t.files.map (·.name)).Nodup ∧ t.files.map (·.name) =
        ["a.network","a.network.volume","a.network.container"] := by
  have read : Document.read plantText = .ok (plant,[]) := by decide +kernel
  have joined : plant.services.findSome? (Rule.dangling? plant) = none := by rfl
  obtain ⟨t,converted,_⟩ := convertTo_of_read (o := astray) (f := .quadlet) read joined
  obtain ⟨named,d,notices,again,distinct,units⟩ := convertTo_fileNames converted
  obtain ⟨rfl,rfl⟩ := Prod.mk.inj (Except.ok.inj (read.symm.trans again))
  have names : unitNames plant =
      ["a.network","a.network.volume","a.network.container"] := by decide
  exact ⟨t,converted,named,distinct (by decide),(units rfl).trans names⟩

end ComposeToPodman
