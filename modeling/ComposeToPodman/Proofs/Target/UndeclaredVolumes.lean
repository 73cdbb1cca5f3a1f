import ComposeToPodman.Proofs.Conversion
import ComposeToPodman.Proofs.Target.PodContainers

/-! Volumes that services mount without a declaration. They are what makes a conversion partial, and
only that of a Pod: it reports each of them once, where it is first used, and makes an empty directory
for it. -/
namespace ComposeToPodman.Target

open Compose
open ComposeFile (fieldUnder?)

namespace Kube

/-- What was found in a list of uses, each by a service and of a source: every source once, with the
service that uses it first, in the order of the first uses. -/
structure FirstUses (uses found : List (String × String)) : Prop where
  ordered : (found.map (·.2)).Pairwise fun x y => (uses.map (·.2)).idxOf x < (uses.map (·.2)).idxOf y
  covers : ∀ x, x ∈ found.map (·.2) ↔ x ∈ uses.map (·.2)
  first : ∀ e ∈ found, uses.find? (·.2 = e.2) = some e

section FirstUses

variable {uses found : List (String × String)} {u : String × String}

theorem FirstUses.nil : FirstUses [] [] := ⟨.nil,by simp,by simp⟩

theorem FirstUses.find?_append (first : FirstUses uses found) {e : String × String}
    (member : e ∈ found) : (uses ++ [u]).find? (·.2 = e.2) = some e := by
  rw [List.find?_append,first.first e member,Option.some_or]

/-- Further uses leave the order of the first ones alone. -/
theorem FirstUses.ordered_append (first : FirstUses uses found) :
    (found.map (·.2)).Pairwise fun x y =>
      ((uses ++ [u]).map (·.2)).idxOf x < ((uses ++ [u]).map (·.2)).idxOf y := by
  refine first.ordered.imp_of_mem fun {x y} left right earlier => ?_
  rw [List.map_append,List.idxOf_append_of_mem ((first.covers x).mp left),
    List.idxOf_append_of_mem ((first.covers y).mp right)]
  exact earlier

theorem FirstUses.seen (first : FirstUses uses found) (known : u.2 ∈ uses.map (·.2)) :
    FirstUses (uses ++ [u]) found := by
  refine ⟨first.ordered_append,fun x => ?_,fun e member => first.find?_append member⟩
  rw [first.covers,List.map_append,List.mem_append]
  constructor
  · exact .inl
  · rintro (before | last)
    · exact before
    · obtain rfl : x = u.2 := by simpa using last
      exact known

theorem FirstUses.fresh (first : FirstUses uses found) (new : u.2 ∉ uses.map (·.2)) :
    FirstUses (uses ++ [u]) (found ++ [u]) := by
  have snoc : (found ++ [u]).map (·.2) = found.map (·.2) ++ [u.2] := List.map_append
  refine ⟨?_,fun x => ?_,fun e member => ?_⟩
  · rw [snoc,List.pairwise_append]
    refine ⟨first.ordered_append,by simp,fun x before y last => ?_⟩
    obtain rfl : y = u.2 := by simpa using last
    have known := (first.covers x).mp before
    rw [List.map_append,List.idxOf_append_of_mem known,List.idxOf_append_of_notMem new]
    exact Nat.lt_of_lt_of_le (List.idxOf_lt_length_of_mem known) (Nat.le_add_right _ _)
  · rw [snoc,List.map_append,List.mem_append,List.mem_append,first.covers]
    rfl
  · rcases List.mem_append.mp member with before | last
    · exact first.find?_append before
    · obtain rfl := List.mem_singleton.mp last
      have missing : uses.find? (·.2 = e.2) = none := by
        refine List.find?_eq_none.mpr fun v before same => new ?_
        exact List.mem_map.mpr ⟨v,before,by simpa using same⟩
      rw [List.find?_append,missing,Option.none_or]
      simp

theorem FirstUses.eq_nil_iff (first : FirstUses uses found) : found = [] ↔ uses = [] := by
  have empty (l : List (String × String)) : l = [] ↔ ∀ x, x ∉ l.map (·.2) := by
    rw [← List.eq_nil_iff_forall_not_mem,List.map_eq_nil_iff]
  rw [empty found,empty uses]
  exact forall_congr' fun x => not_congr (first.covers x)

end FirstUses

variable {d : Document}

def Undeclared (d : Document) (m : Mount) : Prop :=
  m.kind = .volume ∧ d.volumes.get? m.source = none

instance (d : Document) : DecidablePred (Undeclared d) :=
  fun m => inferInstanceAs (Decidable (m.kind = .volume ∧ d.volumes.get? m.source = none))

/-- Sources of undeclared volumes, one for each mount. -/
def undeclared (d : Document) (mounts : List Mount) : List String :=
  (mounts.filter (Undeclared d)).map (·.source)

theorem Backs.emptyDir_iff {m : Mount} {v : PodVolume} (backs : Backs d m v) :
    v.content = .emptyDir ↔ Undeclared d m := by
  unfold Undeclared
  cases kind : m.kind with
  | bind => simp [backs.bind kind]
  | volume =>
    cases found : d.volumes.get? m.source with
    | none => simp [backs.undeclared kind found]
    | some volume => simp [backs.declared kind volume found]

theorem errors_volumeDiagnostics (d : Document) (m : Mount) :
    (volumeDiagnostics d m).errors = if Undeclared d m then [.undeclaredVolume m.source] else [] := by
  unfold volumeDiagnostics
  cases kind : m.kind with
  | bind => simp [Undeclared,kind]
  | volume => cases found : d.volumes.get? m.source <;> simp [Undeclared,kind,found]

/-- Sources of the volumes that are empty directories. -/
def emptyDirs (volumes : List PodVolume) : List String :=
  (volumes.filter (·.content = .emptyDir)).map (·.source)

theorem emptyDirs_snoc (volumes : List PodVolume) (m : Mount) :
    emptyDirs (volumes ++ [newVolume d volumes m]) =
      emptyDirs volumes ++ if Undeclared d m then [m.source] else [] := by
  have content : (newVolume d volumes m).content = .emptyDir ↔ Undeclared d m :=
    (backs_newVolume rfl rfl).emptyDir_iff
  have source : (newVolume d volumes m).source = m.source := rfl
  rw [emptyDirs,List.filter_append,List.map_append]
  by_cases lost : Undeclared d m <;> simp [emptyDirs,content,source,lost]

/-- The volumes made so far, after these uses of undeclared volumes, of which these were reported. -/
structure Recorded (d : Document) (volumes : List PodVolume) (uses found : List (String × String)) :
    Prop where
  catalogue : Catalogue d volumes
  first : FirstUses uses found
  emptyDirs : emptyDirs volumes = found.map (·.2)

theorem Recorded.mem_uses_iff {volumes : List PodVolume} {uses found : List (String × String)}
    (recorded : Recorded d volumes uses found) {x : String} :
    x ∈ uses.map (·.2) ↔ ∃ v ∈ volumes, v.content = .emptyDir ∧ v.source = x := by
  rw [← recorded.first.covers,← recorded.emptyDirs]
  simp [Kube.emptyDirs,and_assoc]

theorem Catalogue.kind_of_emptyDir {volumes : List PodVolume} (valid : Catalogue d volumes)
    {v : PodVolume} (member : v ∈ volumes) (emptyDir : v.content = .emptyDir) : v.kind = .volume :=
  let m : Mount := { source := v.source, target := "", kind := v.kind }
  ((valid.backs v member m rfl rfl).emptyDir_iff.mp emptyDir).1

/-- One mount: if it is of a volume that no mount before it was of, and that is not declared, the
volume is reported and has an empty directory from then on. -/
theorem Recorded.add {t : MountTable} {uses found : List (String × String)}
    (recorded : Recorded d t.volumes uses found) (name : String) (m : Mount) :
    ∃ new : List String,
      Recorded d (t.add d m).volumes (uses ++ (undeclared d [m]).map (name,·))
        (found ++ new.map (name,·)) ∧
      (t.add d m).diagnostics.errors = t.diagnostics.errors ++ new.map .undeclaredVolume := by
  cases known : volumeName? t.volumes m with
  | some other =>
    rw [MountTable.add_of_known known]
    refine ⟨[],?_,by simp⟩
    rw [List.map_nil,List.append_nil]
    refine { recorded with first := ?_ }
    by_cases lost : Undeclared d m
    · obtain ⟨v,member,kind,source,_⟩ := exists_of_volumeName? known
      have emptyDir := (recorded.catalogue.backs v member m kind source).emptyDir_iff.mpr lost
      have seen : m.source ∈ uses.map (·.2) := recorded.mem_uses_iff.mpr ⟨v,member,emptyDir,source⟩
      simpa [undeclared,lost] using recorded.first.seen (u := (name,m.source)) seen
    · simpa [undeclared,lost] using recorded.first
  | none =>
    rw [MountTable.add_of_missing known]
    have catalogue := recorded.catalogue.snoc_newVolume known
    have emptyDirs := emptyDirs_snoc (d := d) t.volumes m
    have errors := errors_volumeDiagnostics d m
    rw [recorded.emptyDirs] at emptyDirs
    by_cases lost : Undeclared d m
    · rw [if_pos lost] at emptyDirs errors
      have new : m.source ∉ uses.map (·.2) := by
        intro used
        obtain ⟨v,member,emptyDir,source⟩ := recorded.mem_uses_iff.mp used
        have kind := recorded.catalogue.kind_of_emptyDir member emptyDir
        exact absent_of_volumeName? known member ⟨kind.trans lost.1.symm,source⟩
      refine ⟨[m.source],⟨catalogue,?_,by simpa using emptyDirs⟩,by simp [errors]⟩
      simpa [undeclared,lost] using recorded.first.fresh (u := (name,m.source)) new
    · rw [if_neg lost] at emptyDirs errors
      refine ⟨[],⟨catalogue,?_,by simpa using emptyDirs⟩,by simp [errors]⟩
      simpa [undeclared,lost] using recorded.first

theorem Recorded.foldl (mounts : List Mount) {t : MountTable} {uses found : List (String × String)}
    (recorded : Recorded d t.volumes uses found) (name : String) :
    ∃ new : List String,
      Recorded d (mounts.foldl (MountTable.add d) t).volumes
        (uses ++ (undeclared d mounts).map (name,·)) (found ++ new.map (name,·)) ∧
      (mounts.foldl (MountTable.add d) t).diagnostics.errors =
        t.diagnostics.errors ++ new.map .undeclaredVolume := by
  -- A whole service, by induction on its mounts.
  induction mounts generalizing t uses found with
  | nil => exact ⟨[],by simpa [undeclared] using recorded,by simp⟩
  | cons m rest ih =>
    obtain ⟨new,next,errors⟩ := recorded.add name m
    obtain ⟨later,last,errors'⟩ := ih next
    have split : undeclared d (m :: rest) = undeclared d [m] ++ undeclared d rest := by
      rw [undeclared,undeclared,undeclared,← List.map_append,← List.filter_append]
      rfl
    refine ⟨new ++ later,?_,?_⟩
    · rw [split,List.map_append,List.map_append,← List.append_assoc,← List.append_assoc]
      exact last
    · rw [List.map_append,← List.append_assoc,← errors]
      exact errors'

/-- Uses of undeclared volumes by some services, each by a service and of a source. -/
def undeclaredUses (d : Document) (services : List Service) : List (String × String) :=
  services.flatMap fun s => (undeclared d s.mounts).map (s.name,·)

theorem undeclaredUses_eq_nil_iff {services : List Service} : undeclaredUses d services = [] ↔
    ∀ s ∈ services, ∀ m ∈ s.mounts, ¬Undeclared d m := by
  simp [undeclaredUses,undeclared]

/-- What is reported of a use. -/
def useNotice (e : String × String) : Notice := .inService e.1 (.undeclaredVolume e.2)

/-- What one more service adds to the uses that were reported. -/
theorem Recorded.add_service {services : List Service} {p : Draft} {found : List (String × String)}
    (recorded : Recorded d p.volumes (undeclaredUses d services) found)
    (errors : p.diagnostics.errors = found.map useNotice) (s : Service) :
    ∃ all, Recorded d (p.add d s).volumes (undeclaredUses d (services ++ [s])) all ∧
      (p.add d s).diagnostics.errors = all.map useNotice := by
  obtain ⟨new,next,added⟩ :=
    Recorded.foldl s.mounts (t := { volumes := p.volumes }) recorded s.name
  refine ⟨found ++ new.map (s.name,·),?_,?_⟩
  · rw [undeclaredUses,List.flatMap_append,List.flatMap_singleton]
    exact next
  · rw [errors_add,errors,Draft.nextMounts,added,List.map_append]
    simp [useNotice,Function.comp_def,Diagnostics.errors,Diagnostics.messages]

theorem recorded_draft (d : Document) : ∃ found,
    Recorded d (draft d).volumes (undeclaredUses d (orderedServices d)) found ∧
      (draft d).diagnostics.errors = found.map useNotice :=
  draft_induction (motive := fun services p => ∃ found,
      Recorded d p.volumes (undeclaredUses d services) found ∧
        p.diagnostics.errors = found.map useNotice)
    ⟨[],⟨.nil,.nil,rfl⟩,rfl⟩ fun _ s _ ⟨_,recorded,errors⟩ => recorded.add_service errors s

/-- The volumes of a Pod as it is written. -/
def volumesOf (v : Yaml.Value) : List Yaml.Value :=
  (fieldUnder? "spec" v).elim [] (itemsUnder "volumes")

theorem volumesOf_toValue (p : Pod) : volumesOf p.toValue = p.volumes.map PodVolume.toValue := by
  have written : volumesOf p.toValue = itemsUnder "volumes" (mapping [
      listField "volumes" (p.volumes.map PodVolume.toValue)]) := by
    simp [volumesOf,Pod.toValue,itemsUnder]
  rw [written]
  exact itemsUnder_of_eq (by simp)

/-- The names of the volumes of a Pod that are empty directories, as it is written. -/
def emptyDirNames (v : Yaml.Value) : List (Option Yaml.Value) :=
  ((volumesOf v).filter fun v => (fieldUnder? "emptyDir" v).isSome).map (fieldUnder? "name")

theorem emptyDirNames_toValue (p : Pod) : emptyDirNames p.toValue =
    ((p.volumes.filter (·.content = .emptyDir)).map (·.name)).map
      fun name => some (.string name) := by
  have written (v : PodVolume) :
      (fieldUnder? "emptyDir" v.toValue).isSome = decide (v.content = .emptyDir) := by
    cases content : v.content <;> simp [PodVolume.toValue,VolumeContent.toField,content]
  have names (v : PodVolume) : fieldUnder? "name" v.toValue = some (.string v.name) := by
    simp [PodVolume.toValue]
  rw [emptyDirNames,volumesOf_toValue,List.filter_map,List.map_map,List.map_map]
  simp only [Function.comp_def,written,names]

/-- The mounts that name the volume are those of volumes from this source. -/
def Serves (d : Document) (o : Options) (name source : String) : Prop :=
  ∀ e ∈ placements (orderedServices d) (pod d o).containers,
    e.2.volume = name ↔ e.1.kind = .volume ∧ e.1.source = source

theorem Recorded.serves {uses found : List (String × String)}
    (recorded : Recorded d (draft d).volumes uses found) (o : Options) :
    List.Forall₂ (Serves d o) (((draft d).volumes.filter (·.content = .emptyDir)).map (·.name))
      (found.map (·.2)) := by
  rw [← recorded.emptyDirs,Kube.emptyDirs,List.forall₂_map_left_iff,List.forall₂_map_right_iff,
    List.forall₂_same]
  intro v member e pair
  obtain ⟨member,content⟩ := List.mem_filter.mp member
  have kind := recorded.catalogue.kind_of_emptyDir member (of_decide_eq_true content)
  obtain ⟨w,among,sameKind,sameSource,placed⟩ := placed_of_mem_placements (sound_draft d).placed pair
  rw [placed,← sameKind,← sameSource]
  constructor
  · intro same
    obtain rfl := recorded.catalogue.eq_of_name among member same
    exact ⟨kind,rfl⟩
  · rintro ⟨other,source⟩
    have same := recorded.catalogue.eq_of_key among member (other.trans kind.symm) source
    rw [same]

end Kube

end ComposeToPodman.Target

namespace ComposeToPodman

open Compose Target

namespace Rule

/-- No volume is called like a socket. -/
theorem get?_renamed {d : Document} (wellFormed : d.WellFormed) (source : String) :
    d.volumes.get? (renamed source) = none ↔ d.volumes.get? source = none := by
  have undeclared (path : String) (slash : isName path = false) : d.volumes.get? path = none := by
    by_contra declared
    have key : path ∈ d.volumes.keys :=
      Dict.mem_keys_iff.mpr (Option.isSome_iff_ne_none.mpr declared)
    exact absurd (wellFormed.volumes path key) (by simp [slash])
  unfold renamed
  split
  next socket =>
    rw [socket,undeclared dockerSocket (by decide),undeclared podmanSocket (by decide)]
  next => rfl

theorem service?_rewrite (c : Context) (d : Document) (name : String) :
    (rewrite c d).service? name = (d.service? name).map (rewriteService c) :=
  Document.service?_map (f := rewriteService c) rfl (fun _ => rfl) name

theorem orderedServices_rewrite (c : Context) (d : Document) :
    Kube.orderedServices (rewrite c d) = (Kube.orderedServices d).map (rewriteService c) := by
  have names : (rewrite c d).services.map Service.name = d.services.map Service.name :=
    names_rewrite c d
  unfold Kube.orderedServices
  rw [startOrder_rewrite,names,List.map_filterMap]
  exact List.filterMap_congr fun name _ => service?_rewrite c d name

theorem undeclaredUses_rewrite {d : Document} (wellFormed : d.WellFormed) (c : Context) :
    Kube.undeclaredUses (rewrite c d) (Kube.orderedServices (rewrite c d)) =
      (Kube.undeclaredUses d (Kube.orderedServices d)).map fun e => (e.1,renamed e.2) := by
  have undeclared (mounts : List Mount) :
      Kube.undeclared (rewrite c d) (mounts.map (rewriteMount c.options)) =
        (Kube.undeclared d mounts).map renamed := by
    have same (m : Mount) : decide (Kube.Undeclared (rewrite c d) (rewriteMount c.options m)) =
        decide (Kube.Undeclared d m) := by
      refine decide_eq_decide.mpr ?_
      rw [Kube.Undeclared,Kube.Undeclared,kind_rewriteMount,source_rewriteMount]
      exact and_congr_right fun _ => get?_renamed wellFormed m.source
    rw [Kube.undeclared,Kube.undeclared,List.filter_map,List.map_map,List.map_map]
    simp only [Function.comp_def,same,source_rewriteMount]
  rw [orderedServices_rewrite,Kube.undeclaredUses,Kube.undeclaredUses,List.flatMap_map,
    List.map_flatMap]
  refine congrArg (List.flatMap · _) (funext fun s => ?_)
  rw [List.map_map,rewriteService,undeclared,List.map_map]
  rfl

end Rule

theorem Compose.Document.WellFormed.dependsOn {d : Document} (wellFormed : d.WellFormed) :
    ∀ s ∈ d.services, ∀ n ∈ s.dependsOn, ∃ t ∈ d.services, t.name = n :=
  fun s service n needed => List.mem_map.mp ((wellFormed.services s service).dependencies n needed)

theorem errors_output {f : Format} (other : f ≠ .kube) (d : Document) (o : Options) :
    (f.output d o).diagnostics.errors = [] := by
  cases f with
  | podmanCompose => rfl
  | quadlet =>
    change (Quadlet.notices d).errors = []
    unfold Quadlet.notices
    split
    next => exact Diagnostics.errors_ofWarnings _
    next => rfl
  | kube => exact absurd rfl other

theorem Conversion.isPartial_iff {t : Conversion} {written : Output} (tells : t.Tells written) :
    t.isPartial = true ↔ written.diagnostics.errors ≠ [] := by
  simp [Conversion.isPartial,tells.output,tells.errors]

/-- If a document with distinct service names passes the rules, its conversion to a compose file or to
unit files reports no errors. That to a Pod reports one error for each source of an undeclared volume,
in the order in which the services use them first, with the service that does so, and has one empty
directory for each. It is partial if there are any. The sources are those of the document, except that
the rules have put the Podman socket in the place of the Docker socket. -/
theorem partial_by_undeclared_volumes {o : Options} {f : Format} {input : String} {d : Document}
    {notices : List Notice} {w : Rule.Revision} (read : Document.read input = .ok (d,notices))
    (distinct : (d.services.map (·.name)).Nodup) (ran : Rule.run ⟨f,o⟩ Rule.all d = .ok w) :
    (∀ g, g ≠ .kube → ∃ t, convertTo o g input = .ok t ∧ t.errors = [] ∧ t.isPartial = false) ∧
    ∃ kube noticed t found, Rule.run ⟨.kube,o⟩ Rule.all d = .ok ⟨kube,noticed⟩ ∧
      convertTo o .kube input = .ok t ∧ t.output = some (Kube.pod kube o).toValue.write ∧
      d.startOrder = .ok ((Kube.orderedServices kube).map (·.name)) ∧
      (Kube.orderedServices kube).Perm kube.services ∧
      Kube.FirstUses (Kube.undeclaredUses kube (Kube.orderedServices kube)) found ∧
      t.errors = found.map (fun e => (Kube.useNotice e).message) ∧
      (t.isPartial = true ↔ ∃ s ∈ kube.services, ∃ m ∈ s.mounts, Kube.Undeclared kube m) ∧
      (∃ names : List String, Kube.emptyDirNames (Kube.pod kube o).toValue =
          names.map (fun name => some (.string name)) ∧
        List.Forall₂ (Kube.Serves kube o) names (found.map (·.2))) ∧
      Kube.undeclaredUses kube (Kube.orderedServices kube) =
        (Kube.undeclaredUses d (Kube.orderedServices d)).map fun e => (e.1,Rule.renamed e.2) := by
  have joined := Rule.joined_of_run_all ran
  refine ⟨fun g other => ?_,?_⟩
  · obtain ⟨t,converted,tells⟩ := convertTo_of_read (o := o) (f := g) read joined
    have none := errors_output other (Rule.rewrite ⟨g,o⟩ d) o
    refine ⟨t,converted,by rw [tells.errors,none,List.map_nil],?_⟩
    rw [Bool.eq_false_iff,Ne,Conversion.isPartial_iff tells,none]
    exact fun some => some rfl
  · let c : Rule.Context := ⟨.kube,o⟩
    have wellFormed := wellFormed_of_read read
    have rewritten : (Rule.rewrite c d).WellFormed := Rule.wellFormed_rewrite wellFormed
    have distinct : ((Rule.rewrite c d).services.map (·.name)).Nodup := by simpa using distinct
    obtain ⟨order,ordered⟩ := rewritten.ordered
    have perm := Kube.orderedServices_perm distinct rewritten.dependsOn ordered
    have names := Kube.names_orderedServices distinct rewritten.dependsOn ordered
    obtain ⟨noticed,ran⟩ := Rule.run_all_of_joined joined c
    obtain ⟨t,converted,tells⟩ := convertTo_of_read (o := o) (f := .kube) read joined
    obtain ⟨found,recorded,reported⟩ := Kube.recorded_draft (Rule.rewrite c d)
    have errors : (Format.kube.output (Rule.rewrite c d) o).diagnostics.errors =
        found.map Kube.useNotice := (Kube.errors_diagnostics _).trans reported
    refine ⟨Rule.rewrite c d,noticed,t,found,ran,converted,tells.output,?_,perm,recorded.first,?_,?_,
      ⟨_,Kube.emptyDirNames_toValue _,recorded.serves o⟩,Rule.undeclaredUses_rewrite wellFormed c⟩
    · rw [names,← ordered,Rule.startOrder_rewrite]
    · rw [tells.errors,errors,List.map_map]
      rfl
    · have silent : found.map Kube.useNotice = [] ↔ ∀ s ∈ (Rule.rewrite c d).services,
          ∀ m ∈ s.mounts, ¬Kube.Undeclared (Rule.rewrite c d) m := by
        rw [List.map_eq_nil_iff,recorded.first.eq_nil_iff,Kube.undeclaredUses_eq_nil_iff]
        simp only [perm.mem_iff]
      rw [Conversion.isPartial_iff tells,errors,Ne,silent]
      push Not
      rfl

/-- A service with two undeclared volumes, of which the one that is started before has one as well. -/
def larderText : String := "services:
  web:
    image: a
    depends_on: [db]
    volumes: ['logs:/l', 'cache:/c']
  db:
    image: b
    volumes: ['cache:/c', 'data:/d']
volumes:
  data:
"

def larder : Document :=
  { services := [
      { name := "web", image := "a", dependsOn := ["db"]
        mounts := [
          { source := "logs", target := "/l", kind := .volume },
          { source := "cache", target := "/c", kind := .volume }] },
      { name := "db", image := "b"
        mounts := [
          { source := "cache", target := "/c", kind := .volume },
          { source := "data", target := "/d", kind := .volume }] }]
    volumes := Dict.ofList [("data",{ name := "data" })] }

theorem partial_by_undeclared_volumes_larder :
    Document.read larderText = .ok (larder,[]) ∧
      (∃ t, convertTo {} .quadlet larderText = .ok t ∧ t.errors = []) ∧
      ∃ t found, convertTo {} .kube larderText = .ok t ∧
        t.errors = found.map (fun e => (Kube.useNotice e).message) ∧
        Kube.FirstUses [("db","cache"),("web","logs"),("web","cache")] found := by
  have read : Document.read larderText = .ok (larder,[]) := by decide +kernel
  have joined : larder.services.findSome? (Rule.dangling? larder) = none := by rfl
  obtain ⟨_,ran⟩ := Rule.run_all_of_joined joined ⟨.kube,{}⟩
  obtain ⟨others,kube,_,t,found,_,converted,_,_,_,first,errors,_,_,uses⟩ :=
    partial_by_undeclared_volumes read (by decide) ran
  obtain ⟨u,units,none,_⟩ := others .quadlet (by decide)
  have sources : (Kube.undeclaredUses larder (Kube.orderedServices larder)).map
      (fun e => (e.1,Rule.renamed e.2)) = [("db","cache"),("web","logs"),("web","cache")] := by
    decide
  rw [uses,sources] at first
  exact ⟨read,⟨u,units,none⟩,t,found,converted,errors,first⟩

end ComposeToPodman
