import ComposeToPodman.Proofs.Target.PodContainers

/-! The annotations of a Pod are the labels of its services. Of the values that services give to one
label the first one in the order of starting is kept, and every other one is reported. -/
namespace ComposeToPodman.Target

open Compose Yaml
open ComposeFile (fieldUnder? fieldUnder?_entries)

namespace Kube

/-- An annotation of a Pod as it is written. -/
def annotation? (v : Value) (key : String) : Option Value :=
  ((fieldUnder? "metadata" v).bind (fieldUnder? "annotations")).bind (fieldUnder? key)

theorem fieldNamed?_dictField (name other : String) (f : α → Value) (d : Dict α) :
    fieldNamed? name (dictField other f d) = if other = name ∧ d.isEmpty = false then
      some (.mapping (d.entries.map fun (key,a) => (.string key,f a))) else none := by
  unfold dictField
  split
  next empty => simp [empty]
  next nonempty => simp [fieldNamed?,nonempty]

theorem annotation?_toValue (p : Pod) (key : String) :
    annotation? p.toValue key = (p.annotations.get? key).map .string := by
  have written : annotation? p.toValue key = (fieldNamed? "annotations"
      (dictField "annotations" .string p.annotations)).bind (fieldUnder? key) := by
    simp [annotation?,Pod.toValue]
  rw [written,fieldNamed?_dictField]
  cases empty : p.annotations.isEmpty with
  | true => simp [Dict.eq_empty_of_isEmpty empty]; rfl
  | false => simpa using fieldUnder?_entries key (fun _ => Value.string) p.annotations

/-- The first service that has the label gives it this value. -/
def FirstLabel (services : List Service) (key value : String) : Prop :=
  ∃ before s after, services = before ++ s :: after ∧ s.labels.get? key = some value ∧
    ∀ t ∈ before, t.labels.get? key = none

variable {d : Document}

theorem get?_annotations_add (p : Draft) (s : Service) (key : String) :
    (p.add d s).annotations.get? key = (p.annotations.get? key).or (s.labels.get? key) :=
  get?_annotate p.annotations s.labels.entries key

theorem get?_annotations_of_label (p : Draft) {s : Service} {e : String × String}
    (label : e ∈ s.labels.entries) :
    (p.add d s).annotations.get? e.1 = (p.annotations.get? e.1).or (some e.2) := by
  rw [get?_annotations_add,Dict.get?_eq_some_iff.mpr label]

/-- The service and the label, if the notice is about a value that was dropped. -/
def conflict? : Notice → Option (String × String)
  | .inService service (.labelConflict key) => some (service,key)
  | _ => none

def conflicts (notices : List Notice) : List (String × String) := notices.filterMap conflict?

theorem conflicts_append (notices others : List Notice) :
    conflicts (notices ++ others) = conflicts notices ++ conflicts others := List.filterMap_append

theorem conflicts_eq_nil {notices : List ServiceNotice} (silent : ∀ key, .labelConflict key ∉ notices)
    (service : String) : conflicts (notices.map (.inService service)) = [] := by
  rw [conflicts,List.filterMap_map,List.filterMap_eq_nil_iff]
  intro n member
  cases n with
  | labelConflict key => exact absurd member (silent key)
  | _ => rfl

/-- Labels of a service whose values are not those that are kept, beside its name. -/
def dropped (kept : Dict String) (s : Service) : List (String × String) :=
  (s.labels.entries.filter fun e => kept.get? e.1 ≠ some e.2).map fun e => (s.name,e.1)

theorem conflicts_nextNotices (p : Draft) (s : Service) :
    conflicts ((p.nextNotices d s).map (.inService s.name)) =
      conflicts ((p.nextLabels s).2.map (.inService s.name)) := by
  have head (key : String) : .labelConflict key ∉ headNotices s (p.nextName s) := by
    intro member
    rcases headNotices_cases member with other | other <;> cases other
  have others (key : String) :
      .labelConflict key ∉ (p.nextMounts d s).diagnostics.warnings ++ relabelNotices s := by
    intro member
    rcases List.mem_append.mp member with mount | relabel
    · cases ofMount_nextMounts d p s _ mount
    · cases relabelDropped_of_mem relabel
  rw [Draft.nextNotices,List.map_append,List.map_append,conflicts_append,conflicts_append,
    conflicts_eq_nil head,conflicts_eq_nil others,List.nil_append,List.nil_append]

/-- A label is compared with what was kept before. If nothing was, its own value is kept, so it may as
well be compared with what is kept afterwards. -/
theorem conflicts_nextLabels (p : Draft) (s : Service) :
    conflicts ((p.nextLabels s).2.map (.inService s.name)) = dropped (p.add d s).annotations s := by
  have same : ∀ e ∈ s.labels.entries, (p.annotations.get? e.1).any (· ≠ e.2) =
      decide ((p.add d s).annotations.get? e.1 ≠ some e.2) := by
    intro e entry
    rw [get?_annotations_of_label p entry]
    cases p.annotations.get? e.1 <;> simp
  rw [Draft.nextLabels,notices_annotate p.annotations s.labels.nodup_keys,List.filter_congr same,
    conflicts,List.map_map,List.filterMap_map,dropped]
  exact List.filterMap_eq_map.symm ▸ rfl

/-- What holds of the part of a Pod that was made for some services. -/
structure Draft.Annotated (services : List Service) (p : Draft) : Prop where
  kept : ∀ key, p.annotations.get? key = services.findSome? (·.labels.get? key)
  conflicts : conflicts p.diagnostics.warnings = services.flatMap (dropped p.annotations)

/-- What has a value keeps it, so one more service drops nothing of those before. -/
theorem Draft.Annotated.dropped_add {services : List Service} {p : Draft}
    (annotated : Draft.Annotated services p) (s : Service) :
    ∀ t ∈ services, dropped (p.add d s).annotations t = dropped p.annotations t := by
  intro t earlier
  have same : ∀ e ∈ t.labels.entries,
      (p.add d s).annotations.get? e.1 = p.annotations.get? e.1 := by
    intro e entry
    have found : (p.annotations.get? e.1).isSome := by
      rw [annotated.kept,List.findSome?_isSome_iff]
      exact ⟨t,earlier,by rw [Dict.get?_eq_some_iff.mpr entry]; rfl⟩
    obtain ⟨value,found⟩ := Option.isSome_iff_exists.mp found
    rw [get?_annotations_add,found,Option.some_or]
  rw [dropped,dropped,List.filter_congr fun e entry => by rw [same e entry]]

theorem Draft.Annotated.add {services : List Service} {p : Draft}
    (annotated : Draft.Annotated services p) (s : Service) :
    Draft.Annotated (services ++ [s]) (p.add d s) where
  kept key := by
    rw [get?_annotations_add,annotated.kept,List.findSome?_append,List.findSome?_singleton]
  conflicts := by
    rw [warnings_add,conflicts_append,annotated.conflicts,conflicts_nextNotices,
      conflicts_nextLabels,List.flatMap_append,List.flatMap_singleton,
      List.flatMap_congr (annotated.dropped_add s)]

theorem annotated_draft (d : Document) : Draft.Annotated (orderedServices d) (draft d) :=
  draft_induction ⟨fun _ => rfl,rfl⟩ fun _ s _ annotated => annotated.add s

theorem get?_annotations (d : Document) (key : String) : (draft d).annotations.get? key =
    (orderedServices d).findSome? (·.labels.get? key) := (annotated_draft d).kept key

theorem get?_annotations_eq_some_iff {key value : String} :
    (draft d).annotations.get? key = some value ↔ FirstLabel (orderedServices d) key value := by
  rw [get?_annotations,List.findSome?_eq_some_iff]
  rfl

theorem conflicts_diagnostics (d : Document) : conflicts (diagnostics d).warnings =
    (orderedServices d).flatMap (dropped (draft d).annotations) := by
  have shared : conflicts (sharedNotices (orderedServices d)) = [] := by
    refine List.filterMap_eq_nil_iff.mpr fun n member => ?_
    cases ofServices_sharedNotices _ n member <;> rfl
  rw [warnings_diagnostics,conflicts_append,shared,List.append_nil,(annotated_draft d).conflicts]

theorem mem_dropped_iff {kept : Dict String} {s : Service} {name key : String} :
    (name,key) ∈ dropped kept s ↔ s.name = name ∧
      ∃ value, s.labels.get? key = some value ∧ kept.get? key ≠ some value := by
  simp only [dropped,List.mem_map,List.mem_filter,decide_eq_true_eq,Prod.mk.injEq]
  constructor
  · rintro ⟨⟨_,value⟩,⟨label,other⟩,rfl,rfl⟩
    exact ⟨rfl,value,Dict.get?_eq_some_iff.mpr label,other⟩
  · rintro ⟨rfl,value,label,other⟩
    exact ⟨(key,value),⟨Dict.get?_eq_some_iff.mp label,other⟩,rfl,rfl⟩

/-- Services have different names, and the labels of one service different keys. -/
theorem nodup_dropped {services : List Service} (distinct : (services.map (·.name)).Nodup)
    (kept : Dict String) : (services.flatMap (dropped kept)).Nodup := by
  refine List.pairwise_flatMap.mpr ⟨fun s _ => ?_,?_⟩
  · refine List.pairwise_map.mpr ((s.labels.sorted.filter _).imp fun {a b} lt same => ?_)
    exact String.lt_irrefl b.1 ((Prod.mk.inj same).2 ▸ lt)
  · refine (List.pairwise_map.mp distinct).imp fun apart x first y second same => ?_
    have left := (mem_dropped_iff.mp first).1
    have right := (mem_dropped_iff.mp (same ▸ second)).1
    exact apart (left.trans right.symm)

/-- If the services of a document have distinct names, depend only on each other and never on
themselves, the annotations of its Pod are the labels of the services. Each has the value that the
first service with the label gives it, in the order of starting. One conflict is noticed for each
service and label of another value than the one that is kept, and none besides. -/
theorem pod_keeps_first_labels {d : Document} (distinct : (d.services.map (·.name)).Nodup)
    (known : ∀ s ∈ d.services, ∀ n ∈ s.dependsOn, ∃ t ∈ d.services, t.name = n)
    (acyclic : ∀ name, ¬Relation.TransGen d.DependsOn name name) (o : Options) :
    ∃ (order : List String) (services : List Service), d.startOrder = .ok order ∧
      services.map (·.name) = order ∧ services.Perm d.services ∧
      (∀ key, annotation? (pod d o).toValue key = ((pod d o).annotations.get? key).map .string) ∧
      (∀ key, key ∈ (pod d o).annotations.keys ↔ ∃ s ∈ d.services, key ∈ s.labels.keys) ∧
      (∀ key value, (pod d o).annotations.get? key = some value ↔ FirstLabel services key value) ∧
      (conflicts (diagnostics d).warnings).Nodup ∧
      ∀ name key, (name,key) ∈ conflicts (diagnostics d).warnings ↔
        ∃ s ∈ d.services, s.name = name ∧ ∃ value kept, s.labels.get? key = some value ∧
          (pod d o).annotations.get? key = some kept ∧ value ≠ kept := by
  obtain ⟨order,ordered⟩ := Document.startOrder_ok_iff.mpr fun _ _ name _ => acyclic name
  have perm := orderedServices_perm distinct known ordered
  have names := names_orderedServices distinct known ordered
  have keys (key : String) : key ∈ (draft d).annotations.keys ↔
      ∃ s ∈ d.services, key ∈ s.labels.keys := by
    simp only [Dict.mem_keys_iff,get?_annotations,List.findSome?_isSome_iff,perm.mem_iff]
  refine ⟨order,orderedServices d,ordered,names,perm,annotation?_toValue (pod d o),keys,
    fun _ _ => get?_annotations_eq_some_iff,?_,fun name key => ?_⟩
  · rw [conflicts_diagnostics]
    exact nodup_dropped ((perm.map _).nodup_iff.mpr distinct) _
  · rw [conflicts_diagnostics,List.mem_flatMap]
    constructor
    · rintro ⟨s,service,member⟩
      obtain ⟨same,value,label,other⟩ := mem_dropped_iff.mp member
      have service := perm.mem_iff.mp service
      have listed : key ∈ s.labels.keys := Dict.mem_keys_iff.mpr (by simp [label])
      obtain ⟨first,found⟩ := Option.isSome_iff_exists.mp
        (Dict.mem_keys_iff.mp ((keys key).mpr ⟨s,service,listed⟩))
      exact ⟨s,service,same,value,first,label,found,fun equal => other (equal ▸ found)⟩
    · rintro ⟨s,service,same,value,first,label,found,other⟩
      refine ⟨s,perm.mem_iff.mpr service,mem_dropped_iff.mpr ⟨same,value,label,fun equal => ?_⟩⟩
      exact other (Option.some.inj (equal.symm.trans found))

/-- Three services with a label in common, of which the last one is started first. -/
def quarrel : Document :=
  { services := [
      { name := "web", image := "a", labels := Dict.ofList [("team","red"),("tier","front")]
        dependsOn := ["db"] },
      { name := "jobs", image := "b", labels := Dict.ofList [("team","blue")] },
      { name := "db", image := "c", labels := Dict.ofList [("team","blue"),("zone","1")] }] }

theorem pod_keeps_first_labels_quarrel :
    ∃ services : List Service, services.map (·.name) = ["db","web","jobs"] ∧
      FirstLabel services "team" "blue" ∧
      annotation? (pod quarrel {}).toValue "team" = some (.string "blue") ∧
      conflicts (diagnostics quarrel).warnings = [("web","team")] := by
  have ordered : quarrel.startOrder = .ok ["db","web","jobs"] := by decide
  obtain ⟨order,services,found,names,_,written,_,first,_,_⟩ :=
    pod_keeps_first_labels (d := quarrel) (by decide) (by decide)
      (Document.acyclic_of_startOrder ordered) {}
  obtain rfl := Except.ok.inj (ordered.symm.trans found)
  have kept : (pod quarrel {}).annotations.get? "team" = some "blue" := by decide +kernel
  refine ⟨services,names,(first _ _).mp kept,?_,by decide +kernel⟩
  rw [written,kept]
  rfl

end Kube

end ComposeToPodman.Target
