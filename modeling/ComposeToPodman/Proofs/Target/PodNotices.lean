import ComposeToPodman.Proofs.Dict
import ComposeToPodman.Proofs.Target.PodVolumes
import Mathlib.Data.List.Induction

/-! What is reported while a Pod is made, service by service: the diagnostics that one more service
adds, and of what kinds they are. -/
namespace ComposeToPodman.Target.Kube

open Compose

variable {μ : Type}

theorem warnings_append (d e : Diagnostics μ) : (d ++ e).warnings = d.warnings ++ e.warnings :=
  Diagnostics.messages_append d e .warning

theorem warnings_inService (name : String) (d : Diagnostics ServiceNotice) :
    (inService name d).warnings = d.warnings.map (.inService name) := by
  simp [inService,Diagnostics.warnings,Diagnostics.messages,List.filter_map,Function.comp_def]

theorem errors_inService (name : String) (d : Diagnostics ServiceNotice) :
    (inService name d).errors = d.errors.map (.inService name) := by
  simp [inService,Diagnostics.errors,Diagnostics.messages,List.filter_map,Function.comp_def]

section Add

variable (d : Document) (p : Draft) (s : Service)

def Draft.nextName : String := Label.unique s.name (p.containers.map (·.name))

def Draft.nextMounts : MountTable := s.mounts.foldl (MountTable.add d) { volumes := p.volumes }

def Draft.nextLabels : Dict String × List ServiceNotice := annotate p.annotations s.labels.entries

/-- What is noticed of the next service. -/
def Draft.nextNotices : List ServiceNotice :=
  headNotices s (p.nextName s) ++ ((p.nextMounts d s).diagnostics.warnings ++ relabelNotices s ++
    (p.nextLabels s).2)

theorem diagnostics_add : (p.add d s).diagnostics = p.diagnostics ++ inService s.name
    (.ofWarnings (headNotices s (p.nextName s)) ++ (p.nextMounts d s).diagnostics ++
      .ofWarnings (relabelNotices s) ++ .ofWarnings (p.nextLabels s).2) := rfl

theorem warnings_add : (p.add d s).diagnostics.warnings =
    p.diagnostics.warnings ++ (p.nextNotices d s).map (.inService s.name) := by
  rw [diagnostics_add,warnings_append,warnings_inService]
  simp only [warnings_append,Diagnostics.warnings_ofWarnings,Draft.nextNotices,List.append_assoc]

theorem errors_add : (p.add d s).diagnostics.errors =
    p.diagnostics.errors ++ (p.nextMounts d s).diagnostics.errors.map (.inService s.name) := by
  rw [diagnostics_add,Diagnostics.errors_append,errors_inService]
  simp

end Add

/-- The last label is put in if its key is new; otherwise the values are compared. -/
theorem annotate_snoc (kept : Dict String) (labels : List (String × String)) (e : String × String) :
    annotate kept (labels ++ [e]) =
      match (annotate kept labels).1.get? e.1 with
      | none => ((annotate kept labels).1.insert e.1 e.2,(annotate kept labels).2)
      | some existing => ((annotate kept labels).1,
          if existing = e.2 then (annotate kept labels).2
          else (annotate kept labels).2 ++ [.labelConflict e.1]) := by
  unfold annotate
  rw [List.foldl_append]
  rfl

/-- What has a value keeps it, whatever is put in. -/
theorem get?_annotate (kept : Dict String) (labels : List (String × String)) (key : String) :
    (annotate kept labels).1.get? key = (kept.get? key).or (labels.lookup key) := by
  induction labels using List.reverseRecOn with
  | nil => simp [annotate]
  | append_singleton labels e ih =>
    obtain ⟨new,value⟩ := e
    have last : [(new,value)].lookup key = if key = new then some value else none := by
      by_cases here : key = new
      · simp [here]
      · have apart : (key == new) = false := by simpa using here
        simp [List.lookup_cons,here,apart]
    rw [annotate_snoc,List.lookup_append,← Option.or_assoc,← ih,last]
    split
    next absent =>
      rw [Dict.get?_insert]
      by_cases here : key = new
      · rw [if_pos here,if_pos here,here,absent,Option.none_or]
      · rw [if_neg here,if_neg here,Option.or_none]
    next existing present =>
      by_cases here : key = new
      · rw [here,present,Option.some_or]
      · rw [if_neg here,Option.or_none]

/-- The labels of one service have different keys, so each conflict is with what was kept before. -/
theorem notices_annotate (kept : Dict String) {labels : List (String × String)}
    (distinct : (labels.map Prod.fst).Nodup) :
    (annotate kept labels).2 =
      (labels.filter fun e => (kept.get? e.1).any (· ≠ e.2)).map fun e => .labelConflict e.1 := by
  induction labels using List.reverseRecOn with
  | nil => rfl
  | append_singleton labels e ih =>
    rw [List.map_append,List.nodup_append] at distinct
    have absent : labels.lookup e.1 = none := by
      refine List.lookup_eq_none_iff.mpr fun other member => ?_
      have apart := distinct.2.2 other.1 (List.mem_map_of_mem member) e.1 (by simp)
      simpa using apart.symm
    have before : (annotate kept labels).1.get? e.1 = kept.get? e.1 := by
      rw [get?_annotate,absent,Option.or_none]
    rw [annotate_snoc,before,List.filter_append,List.map_append,← ih distinct.1]
    cases found : kept.get? e.1 with
    | none => simp [found]
    | some existing => by_cases same : existing = e.2 <;> simp [found,same]

/-- What may be noticed of a mount. -/
inductive OfMount : ServiceNotice → Prop
  | option (option target : String) : OfMount (.mountOptionDropped option target)
  | source (source : String) : OfMount (.relativeSource source)

/-- What may be noticed of a service while its container is made. -/
inductive OfContainer : ServiceNotice → Prop
  | renamed (name : String) : OfContainer (.containerRenamed name)
  | dependencies : OfContainer .dependenciesDropped
  | mount {n : ServiceNotice} (ofMount : OfMount n) : OfContainer n
  | relabel : OfContainer .relabelDropped
  | label (key : String) : OfContainer (.labelConflict key)

theorem ofMount_optionNotices (m : Mount) : ∀ n ∈ optionNotices m, OfMount n := by
  intro n member
  obtain ⟨option,_,rfl⟩ := List.mem_map.mp member
  exact .option option m.target

theorem ofMount_volumeDiagnostics (d : Document) (m : Mount) :
    ∀ n ∈ (volumeDiagnostics d m).warnings, OfMount n := by
  unfold volumeDiagnostics
  split
  next =>
    rw [Diagnostics.warnings_ofWarnings]
    split
    next => exact List.forall_mem_nil _
    next => exact List.forall_mem_singleton.mpr (.source m.source)
  next =>
    rw [Diagnostics.warnings_ofErrors]
    exact List.forall_mem_nil _

/-- One step: a mount of a new volume has its source noticed, then each its options. -/
theorem ofMount_add (d : Document) (m : Mount) {t : MountTable}
    (before : ∀ n ∈ t.diagnostics.warnings, OfMount n) :
    ∀ n ∈ (t.add d m).diagnostics.warnings, OfMount n := by
  cases known : volumeName? t.volumes m with
  | some name =>
    rw [MountTable.add_of_known known]
    simp only [warnings_append,Diagnostics.warnings_ofWarnings,List.forall_mem_append]
    exact ⟨before,ofMount_optionNotices m⟩
  | none =>
    rw [MountTable.add_of_missing known]
    simp only [warnings_append,Diagnostics.warnings_ofWarnings,List.forall_mem_append]
    exact ⟨⟨before,ofMount_volumeDiagnostics d m⟩,ofMount_optionNotices m⟩

theorem ofMount_nextMounts (d : Document) (p : Draft) (s : Service) :
    ∀ n ∈ (p.nextMounts d s).diagnostics.warnings, OfMount n :=
  List.foldlRecOn (motive := fun t => ∀ n ∈ t.diagnostics.warnings, OfMount n) s.mounts
    (MountTable.add d) (List.forall_mem_nil _) fun _ before m _ => ofMount_add d m before

theorem relabelDropped_of_mem {s : Service} {n : ServiceNotice} (member : n ∈ relabelNotices s) :
    n = .relabelDropped := by
  unfold relabelNotices at member
  split at member
  next => exact List.mem_singleton.mp member
  next => cases member

theorem labelConflict_of_mem {kept : Dict String} {s : Service} {n : ServiceNotice}
    (member : n ∈ (annotate kept s.labels.entries).2) : ∃ key, n = .labelConflict key := by
  rw [notices_annotate kept s.labels.nodup_keys] at member
  obtain ⟨e,_,rfl⟩ := List.mem_map.mp member
  exact ⟨e.1,rfl⟩

theorem headNotices_cases {s : Service} {name : String} {n : ServiceNotice}
    (member : n ∈ headNotices s name) : n = .containerRenamed name ∨ n = .dependenciesDropped := by
  rcases List.mem_append.mp member with renamed | dependencies
  · split at renamed
    next => cases renamed
    next => exact .inl (List.mem_singleton.mp renamed)
  · split at dependencies
    next => cases dependencies
    next => exact .inr (List.mem_singleton.mp dependencies)

theorem ofContainer_nextNotices (d : Document) (p : Draft) (s : Service) :
    ∀ n ∈ p.nextNotices d s, OfContainer n := by
  intro n member
  simp only [Draft.nextNotices,List.mem_append] at member
  rcases member with head | (mount | relabel) | label
  · rcases headNotices_cases head with rfl | rfl
    · exact .renamed _
    · exact .dependencies
  · exact .mount (ofMount_nextMounts d p s n mount)
  · exact relabelDropped_of_mem relabel ▸ .relabel
  · obtain ⟨key,rfl⟩ := labelConflict_of_mem label
    exact .label key

theorem ofContainer_draft (d : Document) : ∀ n ∈ (draft d).diagnostics.warnings,
    ∃ service notice, n = .inService service notice ∧ OfContainer notice := by
  refine draft_induction (motive := fun _ p => ∀ n ∈ p.diagnostics.warnings,
    ∃ service notice, n = .inService service notice ∧ OfContainer notice)
    (List.forall_mem_nil _) fun _ s p before => ?_
  rw [warnings_add,List.forall_mem_append]
  refine ⟨before,List.forall_mem_map.mpr fun n member => ?_⟩
  exact ⟨s.name,n,rfl,ofContainer_nextNotices d p s n member⟩

def sharedNotices (services : List Service) : List Notice :=
  networkNotices services ++ hostNotices services ++ restartNotices services

/-- What may be noticed of all services together. -/
inductive OfServices : Notice → Prop
  | networks (names : List String) : OfServices (.networksShared names)
  | isolation (name : String) : OfServices (.inService name .isolationDropped)
  | host (names : List String) : OfServices (.hostNetworkShared names)
  | restart (chosen : PodRestart) (names : List String) : OfServices (.restartOverridden chosen names)

theorem networkNotices_cases {services : List Service} {n : Notice}
    (member : n ∈ networkNotices services) :
    (∃ names, n = .networksShared names) ∨ ∃ name, n = .inService name .isolationDropped := by
  rcases List.mem_append.mp member with networks | isolation
  · split at networks
    next => cases networks
    next => exact .inl ⟨_,List.mem_singleton.mp networks⟩
  · obtain ⟨s,_,rfl⟩ := List.mem_map.mp isolation
    exact .inr ⟨s.name,rfl⟩

theorem hostNotices_cases {services : List Service} {n : Notice}
    (member : n ∈ hostNotices services) : ∃ names, n = .hostNetworkShared names := by
  unfold hostNotices at member
  dsimp only at member
  split at member
  next => exact ⟨_,List.mem_singleton.mp member⟩
  next => cases member

theorem restartNotices_cases {services : List Service} {n : Notice}
    (member : n ∈ restartNotices services) : ∃ chosen names, n = .restartOverridden chosen names := by
  unfold restartNotices at member
  split at member
  next => cases member
  next chosen _ =>
    dsimp only at member
    split at member
    next => cases member
    next => exact ⟨chosen,_,List.mem_singleton.mp member⟩

theorem ofServices_sharedNotices (services : List Service) :
    ∀ n ∈ sharedNotices services, OfServices n := by
  intro n member
  simp only [sharedNotices,List.mem_append] at member
  rcases member with (network | host) | restart
  · rcases networkNotices_cases network with ⟨names,rfl⟩ | ⟨name,rfl⟩
    · exact .networks names
    · exact .isolation name
  · obtain ⟨names,rfl⟩ := hostNotices_cases host
    exact .host names
  · obtain ⟨chosen,names,rfl⟩ := restartNotices_cases restart
    exact .restart chosen names

theorem warnings_diagnostics (d : Document) : (diagnostics d).warnings =
    (draft d).diagnostics.warnings ++ sharedNotices (orderedServices d) := by
  rw [diagnostics,warnings_append,Diagnostics.warnings_ofWarnings]
  rfl

theorem errors_diagnostics (d : Document) :
    (diagnostics d).errors = (draft d).diagnostics.errors := by
  rw [diagnostics,Diagnostics.errors_append,Diagnostics.errors_ofWarnings,List.append_nil]

end ComposeToPodman.Target.Kube
