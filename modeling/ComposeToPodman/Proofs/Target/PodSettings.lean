import ComposeToPodman.Proofs.Target.Fields
import ComposeToPodman.Proofs.Target.PodNotices

/-! Settings that the containers of a Pod share: what becomes of the settings of single services, and
which services are named where theirs cannot be kept. -/
namespace ComposeToPodman.Target

open Compose

namespace PodRestart

theorem rank_stricter (p q : PodRestart) : (p.stricter q).rank = max p.rank q.rank := by
  cases p <;> cases q <;> rfl

theorem stricter_cases (p q : PodRestart) : p.stricter q = p ∨ p.stricter q = q := by
  unfold stricter
  split
  next => exact .inr rfl
  next => exact .inl rfl

theorem eq_of_rank_eq {p q : PodRestart} (same : p.rank = q.rank) : p = q := by
  cases p <;> cases q <;> first | rfl | cases same

/-- One of the policies, than which no other one is more restrictive. -/
structure Strictest (policies : List PodRestart) (p : PodRestart) : Prop where
  mem : p ∈ policies
  bound : ∀ q ∈ policies, q.rank ≤ p.rank

theorem Strictest.unique {policies : List PodRestart} {p q : PodRestart} (left : Strictest policies p)
    (right : Strictest policies q) : p = q :=
  eq_of_rank_eq (Nat.le_antisymm (right.bound p left.mem) (left.bound q right.mem))

theorem strictest_foldl (rest : List PodRestart) (p : PodRestart) :
    Strictest (p :: rest) (rest.foldl stricter p) := by
  -- By induction on the policies: the first two of them may be replaced by the stricter one.
  induction rest generalizing p with
  | nil => exact ⟨by simp,by simp⟩
  | cons q rest ih =>
    obtain ⟨mem,bound⟩ := ih (p.stricter q)
    have two := bound _ (List.mem_cons_self)
    rw [rank_stricter,Nat.max_le] at two
    refine ⟨?_,?_⟩
    · rcases List.mem_cons.mp mem with one | other
      · rw [List.foldl_cons,one]
        rcases stricter_cases p q with same | same <;> simp [same]
      · exact List.mem_cons_of_mem p (List.mem_cons_of_mem q other)
    · simp only [List.forall_mem_cons]
      exact ⟨two.1,two.2,fun r later => bound r (List.mem_cons_of_mem _ later)⟩

section Each

variable {policies : List PodRestart}

theorem strictest_never : Strictest policies .never ↔ .never ∈ policies :=
  ⟨(·.mem),fun mem => ⟨mem,fun q _ => by cases q <;> decide⟩⟩

theorem strictest_onFailure :
    Strictest policies .onFailure ↔ .onFailure ∈ policies ∧ .never ∉ policies := by
  constructor
  · intro strictest
    exact ⟨strictest.mem,fun stricter => absurd (strictest.bound _ stricter) (by decide)⟩
  · rintro ⟨mem,absent⟩
    refine ⟨mem,fun q other => ?_⟩
    cases q with
    | never => exact absurd other absent
    | _ => decide

theorem strictest_always : Strictest policies .always ↔
    .always ∈ policies ∧ .never ∉ policies ∧ .onFailure ∉ policies := by
  constructor
  · intro strictest
    exact ⟨strictest.mem,fun stricter => absurd (strictest.bound _ stricter) (by decide),
      fun stricter => absurd (strictest.bound _ stricter) (by decide)⟩
  · rintro ⟨mem,absent,missing⟩
    refine ⟨mem,fun q other => ?_⟩
    cases q with
    | never => exact absurd other absent
    | onFailure => exact absurd other missing
    | always => decide

end Each

end PodRestart

namespace Kube

open PodRestart

/-- The policy that a service asks for, as one of a Pod. -/
def asked (s : Service) : Option PodRestart := s.restart.map .ofPolicy

/-- A service that asks for some policy, but not for this one. -/
def Overridden (chosen : PodRestart) (s : Service) : Prop :=
  s.restart ≠ none ∧ asked s ≠ some chosen

instance (chosen : PodRestart) : DecidablePred (Overridden chosen) :=
  fun s => inferInstanceAs (Decidable (s.restart ≠ none ∧ asked s ≠ some chosen))

/-- The names of the services with a property, in their order. -/
def named (p : Service → Prop) [DecidablePred p] (services : List Service) : List String :=
  (services.filter p).map (·.name)

theorem named_nonempty_iff {p : Service → Prop} [DecidablePred p] {services : List Service} :
    (named p services).isEmpty = false ↔ ∃ s ∈ services, p s := by
  simp [named]

theorem policies_requested (services : List Service) :
    (requested services).map (·.2) = services.filterMap asked := by
  rw [requested,List.map_filterMap]
  refine List.filterMap_congr fun s _ => ?_
  rw [asked,Option.map_map]
  rfl

theorem overridden_requested (chosen : PodRestart) (services : List Service) :
    ((requested services).filter (·.2 ≠ chosen)).map (·.1) = named (Overridden chosen) services := by
  induction services with
  | nil => rfl
  | cons s rest ih =>
    unfold requested named at *
    cases policy : s.restart with
    | none => simpa [Overridden,asked,policy] using ih
    | some r =>
      by_cases same : ofPolicy r = chosen <;> simpa [Overridden,asked,policy,same] using ih

theorem chosenRestart_eq_some_iff {services : List Service} {p : PodRestart} :
    chosenRestart services = some p ↔ Strictest (services.filterMap asked) p := by
  rw [← policies_requested]
  unfold chosenRestart
  cases requested services with
  | nil => exact ⟨nofun,fun strictest => by cases strictest.mem⟩
  | cons first rest =>
    have strictest : Strictest (first.2 :: rest.map (·.2))
        (rest.foldl (fun p r => p.stricter r.2) first.2) := by
      rw [← List.foldl_map]
      exact strictest_foldl _ _
    constructor
    · intro chosen
      exact Option.some.inj chosen ▸ strictest
    · intro other
      exact congrArg some (strictest.unique other)

theorem chosenRestart_eq_none_iff {services : List Service} :
    chosenRestart services = none ↔ ∀ s ∈ services, s.restart = none := by
  have empty : chosenRestart services = none ↔ requested services = [] := by
    unfold chosenRestart
    cases requested services <;> simp
  rw [empty,requested,List.filterMap_eq_nil_iff]
  simp only [Option.map_eq_none_iff]

theorem chosenRestart_perm {services others : List Service} (perm : services.Perm others) :
    chosenRestart others = chosenRestart services := by
  have policies := perm.filterMap asked
  refine Option.ext fun p => ?_
  rw [chosenRestart_eq_some_iff,chosenRestart_eq_some_iff]
  constructor
  · rintro ⟨mem,bound⟩
    exact ⟨policies.mem_iff.mpr mem,fun q other => bound q (policies.mem_iff.mp other)⟩
  · rintro ⟨mem,bound⟩
    exact ⟨policies.mem_iff.mp mem,fun q other => bound q (policies.mem_iff.mpr other)⟩

/-- A service that asks for the network of the host. -/
def OnHost (s : Service) : Prop := s.networkMode = some .host

instance : DecidablePred OnHost := fun s => inferInstanceAs (Decidable (s.networkMode = some .host))

/-- A service on a network of its own choice. -/
def Networked (s : Service) : Prop := ∃ n ∈ s.networks, n ≠ defaultNetwork

instance : DecidablePred Networked :=
  fun s => inferInstanceAs (Decidable (∃ n ∈ s.networks, n ≠ defaultNetwork))

variable (services : List Service)

/-- A notice of the services with a property, which is given if there are any. -/
theorem count_named (p : Service → Prop) [DecidablePred p] {f : List String → Notice}
    (injective : Function.Injective f) (names : List String) :
    (if (named p services).isEmpty then [] else [f (named p services)]).count (f names) =
      if (∃ s ∈ services, p s) ∧ named p services = names then 1 else 0 := by
  simp only [← named_nonempty_iff]
  cases (named p services).isEmpty with
  | true => rfl
  | false => simp [List.count_singleton,injective.eq_iff]

theorem count_restartOverridden (chosen : PodRestart) (names : List String) :
    (restartNotices services).count (.restartOverridden chosen names) =
      if chosenRestart services = some chosen ∧ (∃ s ∈ services, Overridden chosen s) ∧
        named (Overridden chosen) services = names then 1 else 0 := by
  unfold restartNotices
  cases found : chosenRestart services with
  | none => rfl
  | some p =>
    dsimp only
    rw [overridden_requested]
    by_cases same : p = chosen
    · have injective : Function.Injective (Notice.restartOverridden chosen) :=
        fun _ _ equal => (Notice.restartOverridden.inj equal).2
      rw [same,count_named services _ injective]
      simp
    · simp only [Option.some.injEq,same,false_and,if_false,List.count_eq_zero]
      intro member
      split at member
      next => cases member
      next => exact same (Notice.restartOverridden.inj (List.mem_singleton.mp member)).1.symm

theorem count_hostNetworkShared (names : List String) :
    (hostNotices services).count (.hostNetworkShared names) =
      if ((∃ s ∈ services, OnHost s) ∧ ∃ s ∈ services, ¬OnHost s) ∧ named OnHost services = names
        then 1 else 0 := by
  have some : (!(hostServices services).isEmpty) = true ↔ ∃ s ∈ services, OnHost s := by
    simp [hostServices,OnHost]
  have others : (hostServices services).length < services.length ↔ ∃ s ∈ services, ¬OnHost s := by
    simp [hostServices,OnHost,List.length_filter_lt_length_iff_exists]
  unfold hostNotices
  simp only [Bool.and_eq_true,some,decide_eq_true_eq,others]
  split
  next both => simp [List.count_singleton,both]; rfl
  next neither => simp [neither]

theorem count_networksShared (names : List String) :
    (networkNotices services).count (.networksShared names) =
      if (∃ s ∈ services, Networked s) ∧ named Networked services = names then 1 else 0 := by
  have affected : (services.filter fun s => s.networks.any (· ≠ defaultNetwork)).map (·.name) =
      named Networked services := by
    refine congrArg (List.map _) (List.filter_congr fun s _ => ?_)
    rw [Bool.eq_iff_iff,decide_eq_true_eq]
    simp [Networked]
  have isolated : ((services.filter (·.networkMode = some .none)).map fun s =>
      Notice.inService s.name .isolationDropped).count (.networksShared names) = 0 := by
    simp [List.count_eq_zero]
  unfold networkNotices
  rw [affected,List.count_append,isolated,Nat.add_zero]
  exact count_named services Networked (fun _ _ => Notice.networksShared.inj) names

theorem count_isolationDropped (name : String) :
    (networkNotices services).count (.inService name .isolationDropped) =
      services.countP fun s => s.name = name ∧ s.networkMode = some .none := by
  have networks (names : List String) :
      (if names.isEmpty then [] else [.networksShared names]).count
        (Notice.inService name .isolationDropped) = 0 := by
    split <;> rfl
  unfold networkNotices
  rw [List.count_append,networks,Nat.zero_add,List.count,List.countP_map,List.countP_filter]
  refine List.countP_congr fun s _ => ?_
  simp

/-- The settings of a Pod, and what is noticed of them, come from these services: the most restrictive
policy that one of them asks for, and the network of the host if one of them asks for it. Services
whose own settings are lost are named, in their order. -/
structure Collapsed (restart : Option PodRestart) (host : Bool) (notices : List Notice) : Prop where
  absent : restart = none ↔ ∀ s ∈ services, s.restart = none
  never : restart = some .never ↔ ∃ s ∈ services, asked s = some .never
  onFailure : restart = some .onFailure ↔ (∃ s ∈ services, asked s = some .onFailure) ∧
    ¬∃ s ∈ services, asked s = some .never
  always : restart = some .always ↔ (∃ s ∈ services, asked s = some .always) ∧
    (¬∃ s ∈ services, asked s = some .never) ∧ ¬∃ s ∈ services, asked s = some .onFailure
  host : host = true ↔ ∃ s ∈ services, OnHost s
  restartNotice (chosen : PodRestart) (names : List String) :
    notices.count (.restartOverridden chosen names) =
      if restart = some chosen ∧ (∃ s ∈ services, Overridden chosen s) ∧
        named (Overridden chosen) services = names then 1 else 0
  hostNotice (names : List String) : notices.count (.hostNetworkShared names) =
    if ((∃ s ∈ services, OnHost s) ∧ ∃ s ∈ services, ¬OnHost s) ∧ named OnHost services = names
      then 1 else 0
  networkNotice (names : List String) : notices.count (.networksShared names) =
    if (∃ s ∈ services, Networked s) ∧ named Networked services = names then 1 else 0
  isolationNotice (name : String) : notices.count (.inService name .isolationDropped) =
    services.countP fun s => s.name = name ∧ s.networkMode = some .none

theorem count_sharedNotices (n : Notice) : (sharedNotices services).count n =
    (networkNotices services).count n + (hostNotices services).count n +
      (restartNotices services).count n := by
  rw [sharedNotices,List.count_append,List.count_append]

theorem collapsed_sharedNotices : Collapsed services (chosenRestart services)
    (!(hostServices services).isEmpty) (sharedNotices services) where
  absent := chosenRestart_eq_none_iff
  never := by rw [chosenRestart_eq_some_iff,strictest_never,List.mem_filterMap]
  onFailure := by
    rw [chosenRestart_eq_some_iff,strictest_onFailure,List.mem_filterMap,List.mem_filterMap]
  always := by
    rw [chosenRestart_eq_some_iff,strictest_always,List.mem_filterMap,List.mem_filterMap,
      List.mem_filterMap]
  host := by simp [hostServices,OnHost]
  restartNotice chosen names := by
    have network : .restartOverridden chosen names ∉ networkNotices services := fun member => by
      simpa using networkNotices_cases member
    have host : .restartOverridden chosen names ∉ hostNotices services := fun member => by
      simpa using hostNotices_cases member
    rw [count_sharedNotices,List.count_eq_zero.mpr network,List.count_eq_zero.mpr host,Nat.zero_add,
      count_restartOverridden]
  hostNotice names := by
    have network : .hostNetworkShared names ∉ networkNotices services := fun member => by
      simpa using networkNotices_cases member
    have restart : .hostNetworkShared names ∉ restartNotices services := fun member => by
      simpa using restartNotices_cases member
    rw [count_sharedNotices,List.count_eq_zero.mpr network,List.count_eq_zero.mpr restart,
      Nat.zero_add,Nat.add_zero,count_hostNetworkShared]
  networkNotice names := by
    have host : .networksShared names ∉ hostNotices services := fun member => by
      simpa using hostNotices_cases member
    have restart : .networksShared names ∉ restartNotices services := fun member => by
      simpa using restartNotices_cases member
    rw [count_sharedNotices,List.count_eq_zero.mpr host,List.count_eq_zero.mpr restart,
      Nat.add_zero,count_networksShared]
  isolationNotice name := by
    have host : .inService name .isolationDropped ∉ hostNotices services := fun member => by
      simpa using hostNotices_cases member
    have restart : .inService name .isolationDropped ∉ restartNotices services := fun member => by
      simpa using restartNotices_cases member
    rw [count_sharedNotices,List.count_eq_zero.mpr host,List.count_eq_zero.mpr restart,
      Nat.add_zero,count_isolationDropped]

variable {services}

/-- Other notices do not matter. -/
theorem Collapsed.of_count {restart : Option PodRestart} {host : Bool} {notices others : List Notice}
    (same : ∀ n, OfServices n → others.count n = notices.count n)
    (collapsed : Collapsed services restart host notices) : Collapsed services restart host others :=
  { collapsed with
    restartNotice := fun chosen names =>
      (same _ (.restart chosen names)).trans (collapsed.restartNotice chosen names)
    hostNotice := fun names => (same _ (.host names)).trans (collapsed.hostNotice names)
    networkNotice := fun names => (same _ (.networks names)).trans (collapsed.networkNotice names)
    isolationNotice := fun name => (same _ (.isolation name)).trans (collapsed.isolationNotice name) }

theorem count_diagnostics (d : Document) {n : Notice} (shared : OfServices n) :
    (diagnostics d).warnings.count n = (sharedNotices (orderedServices d)).count n := by
  have absent : n ∉ (draft d).diagnostics.warnings := by
    intro member
    obtain ⟨service,notice,rfl,own⟩ := ofContainer_draft d n member
    cases shared with
    | isolation => cases own with | mount ofMount => cases ofMount
  rw [warnings_diagnostics,List.count_append,List.count_eq_zero.mpr absent,Nat.zero_add]

/-- A setting of a Pod as it is written. -/
def setting? (v : Yaml.Value) (key : String) : Option Yaml.Value :=
  (ComposeFile.fieldUnder? "spec" v).bind (ComposeFile.fieldUnder? key)

theorem setting?_restartPolicy (p : Pod) :
    setting? p.toValue "restartPolicy" = p.restart.map fun r => .string r.text := by
  simp [setting?,Pod.toValue]

theorem setting?_hostNetwork (p : Pod) :
    setting? p.toValue "hostNetwork" = if p.hostNetwork then some (.bool true) else none := by
  simp [setting?,Pod.toValue]

/-- Whatever the services, the restart policy of the Pod and its use of the host's network are
collapsed from theirs, and they do not depend on the order of the services. So it is with the services
of every document, in the order of starting: nothing else is noticed of these settings when their Pod
is made. -/
theorem pod_collapses_settings (services : List Service) :
    Collapsed services (chosenRestart services) (!(hostServices services).isEmpty)
      (sharedNotices services) ∧
    (∀ others, services.Perm others → chosenRestart others = chosenRestart services ∧
      (!(hostServices others).isEmpty) = !(hostServices services).isEmpty) ∧
    ∀ d, orderedServices d = services → ∀ o,
      Collapsed services (pod d o).restart (pod d o).hostNetwork (diagnostics d).warnings ∧
      setting? (pod d o).toValue "restartPolicy" = (chosenRestart services).map (.string ·.text) ∧
      setting? (pod d o).toValue "hostNetwork" =
        if (hostServices services).isEmpty then none else some (.bool true) := by
  refine ⟨collapsed_sharedNotices services,fun others perm => ⟨chosenRestart_perm perm,?_⟩,?_⟩
  · rw [hostServices,hostServices,(perm.filter _).isEmpty_eq]
  · rintro d rfl o
    refine ⟨(collapsed_sharedNotices _).of_count fun n => count_diagnostics d,
      setting?_restartPolicy _,?_⟩
    rw [setting?_hostNetwork]
    simp [pod]

/-- Three services with policies of their own, of which one is on the network of the host, one on none
and one on another one. -/
def crew : List Service :=
  [{ name := "jobs", image := "a", restart := some (.onFailure (some 3))
     networks := ["default","back"] },
    { name := "web", image := "b", restart := some .unlessStopped, networkMode := some .host },
    { name := "check", image := "c", restart := some .no, networkMode := some .none }]

theorem pod_collapses_settings_crew :
    chosenRestart crew.reverse = some .never ∧
      (sharedNotices crew).count (.restartOverridden .never ["jobs","web"]) = 1 ∧
      (sharedNotices crew).count (.hostNetworkShared ["web"]) = 1 ∧
      (sharedNotices crew).count (.networksShared ["jobs"]) = 1 ∧
      (sharedNotices crew).count (.inService "check" .isolationDropped) = 1 ∧
      (orderedServices { services := crew } = crew) ∧
      setting? (pod { services := crew } {}).toValue "restartPolicy" = some (.string "Never") := by
  have ordered : orderedServices { services := crew } = crew := by decide
  obtain ⟨collapsed,reordered,made⟩ := pod_collapses_settings crew
  have never : chosenRestart crew = some .never := collapsed.never.mpr (by decide)
  refine ⟨?_,?_,?_,?_,?_,ordered,?_⟩
  · rw [(reordered _ (List.reverse_perm crew).symm).1,never]
  · rw [collapsed.restartNotice]
    decide
  · rw [collapsed.hostNotice]
    decide
  · rw [collapsed.networkNotice]
    decide
  · rw [collapsed.isolationNotice]
    decide
  · rw [(made _ ordered {}).2.1,never]
    rfl

end Kube

end ComposeToPodman.Target
