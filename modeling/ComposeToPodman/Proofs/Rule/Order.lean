import ComposeToPodman.Proofs.Rule.Rewrite
import Mathlib.Data.List.Perm.Basic

/-! Lists of rules. A rule that has changed a service changes it no further, and any two rules change
it alike in either order. So the order in which rules run, and how often, does not matter. -/
namespace ComposeToPodman.Rule

open Compose

theorem replaceSocket_replaceSocket (m : Mount) :
    replaceSocket (replaceSocket m) = replaceSocket m :=
  replaceSocket_eq_self (source_replaceSocket m)

theorem restrict_restrict (f : Format) (p : RestartPolicy) :
    restrict f (restrict f p) = restrict f p := by
  cases p with
  | no | always => rfl
  | unlessStopped => cases f <;> rfl
  | onFailure retries => cases retries <;> cases f <;> rfl

theorem change_change (c : Context) (s : Service) (r : Rule) :
    change c (change c s r) r = change c s r := by
  cases r with
  | sockets => simp [change,Function.comp_def,replaceSocket_replaceSocket]
  | images => simp [change]
  | relabels => simp [change,Function.comp_def,relabel_relabel]
  | restarts => simp [change,Function.comp_def,restrict_restrict]
  | namespaces => rfl

/-- The source of a mount does not matter to its label, nor the label to the source. -/
theorem relabel_replaceSocket (option : String) (m : Mount) :
    relabel option (replaceSocket m) = replaceSocket (relabel option m) := by
  by_cases socket : m.source = dockerSocket
  · have labelled : (relabel option m).source = dockerSocket := by simpa using socket
    rw [replaceSocket,if_pos socket,replaceSocket,if_pos labelled]
    unfold relabel
    by_cases bare : m.kind = .bind ∧ !m.hasRelabel
    · rw [if_pos bare]
      exact if_pos bare
    · rw [if_neg bare]
      exact if_neg bare
  · have labelled : (relabel option m).source ≠ dockerSocket := by simpa using socket
    rw [replaceSocket_eq_self socket,replaceSocket_eq_self labelled]

/-- Only the rules about mounts change the same part of a service. -/
theorem change_comm (c : Context) (s : Service) (r q : Rule) :
    change c (change c s r) q = change c (change c s q) r := by
  have mounts : change c (change c s sockets) relabels =
      change c (change c s relabels) sockets := by
    simp [change,Function.comp_def,relabel_replaceSocket]
  cases r with
  | sockets =>
    cases q with
    | relabels => exact mounts
    | _ => rfl
  | relabels =>
    cases q with
    | sockets => exact mounts.symm
    | _ => rfl
  | images | restarts | namespaces => cases q <;> rfl

instance (c : Context) : RightCommutative (change c) := ⟨change_comm c⟩

theorem foldl_change_of_mem {c : Context} {rules : List Rule} {r : Rule} (member : r ∈ rules)
    (s : Service) : rules.foldl (change c) (change c s r) = rules.foldl (change c) s := by
  -- By induction on the rules: the rule that stands first in the run meets itself again.
  induction rules generalizing s with
  | nil => cases member
  | cons q rest ih =>
    rw [List.foldl_cons,List.foldl_cons]
    rcases List.mem_cons.mp member with rfl | later
    · rw [change_change]
    · rw [change_comm,ih later]

theorem foldl_change_of_subset {c : Context} {rules others : List Rule} (within : others ⊆ rules)
    (s : Service) : (others ++ rules).foldl (change c) s = rules.foldl (change c) s := by
  induction others generalizing s with
  | nil => rfl
  | cons r rest ih =>
    obtain ⟨member,within⟩ := List.cons_subset.mp within
    rw [List.cons_append,List.foldl_cons,ih within,foldl_change_of_mem member]

theorem foldl_change_of_same {c : Context} {rules others : List Rule}
    (same : ∀ r, r ∈ rules ↔ r ∈ others) (s : Service) :
    rules.foldl (change c) s = others.foldl (change c) s := by
  calc rules.foldl (change c) s
    _ = (others ++ rules).foldl (change c) s :=
      (foldl_change_of_subset (fun r => (same r).mpr) s).symm
    _ = (rules ++ others).foldl (change c) s := List.perm_append_comm.foldl_eq s
    _ = others.foldl (change c) s := foldl_change_of_subset (fun r => (same r).mp) s

theorem changed_of_same {rules others : List Rule} (same : ∀ r, r ∈ rules ↔ r ∈ others)
    (c : Context) (d : Document) : changed c rules d = changed c others d := by
  simp [changed,foldl_change_of_same same]

theorem missing?_of_same {rules others : List Rule} (same : ∀ r, r ∈ rules ↔ r ∈ others)
    (d : Document) : missing? rules d = missing? others d := by
  simp [missing?,same namespaces]

theorem changed_changed (c : Context) (rules : List Rule) (d : Document) :
    changed c rules (changed c rules d) = changed c rules d := by
  rw [← changed_append]
  exact changed_of_same (by simp) c d

/-- A run is decided by which rules are in the list: whatever their order and number, it gives the
same document or the same error. The built-in rules change nothing in what they have made. -/
theorem run_decided_by_members (c : Context) (d : Document) :
    (∀ rules others : List Rule, (∀ r, r ∈ rules ↔ r ∈ others) →
      (∃ v w, run c rules d = .ok v ∧ run c others d = .ok w ∧ v.document = w.document) ∨
        ∃ f g, run c rules d = .error f ∧ run c others d = .error g ∧ f.error = g.error) ∧
    ∀ w, run c all d = .ok w → ∃ v, run c all w.document = .ok v ∧ v.document = w.document := by
  constructor
  · intro rules others same
    obtain ⟨noticed,ran⟩ := run_eq c rules d
    obtain ⟨alsoNoticed,alsoRan⟩ := run_eq c others d
    rw [missing?_of_same same,changed_of_same same] at ran
    cases missing : missing? others d with
    | none =>
      rw [missing] at ran alsoRan
      exact .inl ⟨_,_,ran,alsoRan,rfl⟩
    | some reference =>
      rw [missing] at ran alsoRan
      exact .inr ⟨_,_,ran,alsoRan,rfl⟩
  · intro w ran
    obtain ⟨joined,made⟩ := run_eq_ok ran
    obtain ⟨noticed,again⟩ := run_eq c all w.document
    rw [made,missing?_changed,joined,changed_changed] at again
    refine ⟨⟨w.document,noticed⟩,?_,rfl⟩
    rw [made]
    exact again

/-- Two services, one in the namespace of the other, to which every rule applies. -/
def monitored : Document :=
  { services := [
      { name := "agent"
        image := "agent:2"
        mounts := [{ source := dockerSocket, target := dockerSocket, kind := .bind }]
        networkMode := some (.container "web") },
      { name := "web"
        image := "acme/web"
        mounts := [
          { source := "/srv", target := "/srv", kind := .bind, options := TextSet.ofList ["Z"] },
          { source := "data", target := "/data", kind := .volume }]
        restart := some (.onFailure (some 5)) }] }

theorem run_decided_by_members_monitored :
    (∀ r, r ∈ [restarts,namespaces,relabels,sockets,restarts] ↔
      r ∈ [namespaces,namespaces,sockets,restarts,relabels]) ∧
    ∃ v w, run ⟨.kube,{}⟩ [restarts,namespaces,relabels,sockets,restarts] monitored = .ok v ∧
      run ⟨.kube,{}⟩ [namespaces,namespaces,sockets,restarts,relabels] monitored = .ok w ∧
      v.document = w.document ∧ v.document ≠ monitored := by
  have same : ∀ r, r ∈ [restarts,namespaces,relabels,sockets,restarts] ↔
      r ∈ [namespaces,namespaces,sockets,restarts,relabels] := by
    intro r
    cases r <;> decide
  refine ⟨same,?_⟩
  rcases (run_decided_by_members ⟨.kube,{}⟩ monitored).1 _ _ same with
    ⟨v,w,first,second,equal⟩ | ⟨f,_,failed,_⟩
  · refine ⟨v,w,first,second,equal,?_⟩
    rw [(run_eq_ok first).2]
    decide
  · cases failed

end ComposeToPodman.Rule
