import ComposeToPodman.Proofs.Conversion
import ComposeToPodman.Proofs.Rule.Effect

/-! Network namespaces that services join. The check sees to it that each is there and is another
service's. Followed from service to service, they end at one that is not shared any further, unless
they go round in a circle: the check looks at one step, and finds circles of one service only. -/
namespace ComposeToPodman.Rule

open Compose
open Relation (ReflTransGen TransGen)

variable {d : Document} {s t u : Service}

/-- A service is in the network namespace of another. -/
def Joins (d : Document) (s t : Service) : Prop :=
  ∃ name, s.networkMode = some (.container name) ∧ d.service? name = some t

/-- From a service one comes, by whatever number of steps, to one that joins nobody's namespace. -/
def Grounded (d : Document) (s : Service) : Prop :=
  ∃ t ∈ d.services, ReflTransGen (Joins d) s t ∧ ∀ name, t.networkMode ≠ some (.container name)

/-- From a service one comes to one that is in its own namespace, by way of others. -/
def Circular (d : Document) (s : Service) : Prop :=
  ∃ t, ReflTransGen (Joins d) s t ∧ TransGen (Joins d) t t

theorem Joins.unique (first : Joins d s t) (second : Joins d s u) : t = u := by
  obtain ⟨name,mode,found⟩ := first
  obtain ⟨other,same,otherFound⟩ := second
  obtain rfl := NetworkMode.container.inj (Option.some.inj (mode.symm.trans same))
  exact Option.some.inj (found.symm.trans otherFound)

theorem Joins.service (joins : Joins d s t) : t ∈ d.services := by
  obtain ⟨_,_,found⟩ := joins
  exact List.mem_of_find?_eq_some found

theorem mem_of_reaches (service : s ∈ d.services) (reaches : ReflTransGen (Joins d) s t) :
    t ∈ d.services := by
  cases reaches with
  | refl => exact service
  | tail _ joins => exact joins.service

theorem Grounded.of_joins (joins : Joins d s t) (grounded : Grounded d t) : Grounded d s := by
  obtain ⟨u,service,reaches,last⟩ := grounded
  exact ⟨u,service,.head joins reaches,last⟩

theorem Circular.of_joins (joins : Joins d s t) (circular : Circular d t) : Circular d s := by
  obtain ⟨u,reaches,circle⟩ := circular
  exact ⟨u,.head joins reaches,circle⟩

theorem Grounded.not_circular (grounded : Grounded d s) : ¬Circular d s := by
  obtain ⟨last,_,reaches,free⟩ := grounded
  have stuck (u : Service) : ¬Joins d last u := fun ⟨name,mode,_⟩ => free name mode
  -- By induction on the way to the end: each service has one way on, so a circle that is met from
  -- one of them is met from the next.
  induction reaches using ReflTransGen.head_induction_on with
  | refl =>
    rintro ⟨t,reaches,circle⟩
    rcases reaches.cases_head with rfl | ⟨u,joins,_⟩
    · obtain ⟨u,joins,_⟩ := TransGen.head'_iff.mp circle
      exact stuck u joins
    · exact stuck u joins
  | @head first next joins _ ih =>
    rintro ⟨t,reaches,circle⟩
    rcases reaches.cases_head with rfl | ⟨u,other,rest⟩
    · obtain ⟨u,other,rest⟩ := TransGen.head'_iff.mp circle
      obtain rfl := joins.unique other
      exact ih ⟨next,.refl,.tail' rest joins⟩
    · obtain rfl := joins.unique other
      exact ih ⟨t,rest,circle⟩

section Joined

variable (joined : d.services.findSome? (dangling? d) = none)
include joined

theorem exists_joins (service : s ∈ d.services) {name : String}
    (mode : s.networkMode = some (.container name)) :
    ∃ t ∈ d.services, t.name = name ∧ t ≠ s ∧ Joins d s t := by
  obtain ⟨other,t,member,rfl⟩ := joined_namespace joined service mode
  obtain ⟨u,found⟩ : ∃ u, d.service? t.name = some u :=
    Option.isSome_iff_exists.mp (List.find?_isSome.mpr ⟨t,member,by simp⟩)
  have same : u.name = t.name := by simpa using List.find?_some found
  have joins : Joins d s u := ⟨t.name,mode,found⟩
  refine ⟨u,joins.service,same,?_,joins⟩
  rintro rfl
  exact other same.symm

theorem grounded_or_circular_of_path (bound : Nat) (path : List Service) (distinct : path.Nodup)
    (inside : path ⊆ d.services) (leads : ∀ t ∈ path, TransGen (Joins d) t s)
    (enough : d.services.length < bound + path.length) (service : s ∈ d.services) :
    Grounded d s ∨ Circular d s := by
  -- By induction on a bound: the services on the way so far are distinct, so there are no more of
  -- them than the document has, and one that is met again closes a circle.
  induction bound generalizing path s with
  | zero =>
    have := distinct.length_le_of_subset inside
    omega
  | succ bound ih =>
    by_cases met : s ∈ path
    · exact .inr ⟨s,.refl,leads s met⟩
    by_cases free : ∀ name, s.networkMode ≠ some (.container name)
    · exact .inl ⟨s,service,.refl,free⟩
    obtain ⟨name,mode⟩ := not_forall_not.mp free
    obtain ⟨t,member,_,_,joins⟩ := exists_joins joined service mode
    have further : ∀ u ∈ s :: path, TransGen (Joins d) u t := by
      refine List.forall_mem_cons.mpr ⟨.single joins,fun u waits => ?_⟩
      exact .tail (leads u waits) joins
    refine (ih (s :: path) (List.nodup_cons.mpr ⟨met,distinct⟩) ?_ further ?_ member).imp
      (.of_joins joins) (.of_joins joins)
    · exact List.cons_subset.mpr ⟨service,inside⟩
    · simp only [List.length_cons]
      omega

theorem grounded_or_circular (service : s ∈ d.services) : Grounded d s ∨ Circular d s :=
  grounded_or_circular_of_path joined (d.services.length + 1) [] .nil (List.nil_subset _) (by simp)
    (by simp) service

end Joined

theorem checkNamespaces_eq_ok {w : Revision} (checked : checkNamespaces d = .ok w) :
    d.services.findSome? (dangling? d) = none := by
  unfold checkNamespaces at checked
  split at checked
  next => cases checked
  next joined => exact joined

/-- Where the check succeeds, a service that joins a namespace joins that of another service, which is
there. So following the namespaces from a service comes to an end exactly if it does not come to a
circle, and it does so from every service exactly if none is in its own namespace by way of others. -/
theorem grounded_iff_of_checkNamespaces {d : Document} {w : Revision}
    (checked : checkNamespaces d = .ok w) :
    (∀ s ∈ d.services, ∀ name, s.networkMode = some (.container name) →
      ∃ t ∈ d.services, t.name = name ∧ t ≠ s ∧ Joins d s t) ∧
    (∀ s ∈ d.services, Grounded d s ↔ ¬Circular d s) ∧
    ((∀ s ∈ d.services, Grounded d s) ↔ ∀ s ∈ d.services, ¬TransGen (Joins d) s s) := by
  have joined := checkNamespaces_eq_ok checked
  have grounded (s : Service) (service : s ∈ d.services) : Grounded d s ↔ ¬Circular d s :=
    ⟨Grounded.not_circular,(grounded_or_circular joined service).resolve_right⟩
  refine ⟨fun s service name mode => exists_joins joined service mode,grounded,?_⟩
  constructor
  · intro ends s service circle
    exact (ends s service).not_circular ⟨s,.refl,circle⟩
  · intro free s service
    refine (grounded s service).mpr fun ⟨t,reaches,circle⟩ => ?_
    exact free t (mem_of_reaches service reaches) circle

/-- A service in the namespace of one that is in the host's, by way of a third. -/
def convoy : Document :=
  { services := [
      { name := "web", image := "web", networkMode := some (.container "proxy") },
      { name := "proxy", image := "proxy", networkMode := some (.container "vpn") },
      { name := "vpn", image := "vpn", networkMode := some .host }] }

theorem grounded_iff_of_checkNamespaces_convoy :
    checkNamespaces convoy = .ok ⟨convoy,[]⟩ ∧
      ∀ s ∈ convoy.services, ¬TransGen (Joins convoy) s s := by
  have checked : checkNamespaces convoy = .ok ⟨convoy,[]⟩ := by rfl
  obtain ⟨_,_,ends⟩ := grounded_iff_of_checkNamespaces checked
  refine ⟨checked,ends.mp ?_⟩
  have vpn : Grounded convoy { name := "vpn", image := "vpn", networkMode := some .host } :=
    ⟨_,by decide,.refl,by simp⟩
  have proxy : Grounded convoy
      { name := "proxy", image := "proxy", networkMode := some (.container "vpn") } :=
    .of_joins ⟨"vpn",rfl,rfl⟩ vpn
  have web : Grounded convoy
      { name := "web", image := "web", networkMode := some (.container "proxy") } :=
    .of_joins ⟨"proxy",rfl,rfl⟩ proxy
  simpa [convoy] using ⟨web,proxy,vpn⟩

/-- Two services, each in the namespace of the other. -/
def deadlockText : String := "services:
  web:
    image: docker.io/library/web
    network_mode: service:vpn
  vpn:
    image: docker.io/library/vpn
    network_mode: service:web
"

def deadlock : Document :=
  { services := [
      { name := "web", image := "docker.io/library/web", networkMode := some (.container "vpn") },
      { name := "vpn", image := "docker.io/library/vpn", networkMode := some (.container "web") }] }

/-- The document is read and converted, and no service of it comes to a namespace of its own. -/
theorem namespaces_circular_deadlock :
    Document.read deadlockText = .ok (deadlock,[]) ∧ (deadlock.services.map (·.name)).Nodup ∧
      checkNamespaces deadlock = .ok ⟨deadlock,[]⟩ ∧
      (∀ f, ∃ t, convertTo {} f deadlockText = .ok t) ∧
      ∀ s ∈ deadlock.services, TransGen (Joins deadlock) s s ∧ ¬Grounded deadlock s := by
  have read : Document.read deadlockText = .ok (deadlock,[]) := by decide +kernel
  have joined : deadlock.services.findSome? (dangling? deadlock) = none := by rfl
  refine ⟨read,by decide,by rfl,fun f => ?_,?_⟩
  · obtain ⟨t,converted,_⟩ := convertTo_of_read (o := {}) (f := f) read joined
    exact ⟨t,converted⟩
  · have circle : ∀ s ∈ deadlock.services, TransGen (Joins deadlock) s s := by
      have first : Joins deadlock
          { name := "web", image := "docker.io/library/web", networkMode := some (.container "vpn") }
          { name := "vpn", image := "docker.io/library/vpn", networkMode := some (.container "web") } :=
        ⟨"vpn",rfl,rfl⟩
      have second : Joins deadlock
          { name := "vpn", image := "docker.io/library/vpn", networkMode := some (.container "web") }
          { name := "web", image := "docker.io/library/web", networkMode := some (.container "vpn") } :=
        ⟨"web",rfl,rfl⟩
      simpa [deadlock] using
        ⟨TransGen.tail (.single first) second,TransGen.tail (.single second) first⟩
    exact fun s service =>
      ⟨circle s service,fun grounded => grounded.not_circular ⟨s,.refl,circle s service⟩⟩

end ComposeToPodman.Rule
