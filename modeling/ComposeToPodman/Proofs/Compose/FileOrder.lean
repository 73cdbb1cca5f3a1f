import ComposeToPodman.Proofs.Compose.StartOrder
import Mathlib.Data.List.Nodup

/-! Start orders and the order of a file. A document whose services stand behind those that they depend
on is started in its own order, and only such a document is; so putting services in their start order
settles it. -/
namespace ComposeToPodman.Compose

open Relation (ReflTransGen TransGen)

variable {dependencies : String → List String}

namespace Search

theorem of_known {path order names : List String} (known : names ⊆ order) :
    Search dependencies path order names (.ok order) := by
  induction names with
  | nil => exact .done
  | cons name rest ih =>
    obtain ⟨head,tail⟩ := List.cons_subset.mp known
    exact .finished head (ih tail)

theorem in_order {order rest : List String} (distinct : (order ++ rest).Nodup)
    (first : DependenciesFirst dependencies (order ++ rest)) :
    Search dependencies [] order rest (.ok (order ++ rest)) := by
  -- By induction on the names to come: what the next one waits for is in the order already, so it
  -- is entered at once.
  induction rest generalizing order with
  | nil =>
    rw [List.append_nil]
    exact .done
  | cons name rest ih =>
    have unknown : name ∉ order := fun known =>
      (List.nodup_append.mp distinct).2.2 name known name List.mem_cons_self rfl
    have ready : dependencies name ⊆ order := first order name rest rfl
    have next : order ++ name :: rest = (order ++ [name]) ++ rest := by simp
    rw [next] at distinct first ⊢
    exact .entered unknown List.not_mem_nil (of_known ready) (ih distinct first)

end Search

namespace Document

variable {d : Document} {order : List String}

/-- Each service stands behind those that it depends on. -/
def DependsOnEarlier (d : Document) : Prop :=
  ∀ before s after, d.services = before ++ s :: after → ∀ n ∈ s.dependsOn, ∃ t ∈ before, t.name = n

/-- Services depend on services only. -/
def DependsOnServices (d : Document) : Prop :=
  ∀ s ∈ d.services, ∀ n ∈ s.dependsOn, ∃ t ∈ d.services, t.name = n

/-- The services with these names, in this order. -/
def inOrder (d : Document) (order : List String) : Document :=
  { d with services := order.filterMap d.service? }

theorem startOrder_eq_names_iff : d.startOrder = .ok (d.services.map (·.name)) ↔
    (d.services.map (·.name)).Nodup ∧
      DependenciesFirst d.dependencies (d.services.map (·.name)) := by
  constructor
  · intro ordered
    have found := found_of_startOrder ordered
    exact ⟨found.distinct,found.first⟩
  · rintro ⟨distinct,first⟩
    exact d.search_startOrder.unique (Search.in_order distinct first)

section Distinct

variable (distinct : (d.services.map (·.name)).Nodup)
include distinct

theorem service?_name {s : Service} (service : s ∈ d.services) : d.service? s.name = some s := by
  cases found : d.service? s.name with
  | none => exact absurd (List.find?_eq_none.mp found s service) (by simp)
  | some t =>
    have same : t.name = s.name := by simpa using List.find?_some found
    rw [List.inj_on_of_nodup_map distinct (List.mem_of_find?_eq_some found) service same]

theorem filterMap_service? : (d.services.map (·.name)).filterMap d.service? = d.services := by
  rw [List.filterMap_map]
  exact (List.filterMap_congr fun s service => service?_name distinct service).trans
    List.filterMap_some

theorem dependencies_name {s : Service} (service : s ∈ d.services) :
    d.dependencies s.name = s.dependsOn := by
  rw [dependencies,service?_name distinct service]

theorem dependenciesFirst_names_iff :
    DependenciesFirst d.dependencies (d.services.map (·.name)) ↔ d.DependsOnEarlier := by
  constructor
  · intro first before s after split n needed
    have service : s ∈ d.services := by simp [split]
    have names : d.services.map (·.name) = before.map (·.name) ++ s.name :: after.map (·.name) := by
      simp [split]
    have waits : n ∈ d.dependencies s.name := (dependencies_name distinct service).symm ▸ needed
    exact List.mem_map.mp (first _ _ _ names waits)
  · intro earlier before name after names n waits
    obtain ⟨front,_,split,rfl,back⟩ := List.map_eq_append_iff.mp names
    obtain ⟨s,rest,rfl,rfl,rfl⟩ := List.map_eq_cons_iff.mp back
    have service : s ∈ d.services := by simp [split]
    rw [dependencies_name distinct service] at waits
    exact List.mem_map.mpr (earlier front s rest split n waits)

section Known

variable (known : d.DependsOnServices) (ordered : d.startOrder = .ok order)
include known ordered

/-- If services only depend on services, the order has the name of each of them. -/
theorem startOrder_perm : order.Perm (d.services.map (·.name)) := by
  have found := found_of_startOrder ordered
  refine (List.perm_ext_iff_of_nodup found.distinct distinct).mpr fun name => ?_
  refine ⟨fun member => ?_,fun member => found.covers member⟩
  obtain ⟨s,service,reaches⟩ := (mem_startOrder_iff ordered).mp member
  cases reaches with
  | refl => exact List.mem_map_of_mem service
  | @tail other _ _ waits =>
    have named := mem_names_of_dependencies (List.ne_nil_of_mem waits)
    obtain ⟨t,second,rfl⟩ := List.mem_map.mp named
    have needed : name ∈ t.dependsOn := dependencies_name distinct second ▸ waits
    exact List.mem_map.mpr (known t second name needed)

theorem perm_inOrder : (d.inOrder order).services.Perm d.services := by
  have perm := (startOrder_perm distinct known ordered).filterMap d.service?
  rwa [filterMap_service? distinct] at perm

theorem names_inOrder : (d.inOrder order).services.map (·.name) = order := by
  rw [inOrder,List.map_filterMap]
  refine (List.filterMap_congr fun name member => ?_).trans List.filterMap_some
  obtain ⟨s,service,rfl⟩ :=
    List.mem_map.mp ((startOrder_perm distinct known ordered).mem_iff.mp member)
  rw [service?_name distinct service]
  rfl

theorem dependsOnEarlier_inOrder : (d.inOrder order).DependsOnEarlier := by
  intro before s after split n needed
  have service : s ∈ d.services := by
    refine (perm_inOrder distinct known ordered).mem_iff.mp ?_
    simp [split]
  have names : order = before.map (·.name) ++ s.name :: after.map (·.name) := by
    rw [← names_inOrder distinct known ordered,split]
    simp
  have waits : n ∈ d.dependencies s.name := (dependencies_name distinct service).symm ▸ needed
  have earlier := (found_of_startOrder ordered).first _ _ _ names waits
  exact List.mem_map.mp earlier

end Known

/-- A document is started in the order of its services exactly if each of them stands behind those
that it depends on. -/
theorem startOrder_eq_names : d.startOrder = .ok (d.services.map (·.name)) ↔ d.DependsOnEarlier := by
  rw [startOrder_eq_names_iff,dependenciesFirst_names_iff distinct,and_iff_right distinct]

end Distinct

/-- Services with distinct names are started in their own order exactly if each of them stands behind
those that it depends on. If they depend only on each other and never on themselves, there is an order
of starting, and in this order they are started in their own. -/
theorem startOrder_stable {d : Document} (distinct : (d.services.map (·.name)).Nodup) :
    (d.startOrderOrFail = .ok (d.services.map (·.name)) ↔ d.DependsOnEarlier) ∧
    (d.DependsOnServices → (∀ name, ¬TransGen d.DependsOn name name) →
      ∃ order, d.startOrderOrFail = .ok order ∧
        (d.inOrder order).services.Perm d.services ∧
        (d.inOrder order).services.map (·.name) = order ∧
        (d.inOrder order).startOrderOrFail = .ok order) := by
  simp only [startOrderOrFail_eq_ok]
  refine ⟨startOrder_eq_names distinct,fun known acyclic => ?_⟩
  obtain ⟨order,ordered⟩ := startOrder_ok_iff.mpr fun _ _ name _ => acyclic name
  have perm := perm_inOrder distinct known ordered
  have names := names_inOrder distinct known ordered
  have again : (d.inOrder order).startOrder = .ok ((d.inOrder order).services.map (·.name)) := by
    refine (startOrder_eq_names ?_).mpr (dependsOnEarlier_inOrder distinct known ordered)
    exact (perm.map _).nodup_iff.mpr distinct
  exact ⟨order,ordered,perm,names,again.trans (congrArg _ names)⟩

/-- Services in front of those that they depend on. -/
def backward : Document :=
  { services := [
      { name := "web", image := "web", dependsOn := ["cache","db","db"] },
      { name := "cache", image := "cache", dependsOn := ["db"] },
      { name := "db", image := "db" }] }

theorem startOrder_stable_backward :
    backward.startOrderOrFail = .ok ["db","cache","web"] ∧
      (backward.inOrder ["db","cache","web"]).startOrderOrFail = .ok ["db","cache","web"] ∧
      (backward.inOrder ["db","cache","web"]).DependsOnEarlier := by
  have ordered : backward.startOrderOrFail = .ok ["db","cache","web"] := by decide
  have acyclic := acyclic_of_startOrder (startOrderOrFail_eq_ok.mp ordered)
  obtain ⟨_,settles⟩ := startOrder_stable (d := backward) (by decide)
  obtain ⟨order,found,perm,names,again⟩ := settles (by unfold DependsOnServices; decide) acyclic
  obtain rfl : order = ["db","cache","web"] := Except.ok.inj (found.symm.trans ordered)
  have distinct : ((backward.inOrder ["db","cache","web"]).services.map (·.name)).Nodup := by decide
  exact ⟨ordered,again,(startOrder_stable distinct).1.mp (again.trans (congrArg _ names.symm))⟩

end Document

end ComposeToPodman.Compose
