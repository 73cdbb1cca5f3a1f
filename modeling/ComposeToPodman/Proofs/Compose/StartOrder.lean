import ComposeToPodman.Failure
import Mathlib.Data.List.Basic
import Mathlib.Logic.Relation

/-! The order of starting. `Search` is the depth-first search without a bound on its depth; the
bounded search agrees with it, so the bound never cuts a search short. An order comes out exactly
when no name that waits for itself can be reached from a service. -/
namespace ComposeToPodman.Compose

open Relation (ReflTransGen TransGen)

variable {dependencies : String → List String}

/-- One name waits for another. -/
def Waits (dependencies : String → List String) (a b : String) : Prop := b ∈ dependencies a

/-- Names are put behind an order one after another while those of the path wait. The result is the
order, or a name that waits for itself. -/
inductive Search (dependencies : String → List String) :
    List String → List String → List String → Except String (List String) → Prop
  | done : Search dependencies path order [] (.ok order)
  | finished (known : name ∈ order) (next : Search dependencies path order rest result) :
      Search dependencies path order (name :: rest) result
  | circle (unknown : name ∉ order) (waits : name ∈ path) :
      Search dependencies path order (name :: rest) (.error name)
  | entered (unknown : name ∉ order) (free : name ∉ path)
      (inner : Search dependencies (name :: path) order (dependencies name) (.ok reached))
      (next : Search dependencies path (reached ++ [name]) rest result) :
      Search dependencies path order (name :: rest) result
  | broken (unknown : name ∉ order) (free : name ∉ path)
      (inner : Search dependencies (name :: path) order (dependencies name) (.error culprit)) :
      Search dependencies path order (name :: rest) (.error culprit)

namespace Search

theorem unique {path order names : List String} {r s : Except String (List String)}
    (first : Search dependencies path order names r)
    (second : Search dependencies path order names s) : r = s := by
  induction first generalizing s with
  | done => cases second; rfl
  | finished known _ ih =>
    cases second with
    | finished _ next => exact ih next
    | circle unknown | entered unknown | broken unknown => exact absurd known unknown
  | circle unknown waits =>
    cases second with
    | finished known => exact absurd known unknown
    | circle => rfl
    | entered _ free | broken _ free => exact absurd waits free
  | entered unknown free _ _ ihInner ihNext =>
    cases second with
    | finished known => exact absurd known unknown
    | circle _ waits => exact absurd waits free
    | entered _ _ inner next =>
      obtain rfl := Except.ok.inj (ihInner inner)
      exact ihNext next
    | broken _ _ inner => cases ihInner inner
  | broken unknown free _ ih =>
    cases second with
    | finished known => exact absurd known unknown
    | circle _ waits => exact absurd waits free
    | entered _ _ inner => cases ih inner
    | broken _ _ inner => exact ih inner

theorem cons_of_ok {path order reached rest : List String} {name : String}
    {result : Except String (List String)}
    (head : Search dependencies path order [name] (.ok reached))
    (next : Search dependencies path reached rest result) :
    Search dependencies path order (name :: rest) result := by
  cases head with
  | finished known last => cases last; exact .finished known next
  | entered unknown free inner last => cases last; exact .entered unknown free inner next

theorem cons_of_error {path order rest : List String} {name culprit : String}
    (head : Search dependencies path order [name] (.error culprit)) :
    Search dependencies path order (name :: rest) (.error culprit) := by
  cases head with
  | finished _ last => cases last
  | circle unknown waits => exact .circle unknown waits
  | entered _ _ _ last => cases last
  | broken unknown free inner => exact .broken unknown free inner

theorem of_foldlM {path : List String} {find : List String → String → Except String (List String)}
    (each : ∀ order name, Search dependencies path order [name] (find order name))
    (names order : List String) :
    Search dependencies path order names (names.foldlM find order) := by
  induction names generalizing order with
  | nil => exact .done
  | cons name rest ih =>
    have head := each order name
    rw [List.foldlM_cons]
    cases found : find order name with
    | error culprit => exact cons_of_error (found ▸ head)
    | ok reached => exact cons_of_ok (found ▸ head) (ih reached)

/-- A bounded search is a search if its bound exceeds what the path leaves of the names that have
dependencies: only these can get onto the path, and each of them once. -/
theorem of_visit {names : List String} (waiting : ∀ name, dependencies name ≠ [] → name ∈ names)
    (fuel : Nat) (path order : List String) (name : String) (distinct : path.Nodup)
    (inside : path ⊆ names) (enough : names.length < fuel + path.length) :
    Search dependencies path order [name] (visit dependencies fuel path order name) := by
  induction fuel generalizing path order name with
  | zero =>
    have := distinct.length_le_of_subset inside
    omega
  | succ fuel ih =>
    rw [visit]
    split
    next known => exact .finished known .done
    next unknown =>
    split
    next waits => exact .circle unknown waits
    next free =>
      have inner : Search dependencies (name :: path) order (dependencies name)
          ((dependencies name).foldlM (visit dependencies fuel (name :: path)) order) := by
        by_cases leaf : dependencies name = []
        · rw [leaf]; exact .done
        · refine of_foldlM (fun order next => ih _ order next ?_ ?_ ?_) _ _
          · exact List.nodup_cons.mpr ⟨free,distinct⟩
          · exact List.cons_subset.mpr ⟨waiting name leaf,inside⟩
          · simp only [List.length_cons]; omega
      cases found : (dependencies name).foldlM (visit dependencies fuel (name :: path)) order with
      | error culprit => exact .broken unknown free (found ▸ inner)
      | ok reached => exact .entered unknown free (found ▸ inner) .done

end Search

/-- Each name stands behind all that it waits for. -/
def DependenciesFirst (dependencies : String → List String) (order : List String) : Prop :=
  ∀ before name after, order = before ++ name :: after → dependencies name ⊆ before

namespace DependenciesFirst

theorem nil : DependenciesFirst dependencies [] := by
  intro before name after split
  simp at split

theorem snoc {order : List String} {name : String} (first : DependenciesFirst dependencies order)
    (ready : dependencies name ⊆ order) : DependenciesFirst dependencies (order ++ [name]) := by
  intro before other after split
  rcases List.eq_nil_or_concat after with rfl | ⟨init,last,rfl⟩
  · obtain ⟨rfl,same⟩ := List.append_inj' split rfl
    obtain rfl : name = other := by simpa using same
    exact ready
  · have cut : order ++ [name] = (before ++ other :: init) ++ [last] := by simpa using split
    exact first before other init (List.append_inj' cut rfl).1

theorem idxOf_lt {order : List String} {a b : String} (first : DependenciesFirst dependencies order)
    (distinct : order.Nodup) (member : a ∈ order) (waits : Waits dependencies a b) :
    b ∈ order ∧ order.idxOf b < order.idxOf a := by
  obtain ⟨before,after,rfl⟩ := List.append_of_mem member
  have earlier : b ∈ before := first before a after rfl waits
  have apart : a ∉ before := fun inside =>
    (List.nodup_append.mp distinct).2.2 a inside a List.mem_cons_self rfl
  refine ⟨List.mem_append_left _ earlier,?_⟩
  rw [List.idxOf_append_of_mem earlier,List.idxOf_append_of_notMem apart]
  exact Nat.lt_of_lt_of_le (List.idxOf_lt_length_of_mem earlier) (Nat.le_add_right _ _)

theorem mem_of_reaches {order : List String} {a b : String}
    (first : DependenciesFirst dependencies order) (distinct : order.Nodup) (member : a ∈ order)
    (reaches : ReflTransGen (Waits dependencies) a b) : b ∈ order := by
  induction reaches with
  | refl => exact member
  | tail _ waits ih => exact (first.idxOf_lt distinct ih waits).1

/-- No name of such an order waits for itself, by however many steps. -/
theorem acyclic {order : List String} {a b : String} (first : DependenciesFirst dependencies order)
    (distinct : order.Nodup) (member : a ∈ order) (reaches : TransGen (Waits dependencies) a b) :
    order.idxOf b < order.idxOf a := by
  induction reaches with
  | single waits => exact (first.idxOf_lt distinct member waits).2
  | tail before waits ih =>
    have inside := first.mem_of_reaches distinct member before.to_reflTransGen
    exact Nat.lt_trans (first.idxOf_lt distinct inside waits).2 ih

end DependenciesFirst

/-- What is known of a search that found an order. -/
structure Search.Found (dependencies : String → List String) (path order names : List String)
    (reached : List String) : Prop where
  distinct : reached.Nodup
  first : DependenciesFirst dependencies reached
  grows : order ⊆ reached
  covers : names ⊆ reached
  /-- Nothing that waits is put behind the order. -/
  apart : ∀ name ∈ reached, name ∈ path → name ∈ order
  sound : ∀ name ∈ reached, name ∈ order ∨ ∃ start ∈ names,
    ReflTransGen (Waits dependencies) start name

theorem Search.found {path order names reached : List String}
    (search : Search dependencies path order names (.ok reached)) (distinct : order.Nodup)
    (first : DependenciesFirst dependencies order) :
    Search.Found dependencies path order names reached := by
  generalize outcome : Except.ok reached = result at search
  -- By induction on the search: a name is entered with its dependencies found and itself absent.
  induction search generalizing reached with
  | circle | broken => cases outcome
  | done =>
    obtain rfl := Except.ok.inj outcome
    exact ⟨distinct,first,List.Subset.refl _,List.nil_subset _,fun _ known _ => known,
      fun _ known => .inl known⟩
  | finished known _ ih =>
    have found := ih distinct first outcome
    refine ⟨found.distinct,found.first,found.grows,?_,found.apart,?_⟩
    · exact List.cons_subset.mpr ⟨found.grows known,found.covers⟩
    · intro name member
      exact (found.sound name member).imp_right fun ⟨start,among,reaches⟩ =>
        ⟨start,List.mem_cons_of_mem _ among,reaches⟩
  | @entered order name path middle rest result unknown free _ _ ihInner ihNext =>
    have inner := ihInner distinct first rfl
    have absent : name ∉ middle := fun member =>
      unknown (inner.apart name member List.mem_cons_self)
    have found := ihNext (List.nodup_append.mpr ⟨inner.distinct,by simp,by
        rintro a member b last rfl
        exact absent (List.mem_singleton.mp last ▸ member)⟩)
      (inner.first.snoc inner.covers) outcome
    refine ⟨found.distinct,found.first,?_,?_,?_,?_⟩
    · exact fun _ known => found.grows (List.mem_append_left _ (inner.grows known))
    · exact List.cons_subset.mpr ⟨found.grows (by simp),found.covers⟩
    · intro other member waits
      rcases List.mem_append.mp (found.apart other member waits) with early | last
      · exact inner.apart other early (List.mem_cons_of_mem _ waits)
      · exact absurd (List.mem_singleton.mp last ▸ waits) free
    · intro other member
      rcases found.sound other member with early | ⟨start,among,reaches⟩
      · rcases List.mem_append.mp early with early | last
        · refine (inner.sound other early).imp_right fun ⟨start,among,reaches⟩ => ?_
          exact ⟨name,List.mem_cons_self,ReflTransGen.head among reaches⟩
        · exact .inr ⟨name,List.mem_cons_self,List.mem_singleton.mp last ▸ .refl⟩
      · exact .inr ⟨start,List.mem_cons_of_mem _ among,reaches⟩

theorem Search.circular {path order names : List String} {culprit : String}
    (search : Search dependencies path order names (.error culprit))
    (leads : ∀ a ∈ path, ∀ b ∈ names, TransGen (Waits dependencies) a b) :
    TransGen (Waits dependencies) culprit culprit ∧
      ∃ start ∈ names, ReflTransGen (Waits dependencies) start culprit := by
  generalize outcome : Except.error culprit = result at search
  have later {start culprit : String} {name : String} {rest : List String} (among : start ∈ rest)
      (reaches : ReflTransGen (Waits dependencies) start culprit) :
      ∃ start ∈ name :: rest, ReflTransGen (Waits dependencies) start culprit :=
    ⟨start,List.mem_cons_of_mem _ among,reaches⟩
  -- By induction on the search: all of the path leads to each name that is looked at, so a name of
  -- the path that is met again closes a circle.
  induction search with
  | done => cases outcome
  | finished _ _ ih =>
    obtain ⟨circle,start,among,reaches⟩ := ih
      (fun a waits b among => leads a waits b (List.mem_cons_of_mem _ among)) outcome
    exact ⟨circle,later among reaches⟩
  | circle _ waits =>
    obtain rfl := Except.error.inj outcome
    exact ⟨leads _ waits _ List.mem_cons_self,_,List.mem_cons_self,.refl⟩
  | entered _ _ _ _ _ ih =>
    obtain ⟨circle,start,among,reaches⟩ := ih
      (fun a waits b among => leads a waits b (List.mem_cons_of_mem _ among)) outcome
    exact ⟨circle,later among reaches⟩
  | @broken order name path _ rest _ _ _ ih =>
    have extended : ∀ a ∈ name :: path, ∀ b ∈ dependencies name,
        TransGen (Waits dependencies) a b := by
      intro a waits b needed
      rcases List.mem_cons.mp waits with rfl | waits
      · exact .single needed
      · exact .tail (leads a waits name List.mem_cons_self) needed
    obtain ⟨circle,start,needed,reaches⟩ := ih extended outcome
    exact ⟨circle,name,List.mem_cons_self,ReflTransGen.head needed reaches⟩

namespace Document

def DependsOn (d : Document) : String → String → Prop := Waits d.dependencies

theorem mem_names_of_dependencies {d : Document} {name : String}
    (needs : d.dependencies name ≠ []) : name ∈ d.services.map (·.name) := by
  cases found : d.service? name with
  | none => simp [dependencies,found] at needs
  | some s =>
    have same : s.name = name := by simpa using List.find?_some found
    exact List.mem_map.mpr ⟨s,List.mem_of_find?_eq_some found,same⟩

/-- The bound of the search is never reached. -/
theorem search_startOrder (d : Document) :
    Search d.dependencies [] [] (d.services.map (·.name)) d.startOrder := by
  refine Search.of_foldlM (fun order name => ?_) _ _
  refine Search.of_visit (fun _ => mem_names_of_dependencies) _ _ _ _ .nil (List.nil_subset _) ?_
  simp

theorem startOrderOrFail_eq_ok {d : Document} {order : List String} :
    d.startOrderOrFail = .ok order ↔ d.startOrder = .ok order := by
  cases outcome : d.startOrder <;> simp [startOrderOrFail,outcome]

theorem startOrderOrFail_eq_error {d : Document} {e : ConversionError} :
    d.startOrderOrFail = .error e ↔
      ∃ name, d.startOrder = .error name ∧ e = .invalid [.circularDependency name] := by
  cases outcome : d.startOrder <;> simp [startOrderOrFail,outcome,eq_comm]

/-- Of the services only the names and the dependencies count. -/
theorem startOrder_map {d e : Document} {f : Service → Service}
    (services : e.services = d.services.map f) (name : ∀ s, (f s).name = s.name)
    (dependsOn : ∀ s, (f s).dependsOn = s.dependsOn) : e.startOrder = d.startOrder := by
  have names : e.services.map (·.name) = d.services.map (·.name) := by
    simp [services,name]
  have same : e.dependencies = d.dependencies := by
    funext n
    rw [Document.dependencies,service?_map services name,Document.dependencies]
    cases d.service? n with
    | none => rfl
    | some s => exact dependsOn s
  have length : e.services.length = d.services.length := by simp [services]
  rw [startOrder,names,same,length,startOrder]

theorem found_of_startOrder {d : Document} {order : List String}
    (ordered : d.startOrder = .ok order) :
    Search.Found d.dependencies [] [] (d.services.map (·.name)) order :=
  Search.found (ordered ▸ d.search_startOrder) .nil .nil

theorem mem_startOrder_iff {d : Document} {order : List String} {name : String}
    (ordered : d.startOrder = .ok order) :
    name ∈ order ↔ ∃ s ∈ d.services, ReflTransGen d.DependsOn s.name name := by
  have found := found_of_startOrder ordered
  constructor
  · intro member
    rcases found.sound name member with early | ⟨start,among,reaches⟩
    · cases early
    · obtain ⟨s,service,rfl⟩ := List.mem_map.mp among
      exact ⟨s,service,reaches⟩
  · rintro ⟨s,service,reaches⟩
    have member : s.name ∈ order := found.covers (List.mem_map.mpr ⟨s,service,rfl⟩)
    exact found.first.mem_of_reaches found.distinct member reaches

theorem circular_of_startOrder {d : Document} {name : String} (stuck : d.startOrder = .error name) :
    TransGen d.DependsOn name name ∧ ∃ s ∈ d.services, ReflTransGen d.DependsOn s.name name := by
  obtain ⟨circle,start,among,reaches⟩ := Search.circular (stuck ▸ d.search_startOrder) (by simp)
  obtain ⟨s,service,rfl⟩ := List.mem_map.mp among
  exact ⟨circle,s,service,reaches⟩

theorem startOrder_ok_iff {d : Document} :
    (∃ order, d.startOrder = .ok order) ↔
      ∀ s ∈ d.services, ∀ name, ReflTransGen d.DependsOn s.name name →
        ¬TransGen d.DependsOn name name := by
  constructor
  · rintro ⟨order,ordered⟩ s service name reaches circle
    have found := found_of_startOrder ordered
    have member : name ∈ order := (mem_startOrder_iff ordered).mpr ⟨s,service,reaches⟩
    exact Nat.lt_irrefl _ (found.first.acyclic found.distinct member circle)
  · intro acyclic
    cases outcome : d.startOrder with
    | ok order => exact ⟨order,rfl⟩
    | error name =>
      obtain ⟨circle,s,service,reaches⟩ := circular_of_startOrder outcome
      exact absurd circle (acyclic s service name reaches)

/-- Only services wait, so no circle escapes the search. -/
theorem acyclic_of_startOrder {d : Document} {order : List String}
    (ordered : d.startOrder = .ok order) (name : String) : ¬TransGen d.DependsOn name name := by
  intro circle
  obtain ⟨_,waits,_⟩ := TransGen.head'_iff.mp circle
  obtain ⟨s,service,rfl⟩ := List.mem_map.mp (mem_names_of_dependencies (List.ne_nil_of_mem waits))
  exact startOrder_ok_iff.mp ⟨order,ordered⟩ s service s.name .refl circle

/-- The search ends on every document, with the order or with a failure. It gives an order exactly
when no circle can be reached from a service; the order then holds once each what the services reach,
dependencies first. Otherwise the one problem of the document names a name on a circle. -/
theorem startOrder_topological (d : Document) :
    (∀ result, Search d.dependencies [] [] (d.services.map (·.name)) result ↔
      d.startOrder = result) ∧
    ((∃ order, d.startOrderOrFail = .ok order) ↔
      ∀ s ∈ d.services, ∀ name, ReflTransGen d.DependsOn s.name name →
        ¬TransGen d.DependsOn name name) ∧
    (∀ order, d.startOrderOrFail = .ok order →
      order.Nodup ∧
      (∀ name, name ∈ order ↔ ∃ s ∈ d.services, ReflTransGen d.DependsOn s.name name) ∧
      DependenciesFirst d.dependencies order) ∧
    (∀ e, d.startOrderOrFail = .error e →
      ∃ name, TransGen d.DependsOn name name ∧ e = .invalid [.circularDependency name] ∧
        e.messages = ["circular dependency detected for service '" ++ name ++ "'"]) := by
  refine ⟨fun _ => ⟨d.search_startOrder.unique,(· ▸ d.search_startOrder)⟩,?_,?_,?_⟩
  · simp only [startOrderOrFail_eq_ok]
    exact startOrder_ok_iff
  · intro order ordered
    rw [startOrderOrFail_eq_ok] at ordered
    have found := found_of_startOrder ordered
    exact ⟨found.distinct,fun _ => mem_startOrder_iff ordered,found.first⟩
  · intro e failed
    obtain ⟨name,stuck,rfl⟩ := startOrderOrFail_eq_error.mp failed
    exact ⟨name,(circular_of_startOrder stuck).1,rfl,rfl⟩

end Document

end ComposeToPodman.Compose
