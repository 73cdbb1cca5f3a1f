import ComposeToPodman.Proofs.Rule.Order
import Mathlib.Data.List.Forall2

/-! What a run of all rules achieves, and what it leaves alone. -/
namespace ComposeToPodman.Rule

open Compose

/-- What all rules together establish. -/
structure Settled (f : Format) (d : Document) : Prop where
  sockets : ∀ s ∈ d.services, ∀ m ∈ s.mounts, m.source ≠ "/var/run/docker.sock"
  images : ∀ s ∈ d.services, '/' ∈ s.image.toList
  relabels : ∀ s ∈ d.services, ∀ m ∈ s.mounts, m.kind = .bind →
    "z" ∈ m.options.toList ∨ "Z" ∈ m.options.toList
  restarts : f = .quadlet ∨ f = .kube → ∀ s ∈ d.services,
    s.restart ≠ some .unlessStopped ∧ ∀ n, s.restart ≠ some (.onFailure (some n))
  namespaces : ∀ s ∈ d.services, ∀ name, s.networkMode = some (.container name) →
    name ≠ s.name ∧ ∃ t ∈ d.services, t.name = name

/-- A mount and what the rules may make of it. -/
structure MountRevised (o : Options) (m n : Mount) : Prop where
  /-- Source and options are all that may change. -/
  others : n = { m with source := n.source, options := n.options }
  source : n.source =
    if m.source = "/var/run/docker.sock" then "/run/podman/podman.sock" else m.source
  options : n.options = m.options ∨
    m.kind = .bind ∧ n.options = m.options.insert o.relabel.option

/-- A restart policy and what the rules may make of it. -/
inductive RestartRevised (f : Format) : Option RestartPolicy → Option RestartPolicy → Prop
  | kept : RestartRevised f p p
  | limit (format : f ≠ .podmanCompose) :
      RestartRevised f (some (.onFailure (some n))) (some (.onFailure none))
  | always (format : f ≠ .podmanCompose) :
      RestartRevised f (some .unlessStopped) (some .always)

/-- A service and what the rules may make of it. -/
structure ServiceRevised (c : Context) (s t : Service) : Prop where
  /-- Image, mounts and restart policy are all that may change. -/
  others : t = { s with image := t.image, mounts := t.mounts, restart := t.restart }
  image : t.image = if '/' ∈ s.image.toList then s.image else "docker.io/library/" ++ s.image
  mounts : List.Forall₂ (MountRevised c.options) s.mounts t.mounts
  restart : RestartRevised c.format s.restart t.restart

/-- A document and what the rules may make of it. -/
structure Revised (c : Context) (d e : Document) : Prop where
  /-- The services are all that may change. -/
  others : e = { d with services := e.services }
  services : List.Forall₂ (ServiceRevised c) d.services e.services

theorem labelled_rewriteMount (o : Options) {m : Mount} (bind : (rewriteMount o m).kind = .bind) :
    "z" ∈ (rewriteMount o m).options.toList ∨ "Z" ∈ (rewriteMount o m).options.toList := by
  have labelled : (rewriteMount o m).hasRelabel = true := by
    unfold rewriteMount relabel at bind ⊢
    split
    next => exact hasRelabel_of_insert o.relabel (replaceSocket m)
    next kept =>
      rw [if_neg kept] at bind
      simpa [bind] using kept
  rw [Mount.hasRelabel,Bool.or_eq_true] at labelled
  exact labelled.imp Dict.contains_iff.mp Dict.contains_iff.mp

theorem revised_rewriteMount (o : Options) (m : Mount) : MountRevised o m (rewriteMount o m) := by
  have moved : (replaceSocket m).kind = m.kind ∧ (replaceSocket m).options = m.options := by
    unfold replaceSocket
    split <;> exact ⟨rfl,rfl⟩
  refine ⟨?_,source_rewriteMount o m,?_⟩
  · have target : (rewriteMount o m).target = m.target := by simp [rewriteMount]
    rw [← kind_rewriteMount o m,← target]
  · rw [← moved.1,← moved.2,rewriteMount,relabel]
    split
    next bare => exact .inr ⟨bare.1,rfl⟩
    next => exact .inl rfl

theorem ofImage_eq_official_iff (image : String) :
    Reference.ofImage image = .official ↔ '/' ∉ image.toList := by
  rw [← Text.cut?_eq_none_iff,Reference.ofImage]
  cases Text.cut? '/' image.toList with
  | none => simp
  | some parts => simp only [reduceCtorEq,iff_false]; split <;> decide

theorem qualify_eq (image : String) :
    qualify image =
      if '/' ∈ image.toList then image else "docker.io/library/" ++ image := by
  rw [qualify]
  by_cases slash : '/' ∈ image.toList
  · rw [if_pos slash,if_neg (mt (ofImage_eq_official_iff image).mp (not_not_intro slash))]
  · rw [if_neg slash,if_pos ((ofImage_eq_official_iff image).mpr slash)]
    rfl

theorem slash_mem_qualify (image : String) : '/' ∈ (qualify image).toList := by
  rw [qualify_eq]
  split
  next slash => exact slash
  next => simp

theorem revised_restrict (f : Format) (p : Option RestartPolicy) :
    RestartRevised f p (p.map (restrict f)) := by
  by_cases compose : f = .podmanCompose
  · subst compose
    have same : p.map (restrict .podmanCompose) = p := by
      cases p <;> simp
    rw [same]
    exact .kept
  · have drops : f.keepsRetries = false ∧ f.keepsUnlessStopped = false := by
      simp [Format.keepsRetries,Format.keepsUnlessStopped,compose]
    rcases p with _ | _ | _ | _ | _ | n
    · exact .kept
    · exact .kept
    · exact .kept
    · simpa [restrict,drops.2] using RestartRevised.always compose
    · exact .kept
    · simpa [restrict,drops.1] using RestartRevised.limit compose

theorem restrict_expressible {f : Format} (unit : f = .quadlet ∨ f = .kube)
    (p : Option RestartPolicy) :
    p.map (restrict f) ≠ some .unlessStopped ∧
      ∀ n, p.map (restrict f) ≠ some (.onFailure (some n)) := by
  have drops : f.keepsRetries = false ∧ f.keepsUnlessStopped = false := by
    rcases unit with rfl | rfl <;> exact ⟨rfl,rfl⟩
  rcases p with _ | _ | _ | _ | _ | n <;> simp [restrict,drops]

theorem joined_namespace {d : Document} (joined : d.services.findSome? (dangling? d) = none)
    {s : Service} (member : s ∈ d.services) {name : String}
    (joins : s.networkMode = some (.container name)) :
    name ≠ s.name ∧ ∃ t ∈ d.services, t.name = name := by
  have resolved := List.findSome?_eq_none_iff.mp joined s member
  rw [dangling?,joins] at resolved
  dsimp only at resolved
  split at resolved
  next => cases resolved
  next other =>
    split at resolved
    next found =>
      obtain ⟨t,there⟩ := Option.isSome_iff_exists.mp found
      exact ⟨other,t,List.mem_of_find?_eq_some there,by simpa using List.find?_some there⟩
    next => cases resolved

theorem settled_rewrite {c : Context} {d : Document}
    (joined : d.services.findSome? (dangling? d) = none) : Settled c.format (rewrite c d) := by
  refine ⟨?_,?_,?_,?_,?_⟩
  · intro s member m mount
    obtain ⟨s,_,rfl⟩ := List.mem_map.mp member
    obtain ⟨m,_,rfl⟩ := List.mem_map.mp mount
    rw [rewriteMount,source_relabel]
    exact source_replaceSocket m
  · intro s member
    obtain ⟨s,_,rfl⟩ := List.mem_map.mp member
    exact slash_mem_qualify s.image
  · intro s member m mount bind
    obtain ⟨s,_,rfl⟩ := List.mem_map.mp member
    obtain ⟨m,_,rfl⟩ := List.mem_map.mp mount
    exact labelled_rewriteMount c.options bind
  · intro unit s member
    obtain ⟨s,_,rfl⟩ := List.mem_map.mp member
    exact restrict_expressible unit s.restart
  · intro s member name joins
    refine joined_namespace ?_ member joins
    rw [findSome?_dangling?_rewrite,joined]

theorem revised_rewrite (c : Context) (d : Document) : Revised c d (rewrite c d) := by
  refine ⟨rfl,List.forall₂_map_right_iff.mpr (List.forall₂_same.mpr fun s _ => ?_)⟩
  refine ⟨rfl,qualify_eq s.image,?_,revised_restrict c.format s.restart⟩
  exact List.forall₂_map_right_iff.mpr
    (List.forall₂_same.mpr fun m _ => revised_rewriteMount c.options m)

/-- A run of all rules that succeeds establishes what each rule is for, and changes nothing else: no
later rule undoes what an earlier one has done. -/
theorem run_all_settles_and_preserves {c : Context} {d : Document} {w : Revision}
    (ran : run c all d = .ok w) : Settled c.format w.document ∧ Revised c d w.document := by
  have made : w.document = rewrite c d := by
    rw [(run_eq_ok ran).2,changed_all]
  rw [made]
  exact ⟨settled_rewrite (joined_of_run_all ran),revised_rewrite c d⟩

theorem run_all_settles_and_preserves_monitored :
    ∃ w, run ⟨.kube,{}⟩ all monitored = .ok w ∧ Settled .kube w.document ∧
      Revised ⟨.kube,{}⟩ monitored w.document ∧ w.document ≠ monitored := by
  have joined : monitored.services.findSome? (dangling? monitored) = none := by rfl
  obtain ⟨noticed,ran⟩ := run_all_of_joined joined ⟨.kube,{}⟩
  obtain ⟨settled,revised⟩ := run_all_settles_and_preserves ran
  have rewritten : rewrite ⟨.kube,{}⟩ monitored ≠ monitored := by decide
  exact ⟨_,ran,settled,revised,rewritten⟩

end ComposeToPodman.Rule
