import ComposeToPodman.Proofs.Compose.RoundTrip
import ComposeToPodman.Proofs.Rule.Rewrite

/-! A rewritten document is as well-formed as before, and still has a compose file that tells all of
it. -/
namespace ComposeToPodman.Rule

open Compose

theorem complete_rewriteMount {o : Options} {m : Mount} (complete : m.Complete) :
    (rewriteMount o m).Complete := by
  refine ⟨?_,by simpa [rewriteMount] using complete.target⟩
  rw [source_rewriteMount,renamed]
  split
  next => decide
  next => exact complete.source

/-- Neither socket is the name of a volume, and both look like paths. -/
theorem portable_replaceSocket {volumes : Dict Volume} {m : Mount}
    (names : ∀ name ∈ volumes.keys, isName name = true) (portable : m.Portable volumes) :
    (replaceSocket m).Portable volumes := by
  have undeclared (path : String) (slash : isName path = false) : volumes.contains path = false := by
    cases declared : volumes.contains path with
    | false => rfl
    | true => exact absurd (names path (Dict.contains_iff.mp declared)) (by simp [slash])
  unfold replaceSocket
  split
  next socket =>
    have kind := portable.kind
    rw [socket,undeclared dockerSocket (by decide)] at kind
    refine ⟨?_,portable.target,?_,portable.options⟩
    · change ':' ∉ podmanSocket.toList
      decide
    · change m.kind = .volume ↔ volumes.contains podmanSocket = true ∨
        isPathLike podmanSocket.toList = false
      rw [kind,undeclared podmanSocket (by decide)]
      decide
  next => exact portable

theorem portable_relabel {volumes : Dict Volume} {r : Relabel} {m : Mount}
    (portable : m.Portable volumes) : (relabel r.option m).Portable volumes := by
  unfold relabel
  split
  next =>
    refine ⟨portable.source,portable.target,portable.kind,fun o member => ?_⟩
    rcases TextSet.mem_of_mem_insert member with rfl | old
    · cases r <;> decide
    · exact portable.options o old
  next => exact portable

theorem trim_qualify {image : String} (trimmed : Text.trim image = image) (nonempty : image ≠ "") :
    Text.trim (qualify image) = qualify image := by
  unfold qualify
  split
  next =>
    refine Text.trim_eq_self ?_
    rw [String.toList_append]
    exact Text.Trimmed.append (.of_visible rfl) (Text.trimmed_of_trim_eq trimmed) (by decide)
      (by simpa using nonempty)
  next => exact trimmed

theorem qualify_ne_empty {image : String} (nonempty : image ≠ "") : qualify image ≠ "" := by
  unfold qualify
  split
  next => simp [hubLibrary]
  next => exact nonempty

theorem bounded_restrict {f : Format} {p : RestartPolicy} (bounded : p.Bounded) :
    (restrict f p).Bounded := by
  unfold restrict
  split
  next => split <;> [exact bounded; exact fun _ other => nomatch other]
  next => split <;> exact fun _ other => nomatch other
  next => exact bounded

theorem wellFormed_rewriteService {c : Context} {names : List String} {networks : Dict Network}
    {s : Service} (wellFormed : s.WellFormed names networks) :
    (rewriteService c s).WellFormed names networks := by
  refine
    { wellFormed with
      image := trim_qualify wellFormed.image wellFormed.hasImage
      mounts := fun m member => ?_
      restart := fun p given => ?_
      hasImage := qualify_ne_empty wellFormed.hasImage }
  · obtain ⟨m,before,rfl⟩ := List.mem_map.mp member
    exact complete_rewriteMount (wellFormed.mounts m before)
  · obtain ⟨p,before,rfl⟩ := Option.map_eq_some_iff.mp given
    exact bounded_restrict (wellFormed.restart p before)

@[simp] theorem names_rewrite (c : Context) (d : Document) :
    (rewrite c d).services.map (·.name) = d.services.map (·.name) := by
  simp [rewrite,rewriteService,Function.comp_def]

theorem startOrder_rewrite (c : Context) (d : Document) :
    (rewrite c d).startOrder = d.startOrder :=
  Document.startOrder_map rfl (fun _ => rfl) fun _ => rfl

theorem wellFormed_rewrite {c : Context} {d : Document} (wellFormed : d.WellFormed) :
    (rewrite c d).WellFormed := by
  refine
    { nonempty := ?_
      services := fun s member => ?_
      networks := wellFormed.networks
      volumes := wellFormed.volumes
      ordered := by simpa [startOrder_rewrite] using wellFormed.ordered }
  · simpa [rewrite] using wellFormed.nonempty
  · obtain ⟨s,inside,rfl⟩ := List.mem_map.mp member
    rw [names_rewrite]
    exact wellFormed_rewriteService (wellFormed.services s inside)

theorem portable_rewrite {c : Context} {d : Document} (wellFormed : d.WellFormed)
    (portable : d.Portable) : (rewrite c d).Portable := by
  refine ⟨by simpa using portable.names,?_,?_⟩
  · intro s member
    obtain ⟨s,inside,rfl⟩ := List.mem_map.mp member
    exact portable.ports s inside
  · intro s member m mount
    obtain ⟨s,inside,rfl⟩ := List.mem_map.mp member
    obtain ⟨m,before,rfl⟩ := List.mem_map.mp mount
    exact portable_relabel
      (portable_replaceSocket wellFormed.volumes (portable.mounts s inside m before))

end ComposeToPodman.Rule
