import ComposeToPodman.Proofs.Target.Label
import ComposeToPodman.Target.Kube
import Mathlib.Data.List.Forall2
import Mathlib.Data.List.Induction
import Mathlib.Data.List.Nodup

/-! What the names in a Pod refer to. The volumes made so far form a catalogue: no name and no key
occurs twice, a key being the kind and the source of a mount. Mounts of all services share it, so
two of them name one volume exactly when they have one key. -/
namespace ComposeToPodman.Target.Kube

open Compose

/-- What a volume holds is what a mount asks for. -/
structure Backs (d : Document) (m : Mount) (v : PodVolume) : Prop where
  bind : m.kind = .bind → v.content = .hostPath m.source
  declared : m.kind = .volume → ∀ volume, d.volumes.get? m.source = some volume →
    v.content = .claim volume.name
  undeclared : m.kind = .volume → d.volumes.get? m.source = none → v.content = .emptyDir

structure Catalogue (d : Document) (volumes : List PodVolume) : Prop where
  names : (volumes.map (·.name)).Nodup
  keys : (volumes.map fun v => (v.kind,v.source)).Nodup
  backs : ∀ v ∈ volumes, ∀ m : Mount, v.kind = m.kind → v.source = m.source → Backs d m v

/-- A mount of a service and the mount of a container that it became. -/
def Placed (volumes : List PodVolume) (m : Mount) (p : PodMount) : Prop :=
  ∃ v ∈ volumes, v.kind = m.kind ∧ v.source = m.source ∧ p = ⟨v.name,m.target,m.isReadOnly⟩

variable {d : Document} {volumes : List PodVolume}

theorem Catalogue.nil : Catalogue d [] := ⟨List.nodup_nil,List.nodup_nil,by simp⟩

theorem Placed.mono {more : List PodVolume} {m : Mount} {p : PodMount} (inside : volumes ⊆ more)
    (placed : Placed volumes m p) : Placed more m p := by
  obtain ⟨v,member,rest⟩ := placed
  exact ⟨v,inside member,rest⟩

theorem Catalogue.eq_of_name {v w : PodVolume} (valid : Catalogue d volumes) (first : v ∈ volumes)
    (second : w ∈ volumes) (same : v.name = w.name) : v = w :=
  List.inj_on_of_nodup_map valid.names first second same

theorem Catalogue.eq_of_key {v w : PodVolume} (valid : Catalogue d volumes) (first : v ∈ volumes)
    (second : w ∈ volumes) (kind : v.kind = w.kind) (source : v.source = w.source) : v = w :=
  List.inj_on_of_nodup_map valid.keys first second (Prod.ext kind source)

theorem backs_newVolume {m other : Mount} (kind : m.kind = other.kind)
    (source : m.source = other.source) : Backs d other (newVolume d volumes m) := by
  constructor
  · intro bind
    simp [newVolume,volumeContent,kind,bind,source]
  · intro volume declared found
    simp [newVolume,volumeContent,kind,volume,source,found]
  · intro volume undeclared
    simp [newVolume,volumeContent,kind,volume,source,undeclared]

theorem exists_of_volumeName? {m : Mount} {name : String}
    (known : volumeName? volumes m = some name) :
    ∃ v ∈ volumes, v.kind = m.kind ∧ v.source = m.source ∧ v.name = name := by
  obtain ⟨v,found,same⟩ := Option.map_eq_some_iff.mp known
  have key : v.kind = m.kind ∧ v.source = m.source := by simpa using List.find?_some found
  exact ⟨v,List.mem_of_find?_eq_some found,key.1,key.2,same⟩

theorem absent_of_volumeName? {m : Mount} (missing : volumeName? volumes m = none) {v : PodVolume}
    (member : v ∈ volumes) : ¬(v.kind = m.kind ∧ v.source = m.source) := by
  simpa using List.find?_eq_none.mp (Option.map_eq_none_iff.mp missing) v member

/-- A volume is made only where its key is missing, and under a name that is not taken. -/
theorem Catalogue.snoc_newVolume {m : Mount} (valid : Catalogue d volumes)
    (missing : volumeName? volumes m = none) :
    Catalogue d (volumes ++ [newVolume d volumes m]) := by
  refine ⟨?_,?_,?_⟩
  · rw [List.map_append,List.nodup_append]
    refine ⟨valid.names,by simp,?_⟩
    rintro name taken _ new rfl
    obtain rfl : name = (newVolume d volumes m).name := by simpa using new
    exact Label.unique_not_mem _ _ taken
  · rw [List.map_append,List.nodup_append]
    refine ⟨valid.keys,by simp,?_⟩
    rintro key taken _ new rfl
    obtain ⟨v,member,rfl⟩ := List.mem_map.mp taken
    exact absent_of_volumeName? missing member (by simpa [newVolume] using new)
  · intro v member other kind source
    rcases List.mem_append.mp member with old | new
    · exact valid.backs v old other kind source
    · obtain rfl := List.mem_singleton.mp new
      exact backs_newVolume kind source

theorem MountTable.add_of_known {t : MountTable} {m : Mount} {name : String}
    (known : volumeName? t.volumes m = some name) : t.add d m =
      { t with mounts := t.mounts ++ [⟨name,m.target,m.isReadOnly⟩]
               diagnostics := t.diagnostics ++ .ofWarnings (optionNotices m) } := by
  rw [MountTable.add,known]

theorem MountTable.add_of_missing {t : MountTable} {m : Mount}
    (missing : volumeName? t.volumes m = none) : t.add d m =
      { volumes := t.volumes ++ [newVolume d t.volumes m]
        mounts := t.mounts ++ [⟨(newVolume d t.volumes m).name,m.target,m.isReadOnly⟩]
        diagnostics :=
          t.diagnostics ++ volumeDiagnostics d m ++ .ofWarnings (optionNotices m) } := by
  rw [MountTable.add,missing]

/-- One step: the mount is placed, and a volume that was made for it is named by it. -/
theorem MountTable.add_spec (t : MountTable) (m : Mount) (valid : Catalogue d t.volumes) :
    ∃ fresh p, (t.add d m).volumes = t.volumes ++ fresh ∧ (t.add d m).mounts = t.mounts ++ [p] ∧
      Catalogue d (t.volumes ++ fresh) ∧ Placed (t.volumes ++ fresh) m p ∧
      ∀ v ∈ fresh, v.name = p.volume := by
  cases known : volumeName? t.volumes m with
  | some name =>
    obtain ⟨v,member,kind,source,rfl⟩ := exists_of_volumeName? known
    rw [MountTable.add_of_known known]
    refine ⟨[],⟨v.name,m.target,m.isReadOnly⟩,by simp,rfl,by simpa using valid,?_,by simp⟩
    exact ⟨v,by simpa using member,kind,source,rfl⟩
  | none =>
    let v := newVolume d t.volumes m
    rw [MountTable.add_of_missing known]
    refine ⟨[v],⟨v.name,m.target,m.isReadOnly⟩,rfl,rfl,valid.snoc_newVolume known,?_,by simp⟩
    exact ⟨v,by simp,rfl,rfl,rfl⟩

theorem MountTable.foldl_spec (mounts : List Mount) (t : MountTable)
    (valid : Catalogue d t.volumes) :
    ∃ fresh added, (mounts.foldl (MountTable.add d) t).volumes = t.volumes ++ fresh ∧
      (mounts.foldl (MountTable.add d) t).mounts = t.mounts ++ added ∧
      Catalogue d (t.volumes ++ fresh) ∧ List.Forall₂ (Placed (t.volumes ++ fresh)) mounts added ∧
      ∀ v ∈ fresh, ∃ p ∈ added, p.volume = v.name := by
  -- A whole service, by induction on its mounts.
  induction mounts generalizing t with
  | nil => exact ⟨[],[],by simp,by simp,by simpa using valid,.nil,by simp⟩
  | cons m rest ih =>
    obtain ⟨fresh,p,volumes,mounts,next,placed,named⟩ := t.add_spec m valid
    obtain ⟨later,added,volumes',mounts',last,rest',named'⟩ := ih (t.add d m) (volumes ▸ next)
    simp only [volumes,mounts,List.append_assoc] at volumes' mounts' last rest'
    refine ⟨fresh ++ later,p :: added,volumes',by simpa using mounts',last,.cons ?_ rest',?_⟩
    · refine placed.mono fun v member => ?_
      rw [← List.append_assoc]
      exact List.mem_append_left _ member
    · intro v member
      rcases List.mem_append.mp member with first | second
      · exact ⟨p,List.mem_cons_self,(named v first).symm⟩
      · obtain ⟨q,among,same⟩ := named' v second
        exact ⟨q,List.mem_cons_of_mem _ among,same⟩

/-- A property of the part of a Pod that was made for some services holds of a whole Pod, if each
service that is added keeps it. -/
theorem draft_induction {motive : List Service → Draft → Prop} (start : motive [] {})
    (step : ∀ services s p, motive services p → motive (services ++ [s]) (p.add d s)) :
    motive (orderedServices d) (draft d) := by
  unfold draft
  induction orderedServices d using List.reverseRecOn with
  | nil => exact start
  | append_singleton services s ih =>
    rw [List.foldl_append]
    exact step services s _ ih

/-- What holds of the part of a Pod that was made for some services. -/
structure Draft.Sound (d : Document) (services : List Service) (p : Draft) : Prop where
  names : (p.containers.map (·.name)).Nodup
  catalogue : Catalogue d p.volumes
  placed : List.Forall₂ (fun (s : Service) (c : Container) =>
    List.Forall₂ (Placed p.volumes) s.mounts c.mounts) services p.containers
  used : ∀ v ∈ p.volumes, ∃ c ∈ p.containers, ∃ m ∈ c.mounts, m.volume = v.name

theorem Draft.Sound.add {services : List Service} {p : Draft} (sound : Draft.Sound d services p)
    (s : Service) : Draft.Sound d (services ++ [s]) (p.add d s) := by
  obtain ⟨fresh,added,volumes,mounts,valid,placed,named⟩ :=
    MountTable.foldl_spec s.mounts { volumes := p.volumes } sound.catalogue
  simp only [List.nil_append] at volumes mounts valid placed
  have grown : (p.add d s).volumes = p.volumes ++ fresh := volumes
  have containers : (p.add d s).containers =
      p.containers ++ [container s (Label.unique s.name (p.containers.map (·.name))) added] := by
    rw [← mounts]; rfl
  refine ⟨?_,grown ▸ valid,?_,?_⟩
  · rw [containers,List.map_append,List.nodup_append]
    refine ⟨sound.names,by simp,?_⟩
    rintro name taken _ new rfl
    obtain rfl : name = Label.unique s.name (p.containers.map (·.name)) := by
      simpa [container] using new
    exact Label.unique_not_mem _ _ taken
  · rw [containers,grown]
    refine List.rel_append (sound.placed.imp fun _ _ => ?_) (.cons placed .nil)
    exact List.Forall₂.imp fun _ _ => Placed.mono (List.subset_append_left _ _)
  · intro v member
    rw [grown] at member
    rw [containers]
    rcases List.mem_append.mp member with old | new
    · obtain ⟨c,among,rest⟩ := sound.used v old
      exact ⟨c,List.mem_append_left _ among,rest⟩
    · obtain ⟨m,among,same⟩ := named v new
      exact ⟨_,List.mem_append_right _ List.mem_cons_self,m,among,same⟩

theorem sound_draft (d : Document) : Draft.Sound d (orderedServices d) (draft d) :=
  draft_induction ⟨List.nodup_nil,.nil,.nil,List.forall_mem_nil _⟩ fun _ s _ sound => sound.add s

/-- The mounts of some services, each beside the mount of a container that it became. -/
def placements (services : List Service) (containers : List Container) : List (Mount × PodMount) :=
  (services.zip containers).flatMap fun (s,c) => s.mounts.zip c.mounts

theorem placed_of_mem_placements {services : List Service} {containers : List Container}
    (placed : List.Forall₂ (fun (s : Service) (c : Container) =>
      List.Forall₂ (Placed volumes) s.mounts c.mounts) services containers)
    {e : Mount × PodMount} (member : e ∈ placements services containers) :
    Placed volumes e.1 e.2 := by
  obtain ⟨⟨s,c⟩,pair,inner⟩ := List.mem_flatMap.mp member
  exact List.forall₂_zip (List.forall₂_zip placed pair) inner

/-- Two mounts name one volume exactly when they are of one kind and source. -/
theorem Catalogue.volume_eq_iff (valid : Catalogue d volumes) {m m' : Mount} {p p' : PodMount}
    (first : Placed volumes m p) (second : Placed volumes m' p') :
    p.volume = p'.volume ↔ m.kind = m'.kind ∧ m.source = m'.source := by
  obtain ⟨v,member,kind,source,rfl⟩ := first
  obtain ⟨w,member',kind',source',rfl⟩ := second
  constructor
  · intro same
    obtain rfl := valid.eq_of_name member member' same
    exact ⟨kind.symm.trans kind',source.symm.trans source'⟩
  · rintro ⟨sameKind,sameSource⟩
    rw [valid.eq_of_key member member' (by rw [kind,sameKind,kind'])
      (by rw [source,sameSource,source'])]

/-- Container names differ, and so do volume names. The containers are those of the services, mount
by mount, and each mount names exactly one volume, which holds what the mount asks for. Every volume
is named by a mount. Two mounts anywhere name the same volume exactly when they have the same kind
and source. -/
theorem pod_refers_to_its_volumes (d : Document) (o : Options) :
    ((pod d o).containers.map (·.name)).Nodup ∧
    ((pod d o).volumes.map (·.name)).Nodup ∧
    List.Forall₂ (fun (s : Service) (c : Container) =>
      List.Forall₂ (fun (m : Mount) (p : PodMount) =>
        p.path = m.target ∧ (∃! v, v ∈ (pod d o).volumes ∧ v.name = p.volume) ∧
        ∀ v ∈ (pod d o).volumes, v.name = p.volume → Backs d m v) s.mounts c.mounts)
      (orderedServices d) (pod d o).containers ∧
    (∀ v ∈ (pod d o).volumes, ∃ c ∈ (pod d o).containers, ∃ p ∈ c.mounts, p.volume = v.name) ∧
    (∀ e ∈ placements (orderedServices d) (pod d o).containers,
      ∀ f ∈ placements (orderedServices d) (pod d o).containers,
        e.2.volume = f.2.volume ↔ e.1.kind = f.1.kind ∧ e.1.source = f.1.source) := by
  have sound := sound_draft d
  refine ⟨sound.names,sound.catalogue.names,sound.placed.imp fun s c placed => ?_,sound.used,?_⟩
  · refine placed.imp fun m p placed => ?_
    obtain ⟨v,member,kind,source,rfl⟩ := placed
    have only {w : PodVolume} (among : w ∈ (draft d).volumes) (same : w.name = v.name) : w = v :=
      sound.catalogue.eq_of_name among member same
    refine ⟨rfl,⟨v,⟨member,rfl⟩,fun w known => only known.1 known.2⟩,fun w among same => ?_⟩
    obtain rfl := only among same
    exact sound.catalogue.backs w among m kind source
  · intro e first f second
    exact sound.catalogue.volume_eq_iff (placed_of_mem_placements sound.placed first)
      (placed_of_mem_placements sound.placed second)

end ComposeToPodman.Target.Kube
