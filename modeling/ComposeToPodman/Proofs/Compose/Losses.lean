import ComposeToPodman.Proofs.Compose.Problems
import ComposeToPodman.Proofs.Compose.RoundTrip
import Mathlib.Data.List.Perm.Subperm

/-! What a compose file cannot tell. Of a document with distinct names everything is read back but
some ports and mounts: those that have no short form. -/
namespace ComposeToPodman.Compose

open Target Target.ComposeFile Yaml

/-- A reading without its notices. -/
def Reading.silent (r : Reading α) : Reading α := pure r.value

section Fields

variable {σ τ : Type} {readEntry : Value × Value → Reading (Option τ)} {apply : σ → τ → σ} {s t : σ}

theorem Told.silent {f : Field} (told : Told readEntry apply s f t) :
    Told (fun e => (readEntry e).silent) apply s f t := by
  cases f with
  | none => exact told
  | some e =>
    obtain ⟨setting,read,sets⟩ := told
    exact ⟨setting,congrArg Reading.silent read,sets⟩

/-- A state that is reached in silence is reached whatever is noticed. -/
theorem AllTold.value {fs : List Field}
    (told : AllTold (fun e => (readEntry e).silent) apply s fs t) :
    (Reading.filterMap readEntry
      (fs.filterMap (·.map fun (name,v) => (Value.string name,v)))).value.foldl apply s = t := by
  obtain ⟨settings,read,reached⟩ := told.read
  have settings_eq := congrArg Reading.value read
  rw [Reading.value_filterMap] at settings_eq
  rw [← reached,Reading.value_filterMap]
  exact congrArg (List.foldl apply s) settings_eq

end Fields

def rereadPorts (service : String) (ports : List PortMapping) : List PortMapping :=
  ports.filterMap fun p => (readShortPort service (portText p)).value

def rereadMounts (service : String) (volumes : Dict Volume) (mounts : List Mount) : List Mount :=
  mounts.filterMap fun m => (readShortMount service volumes m.short).value

theorem rereadPorts_eq_self_iff (service : String) {ports : List PortMapping}
    (inRange : ∀ p ∈ ports, p.InRange) :
    rereadPorts service ports = ports ↔ ∀ p ∈ ports, p.Portable := by
  have whole : rereadPorts service ports = ports ↔
      ∀ p ∈ ports, (readShortPort service (portText p)).value = some p := by
    simpa [rereadPorts] using List.filterMap_eq_map_iff_forall_eq_some (g := id) (l := ports)
  rw [whole]
  exact forall₂_congr fun p member => readShortPort_portText_iff (inRange p member) service

theorem rereadMounts_eq_self_iff (service : String) (volumes : Dict Volume) {mounts : List Mount}
    (complete : ∀ m ∈ mounts, m.Complete) :
    rereadMounts service volumes mounts = mounts ↔ ∀ m ∈ mounts, m.Portable volumes := by
  have whole : rereadMounts service volumes mounts = mounts ↔
      ∀ m ∈ mounts, (readShortMount service volumes m.short).value = some m := by
    simpa [rereadMounts] using List.filterMap_eq_map_iff_forall_eq_some (g := id) (l := mounts)
  rw [whole]
  exact forall₂_congr fun m member => readShortMount_short_iff (complete m member) service

/-- A service as it is read back. -/
def Service.reread (volumes : Dict Volume) (s : Service) : Service :=
  { s with ports := rereadPorts s.name s.ports, mounts := rereadMounts s.name volumes s.mounts }

theorem wellFormed_reread {names : List String} {networks : Dict Network} {s : Service}
    (wellFormed : s.WellFormed names networks) (volumes : Dict Volume) :
    (s.reread volumes).WellFormed names networks := by
  refine { wellFormed with ports := fun p member => ?_, mounts := fun m member => ?_ }
  · obtain ⟨_,_,read⟩ := List.mem_filterMap.mp member
    exact inRange_of_readShortPort read
  · obtain ⟨_,_,read⟩ := List.mem_filterMap.mp member
    exact complete_of_readShortMount read

theorem value_readEntry_ports (service : String) (volumes : Dict Volume)
    (ports : List PortMapping) :
    (readEntry service volumes (.string "ports",.sequence (texts (ports.map portText)))).value =
      some (.ports (rereadPorts service ports)) := by
  change (decodeSetting _ _ _ _).value = _
  rw [list_portTexts,decodeSetting]
  simp [rereadPorts,readPort,Form.Scalar.asText,List.filterMap_map]

theorem value_readEntry_mounts (service : String) (volumes : Dict Volume) (mounts : List Mount) :
    (readEntry service volumes (.string "volumes",.sequence (texts (mounts.map Mount.short)))).value =
      some (.mounts (rereadMounts service volumes mounts)) := by
  change (decodeSetting _ _ _ _).value = _
  rw [list_mountTexts,decodeSetting]
  simp [rereadMounts,readMount,List.filterMap_map]

section Settings

variable {service : String} {volumes : Dict Volume} {s : Service}

/-- Reading a field takes one service to another, and something may be noticed. -/
abbrev Reached (service : String) (volumes : Dict Volume) : Service → Field → Service → Prop :=
  Told (fun e => (readEntry service volumes e).silent) Setting.apply

theorem reached_ports (unset : s.ports = []) (ports : List PortMapping) :
    Reached service volumes s (listField "ports" (texts (ports.map portText)))
      { s with ports := rereadPorts service ports } := by
  have read : (readEntry service volumes
      (.string "ports",.sequence (texts (ports.map portText)))).silent =
      pure (some (.ports (rereadPorts service ports))) :=
    congrArg pure (value_readEntry_ports service volumes ports)
  refine told_listField read rfl fun empty => ?_
  rw [List.map_eq_nil_iff.mp empty,rereadPorts,List.filterMap_nil,← unset]

theorem reached_mounts (unset : s.mounts = []) (mounts : List Mount) :
    Reached service volumes s (listField "volumes" (texts (mounts.map Mount.short)))
      { s with mounts := rereadMounts service volumes mounts } := by
  have read : (readEntry service volumes
      (.string "volumes",.sequence (texts (mounts.map Mount.short)))).silent =
      pure (some (.mounts (rereadMounts service volumes mounts))) :=
    congrArg pure (value_readEntry_mounts service volumes mounts)
  refine told_listField read rfl fun empty => ?_
  rw [List.map_eq_nil_iff.mp empty,rereadMounts,List.filterMap_nil,← unset]

end Settings

/-- The fields of a written service give the service that is read back. -/
theorem serviceOf_serviceValue {s : Service} (sound : s.Sound) (volumes : Dict Volume) :
    ∃ fields, serviceValue s = .mapping fields ∧
      serviceOf volumes s.name fields = s.reread volumes := by
  have told : AllTold (fun e => (readEntry s.name volumes e).silent) Setting.apply
      { name := s.name } _ (s.reread volumes) :=
    .cons (told_field (readEntry_image s.name volumes sound.image) rfl).silent <|
    .cons (restored_entrypoint rfl s.entrypoint).silent <|
    .cons (restored_command rfl s.command).silent <|
    .cons (reached_ports rfl s.ports) <|
    .cons (reached_mounts rfl s.mounts) <|
    .cons (restored_environment rfl s.environment).silent <|
    .cons (restored_restart rfl sound.restart).silent <|
    .cons (restored_networkMode rfl sound.networkMode).silent <|
    .cons (restored_networks rfl s.networks).silent <|
    .cons (restored_privileged rfl s.privileged).silent <|
    .cons (restored_dependsOn rfl s.dependsOn).silent <|
    .cons (restored_labels rfl s.labels).silent .nil
  exact ⟨_,rfl,told.value⟩

theorem readServiceEntry_reread {names : List String} {networks : Dict Network} {s : Service}
    (wellFormed : s.WellFormed names networks) (volumes : Dict Volume) :
    (readServiceEntry volumes (.string s.name,serviceValue s)).value = some (s.reread volumes) ∧
      (readServiceEntry volumes (.string s.name,serviceValue s)).problems = [] := by
  obtain ⟨fields,whole,reached⟩ := serviceOf_serviceValue wellFormed.toSound volumes
  have image : (serviceOf volumes s.name fields).image ≠ "" := reached ▸ wellFormed.hasImage
  rw [readServiceEntry_named ((isName_iff _).mp wellFormed.name),whole,← reached]
  exact readService_of_image image

/-- A document as it is read back. -/
def Document.reread (d : Document) : Document :=
  { d with services := d.services.map (Service.reread d.volumes) }

theorem startOrder_reread (d : Document) : d.reread.startOrder = d.startOrder :=
  Document.startOrder_map rfl (fun _ => rfl) fun _ => rfl

theorem readServices_reread {d : Document} (wellFormed : d.WellFormed)
    (distinct : (d.services.map (·.name)).Nodup) :
    (readServices d.draft d.serviceFields).value = d.reread ∧
      (readServices d.draft d.serviceFields).problems = [] := by
  have entries (s : Service) (member : s ∈ d.services) :=
    readServiceEntry_reread (wellFormed.services s member) d.volumes
  have value : (Reading.filterMap (readServiceEntry d.volumes) d.serviceFields).value =
      d.reread.services := by
    rw [Reading.value_filterMap,serviceFields_eq distinct,List.filterMap_map]
    exact List.filterMap_eq_map_iff_forall_eq_some.mpr fun s member => (entries s member).1
  have clean : (Reading.filterMap (readServiceEntry d.volumes) d.serviceFields).problems = [] := by
    rw [Reading.problems_filterMap,serviceFields_eq distinct,List.flatMap_map,
      List.flatMap_eq_nil_iff]
    exact fun s member => (entries s member).2
  have names : d.reread.services.map (·.name) = d.services.map (·.name) := by
    simp [Document.reread,Service.reread,Function.comp_def]
  have resolved : d.reread.services.mapM
      (resolveService (d.reread.services.map (·.name)) d.networks) = pure d.reread.services := by
    rw [names]
    refine Reading.mapM_eq_pure fun s member => ?_
    obtain ⟨s,inside,rfl⟩ := List.mem_map.mp member
    exact resolveService_eq_pure (wellFormed_reread (wellFormed.services s inside) d.volumes)
  unfold readServices
  rw [Reading.value_bind,Reading.problems_bind]
  dsimp only [Document.draft]
  rw [value,clean,resolved]
  exact ⟨rfl,rfl⟩

/-- With distinct names the file of a document is read, as the document with the ports and mounts
that can be told. -/
theorem ofValue_reread {d : Document} (wellFormed : d.WellFormed)
    (distinct : (d.services.map (·.name)).Nodup) :
    ∃ noticed, Document.ofValue (documentValue d) = .ok (d.reread,noticed) := by
  obtain ⟨value,clean⟩ := readServices_reread wellFormed distinct
  refine ⟨_,ofValue_eq_ok.mpr ⟨?_,?_,?_,rfl⟩⟩
  · rw [readRoot_documentValue_eq wellFormed,Reading.value_map,value]
  · rw [readRoot_documentValue_eq wellFormed,Reading.problems_map,clean]
  · rw [startOrder_reread]
    exact wellFormed.ordered

/-- Of several services with one name the file holds one. -/
theorem nodup_names_of_length {d again : Document} {noticed : List Notice}
    (wellFormed : d.WellFormed) (read : Document.ofValue (documentValue d) = .ok (again,noticed))
    (length : d.services.length ≤ again.services.length) : (d.services.map (·.name)).Nodup := by
  obtain ⟨value,_⟩ := ofValue_eq_ok.mp read
  rw [readRoot_documentValue_eq wellFormed,Reading.value_map] at value
  obtain rfl := Option.some.inj value
  let keys := (serviceEntries d.services).map (·.1)
  have enough : d.services.length ≤ keys.length := by
    refine length.trans ?_
    simpa [readServices,Document.serviceFields,keys] using
      List.length_filterMap_le (fun e => (readServiceEntry d.draft.volumes e).value) d.serviceFields
  have sub : keys ⊆ d.services.map (·.name) := fun _ => mem_keys_serviceEntries.mp
  have subperm := (nodup_keys_serviceEntries d.services).subperm sub
  have perm := subperm.perm_of_length_le (by rwa [List.length_map])
  exact perm.nodup_iff.mp (nodup_keys_serviceEntries d.services)

/-- A service that is read back has the image, the ports and the mounts that it had. -/
structure Service.Kept (s again : Service) : Prop where
  image : again.image = s.image
  ports : again.ports = s.ports
  mounts : again.mounts = s.mounts

theorem kept_reread_iff {s : Service} (sound : s.Sound) (volumes : Dict Volume) :
    s.Kept (s.reread volumes) ↔ (∀ p ∈ s.ports, p.Portable) ∧ ∀ m ∈ s.mounts, m.Portable volumes := by
  have ports := rereadPorts_eq_self_iff s.name sound.ports
  have mounts := rereadMounts_eq_self_iff s.name volumes sound.mounts
  rw [← ports,← mounts]
  exact ⟨fun kept => ⟨kept.ports,kept.mounts⟩,fun ⟨ports,mounts⟩ => ⟨rfl,ports,mounts⟩⟩

/-- The compose file that is written for a document with distinct names is read, if its text is read
back as the value it was written from. No image, port or mount is lost on the way exactly if the
document is portable. -/
theorem composeFile_keeps_iff {text : String} {d : Document} {notices : List Notice}
    (read : Document.read text = .ok (d,notices))
    (readBack : Value.read (documentValue d).write = .ok (documentValue d)) :
    ((d.services.map (·.name)).Nodup →
      ∃ noticed, Document.read (output d).text = .ok (d.reread,noticed)) ∧
    ((∃ again noticed, Document.read (output d).text = .ok (again,noticed) ∧
        List.Forall₂ Service.Kept d.services again.services) ↔ d.Portable) := by
  have wellFormed := wellFormed_of_read read
  rw [ofValue_of_readBack readBack]
  refine ⟨ofValue_reread wellFormed,?_,?_⟩
  · rintro ⟨again,noticed,reread,kept⟩
    have distinct := nodup_names_of_length wellFormed reread kept.length_eq.le
    obtain ⟨_,same⟩ := ofValue_reread wellFormed distinct
    obtain ⟨rfl,_⟩ := Prod.mk.inj (Except.ok.inj (reread.symm.trans same))
    have portable (s : Service) (member : s ∈ d.services) :=
      (kept_reread_iff (wellFormed.services s member).toSound d.volumes).mp
        (List.forall₂_same.mp (List.forall₂_map_right_iff.mp kept) s member)
    exact ⟨distinct,fun s member => (portable s member).1,fun s member => (portable s member).2⟩
  · intro portable
    refine ⟨d,[],ofValue_documentValue wellFormed portable,?_⟩
    exact List.forall₂_same.mpr fun _ _ => ⟨rfl,rfl,rfl⟩

/-- A host that is told by its name. -/
def hostText : String := "services:
  web:
    image: a
    ports:
    - target: 80
      host_ip: localhost
      published: 80
"

def host : Document :=
  { services := [
      { name := "web", image := "a"
        ports := [{ hostIp := some "localhost", hostPort := 80, containerPort := 80 }] }] }

theorem read_hostText : Document.read hostText = .ok (host,[]) := by decide +kernel

theorem readBack_host : Value.read (documentValue host).write = .ok (documentValue host) := by
  decide +kernel

theorem composeFile_keeps_iff_host :
    Document.read hostText = .ok (host,[]) ∧
      Value.read (documentValue host).write = .ok (documentValue host) ∧ ¬host.Portable ∧
      ∃ noticed, Document.read (output host).text = .ok (host.reread,noticed) := by
  have portable : ¬host.Portable := by decide
  have reread := (composeFile_keeps_iff read_hostText readBack_host).1 (by decide)
  exact ⟨read_hostText,readBack_host,portable,reread⟩

/-- The port is not read back. -/
theorem port_lost_host : Document.read hostText = .ok (host,[]) ∧
    Value.read (documentValue host).write = .ok (documentValue host) ∧
    Document.read (output host).text = .ok ({ services := [{ name := "web", image := "a" }] },
      [.inService "web" (.malformedPort "localhost:80:80")]) :=
  ⟨read_hostText,readBack_host,by decide +kernel⟩

end ComposeToPodman.Compose
