import ComposeToPodman.Proofs.Compose.Settings
import ComposeToPodman.Proofs.Compose.WellFormed

/-! Writing a document as a compose file and reading the file gives the document back: service by
service, then the networks and volumes, and then the whole. -/
namespace ComposeToPodman.Compose

open Target Target.ComposeFile Yaml

theorem readService_mapping {volumes : Dict Volume} {name : String} {s : Service} {fs : List Field}
    (told : AllTold (readEntry name volumes) Setting.apply { name } fs s) (image : s.image ≠ "") :
    readService volumes name (mapping fs) = pure (some s) := by
  obtain ⟨settings,read,rfl⟩ := told.read
  unfold readService mapping
  dsimp only
  rw [read]
  simp [image]

/-- Every field of a written service restores its part of the service. -/
theorem readService_serviceValue {volumes : Dict Volume} {s : Service} (sound : s.Sound)
    (image : s.image ≠ "") (ports : ∀ p ∈ s.ports, p.Portable)
    (mounts : ∀ m ∈ s.mounts, m.Portable volumes) :
    readService volumes s.name (serviceValue s) = pure (some s) := by
  have told : AllTold (readEntry s.name volumes) Setting.apply { name := s.name } _ s :=
    .cons (told_field (readEntry_image _ _ sound.image) rfl) <|
    .cons (restored_entrypoint rfl s.entrypoint) <|
    .cons (restored_command rfl s.command) <|
    .cons (restored_ports rfl ports sound.ports) <|
    .cons (restored_mounts rfl mounts sound.mounts) <|
    .cons (restored_environment rfl s.environment) <|
    .cons (restored_restart rfl sound.restart) <|
    .cons (restored_networkMode rfl sound.networkMode) <|
    .cons (restored_networks rfl s.networks) <|
    .cons (restored_privileged rfl s.privileged) <|
    .cons (restored_dependsOn rfl s.dependsOn) <|
    .cons (restored_labels rfl s.labels) .nil
  exact readService_mapping told image

theorem readServiceEntry_serviceValue {names : List String} {networks : Dict Network}
    {volumes : Dict Volume} {s : Service} (wellFormed : s.WellFormed names networks)
    (ports : ∀ p ∈ s.ports, p.Portable) (mounts : ∀ m ∈ s.mounts, m.Portable volumes) :
    readServiceEntry volumes (.string s.name,serviceValue s) = pure (some s) := by
  change (if isName s.name then readService volumes s.name (serviceValue s) else _) = _
  rw [if_pos wellFormed.name]
  exact readService_serviceValue wellFormed.toSound wellFormed.hasImage ports mounts

theorem putEntry_append {name : String} {v : Value} {l : List (String × Value)}
    (absent : name ∉ l.map (·.1)) : putEntry name v l = l ++ [(name,v)] := by
  induction l with
  | nil => rfl
  | cons e rest ih =>
    rw [List.map_cons,List.mem_cons,not_or] at absent
    rw [putEntry,if_neg (Ne.symm absent.1),ih absent.2]
    rfl

theorem foldl_putEntry (services : List Service) (l : List (String × Value))
    (distinct : (l.map (·.1) ++ services.map (·.name)).Nodup) :
    services.foldl (fun entries s => putEntry s.name (serviceValue s) entries) l =
      l ++ services.map fun s => (s.name,serviceValue s) := by
  -- By induction on the services: each has another name than those before it.
  induction services generalizing l with
  | nil => simp
  | cons s rest ih =>
    have absent : s.name ∉ l.map (·.1) := fun member =>
      (List.nodup_append.mp distinct).2.2 _ member _ List.mem_cons_self rfl
    rw [List.foldl_cons,putEntry_append absent,ih _ (by simpa using distinct)]
    simp

theorem serviceEntries_eq {services : List Service} (distinct : (services.map (·.name)).Nodup) :
    serviceEntries services = services.map fun s => (s.name,serviceValue s) :=
  foldl_putEntry services [] distinct

theorem mem_keys_putEntry {name key : String} {v : Value} {l : List (String × Value)} :
    key ∈ (putEntry name v l).map (·.1) ↔ key = name ∨ key ∈ l.map (·.1) := by
  induction l with
  | nil => simp [putEntry]
  | cons e rest ih =>
    rw [putEntry]
    split
    next same => simp [same]
    next => simp [ih,or_left_comm]

theorem nodup_keys_putEntry {name : String} {v : Value} {l : List (String × Value)}
    (distinct : (l.map (·.1)).Nodup) : ((putEntry name v l).map (·.1)).Nodup := by
  induction l with
  | nil => simp [putEntry]
  | cons e rest ih =>
    rw [List.map_cons,List.nodup_cons] at distinct
    rw [putEntry]
    split
    next same => simpa [← same] using distinct
    next other =>
      rw [List.map_cons,List.nodup_cons,mem_keys_putEntry,not_or]
      exact ⟨⟨other,distinct.1⟩,ih distinct.2⟩

theorem keys_foldl_putEntry (services : List Service) {l : List (String × Value)}
    (distinct : (l.map (·.1)).Nodup) :
    ((services.foldl (fun entries s => putEntry s.name (serviceValue s) entries) l).map
        (·.1)).Nodup ∧
      ∀ key, key ∈ (services.foldl (fun entries s => putEntry s.name (serviceValue s) entries)
          l).map (·.1) ↔ key ∈ l.map (·.1) ∨ key ∈ services.map (·.name) := by
  -- By induction on the services: the keys are the names that there were and those that were put.
  induction services generalizing l with
  | nil => exact ⟨distinct,by simp⟩
  | cons s rest ih =>
    obtain ⟨nodup,keys⟩ := @ih (putEntry s.name (serviceValue s) l) (nodup_keys_putEntry distinct)
    refine ⟨nodup,fun key => (keys key).trans ?_⟩
    rw [mem_keys_putEntry,List.map_cons,List.mem_cons]
    tauto

theorem nodup_keys_serviceEntries (services : List Service) :
    ((serviceEntries services).map (·.1)).Nodup := (keys_foldl_putEntry services (l := []) .nil).1

theorem mem_keys_serviceEntries {services : List Service} {key : String} :
    key ∈ (serviceEntries services).map (·.1) ↔ key ∈ services.map (·.name) :=
  ((keys_foldl_putEntry services (l := []) .nil).2 key).trans (by simp)

theorem reportUnknown_eq_pure {service : String} {names dependencies : List String}
    (known : ∀ n ∈ dependencies, n ∈ names) :
    reportUnknown service names dependencies = pure () := by
  induction dependencies with
  | nil => rfl
  | cons name rest ih =>
    rw [List.forall_mem_cons] at known
    simp [reportUnknown,known.1,ih known.2]

theorem resolveNetworks_eq_pure {service : String} {declared : Dict Network} (listed : List String)
    {resolved : List String} (distinct : (resolved ++ listed).Nodup)
    (known : ∀ n ∈ listed, n = defaultNetwork ∨ declared.contains n = true) :
    resolveNetworks service declared resolved listed = pure (resolved ++ listed) := by
  -- By induction on the names that are listed: each is known, and none has been resolved before.
  induction listed generalizing resolved with
  | nil => simp [resolveNetworks]
  | cons name rest ih =>
    rw [List.forall_mem_cons] at known
    have fresh : name ∉ resolved := fun member =>
      (List.nodup_append.mp distinct).2.2 _ member _ List.mem_cons_self rfl
    have tail := @ih (resolved ++ [name]) (by simpa using distinct) known.2
    have here : (name == defaultNetwork || declared.contains name) = true := by simpa using known.1
    simp [resolveNetworks,here,fresh,tail]

/-- The references of a well-formed service are resolved. -/
theorem resolveService_eq_pure {names : List String} {networks : Dict Network} {s : Service}
    (wellFormed : s.WellFormed names networks) : resolveService names networks s = pure s := by
  have resolved : resolveNetworks s.name networks [] s.networks = pure s.networks :=
    resolveNetworks_eq_pure s.networks wellFormed.distinct wellFormed.known
  unfold resolveService
  rw [reportUnknown_eq_pure wellFormed.dependencies]
  cases mode : s.networkMode.isSome with
  | false => simp [resolved]
  | true =>
    have empty := wellFormed.exclusive mode
    rw [empty] at resolved
    simp only [empty,List.isEmpty_nil,Bool.not_true,Bool.and_false,Bool.false_eq_true,if_true,
      if_false,pure_bind,resolved]
    rw [← empty]

theorem readResources_written {key kind : String} {read : Value → Decode.Result α} {bare : α}
    {make : String → α → β} {value : String → β → Value} {written : String → β → α} {d : Dict β}
    (names : ∀ name ∈ d.keys, isName name = true)
    (reads : ∀ name b, Decode.optional read (value name b) = .ok (some (written name b)))
    (makes : ∀ name b, make name (written name b) = b) :
    readResources key kind read bare make
      (.mapping (d.entries.map fun e => (.string e.1,value e.1 e.2))) = pure d := by
  have forms := Decode.dict_map .alone (d := d) (f := fun e => value e.1 e.2)
    fun e _ => reads e.1 e.2
  unfold readResources
  rw [forms]
  dsimp only [Dict.mapEntries]
  rw [Reading.filterMap_map_eq_pure fun e member => ?restored]
  · simp
  · have named : isName e.1 = true := names e.1 (List.mem_map_of_mem member)
    simp [named,makes]

theorem told_resourcesField {name : String} {value : String → β → Value} {d : Dict β}
    {s t : Draft} (setting : TopSetting)
    (read : readTopEntry
        (.string name,.mapping (d.entries.map fun e => (.string e.1,value e.1 e.2))) =
      pure (some setting))
    (sets : setting.apply s = t) (unset : d = {} → t = s) :
    Told readTopEntry TopSetting.apply s (resourcesField name value d) t := by
  unfold resourcesField
  split
  next empty => exact unset (Dict.eq_empty_of_isEmpty empty)
  next => exact ⟨setting,read,sets⟩

theorem told_services {d : Draft} (v : Value) :
    Told readTopEntry TopSetting.apply d (field "services" v) { d with services := v } :=
  ⟨.services v,rfl,rfl⟩

theorem declared_networks {d : Draft} (unset : d.networks = {}) {networks : Dict Network}
    (names : ∀ name ∈ networks.keys, isName name = true) :
    Told readTopEntry TopSetting.apply d (resourcesField "networks" networkValue networks)
      { d with networks } := by
  have reads (name : String) (n : Network) :
      Decode.optional (Form.Network.ofValue .alone) (networkValue name n) =
        .ok (some (.written name n)) := by
    change some <$> _ = _
    rw [Form.Network.ofValue_networkValue]
    rfl
  refine told_resourcesField (.networks networks) ?_ rfl fun empty => by rw [empty,← unset]
  change (some ∘ TopSetting.networks) <$> _ = _
  rw [readResources_written names reads Form.networkOf_written]
  rfl

theorem declared_volumes {d : Draft} (unset : d.volumes = {}) {volumes : Dict Volume}
    (names : ∀ name ∈ volumes.keys, isName name = true) :
    Told readTopEntry TopSetting.apply d (resourcesField "volumes" volumeValue volumes)
      { d with volumes } := by
  have reads (name : String) (v : Volume) :
      Decode.optional (Form.Volume.ofValue .alone) (volumeValue name v) =
        .ok (some (.written name v)) := by
    change some <$> _ = _
    rw [Form.Volume.ofValue_volumeValue]
    rfl
  refine told_resourcesField (.volumes volumes) ?_ rfl fun empty => by rw [empty,← unset]
  change (some ∘ TopSetting.volumes) <$> _ = _
  rw [readResources_written names reads Form.volumeOf_written]
  rfl

/-- What the compose form can tell: names that are distinct, and ports and mounts in short form. -/
structure Document.Portable (d : Document) : Prop where
  names : (d.services.map (·.name)).Nodup
  ports : ∀ s ∈ d.services, ∀ p ∈ s.ports, p.Portable
  mounts : ∀ s ∈ d.services, ∀ m ∈ s.mounts, m.Portable d.volumes

instance (d : Document) : Decidable d.Portable :=
  decidable_of_iff ((d.services.map (·.name)).Nodup ∧
      (∀ s ∈ d.services, ∀ p ∈ s.ports, p.Portable) ∧
      ∀ s ∈ d.services, ∀ m ∈ s.mounts, m.Portable d.volumes)
    ⟨fun ⟨names,ports,mounts⟩ => ⟨names,ports,mounts⟩,
      fun portable => ⟨portable.names,portable.ports,portable.mounts⟩⟩

theorem readRoot_of_told {fs : List Field} {draft : Draft} {services : List (Value × Value)}
    (told : AllTold readTopEntry TopSetting.apply {} fs draft)
    (mapped : draft.services = .mapping services) (nonempty : services ≠ []) :
    readRoot (mapping fs) = some <$> readServices draft services := by
  obtain ⟨settings,read,rfl⟩ := told.read
  rw [mapping,readRoot_mapping,read,pure_bind]
  exact readDraft_of_services mapped nonempty

theorem readServices_eq_pure {d : Document} (wellFormed : d.WellFormed) (portable : d.Portable)
    {draft : Draft} (version : draft.version = d.version) (name : draft.name = d.name)
    (networks : draft.networks = d.networks) (volumes : draft.volumes = d.volumes) :
    readServices draft (d.services.map fun s => (.string s.name,serviceValue s)) = pure d := by
  have services : Reading.filterMap (readServiceEntry d.volumes)
      (d.services.map fun s => (.string s.name,serviceValue s)) = pure d.services :=
    Reading.filterMap_map_eq_pure fun s member =>
      readServiceEntry_serviceValue (wellFormed.services s member) (portable.ports s member)
        (portable.mounts s member)
  have resolved : d.services.mapM
      (resolveService (d.services.map (·.name)) d.networks) = pure d.services :=
    Reading.mapM_eq_pure fun s member => resolveService_eq_pure (wellFormed.services s member)
  unfold readServices
  simp [version,name,networks,volumes,services,resolved]

/-- The services of a document as they are written. -/
def Document.serviceFields (d : Document) : List (Value × Value) :=
  (serviceEntries d.services).map fun e => (.string e.1,e.2)

/-- The top level of a document as it is written. -/
def Document.draft (d : Document) : Draft :=
  { version := d.version, name := d.name, services := .mapping d.serviceFields,
    networks := d.networks, volumes := d.volumes }

theorem serviceFields_eq {d : Document} (distinct : (d.services.map (·.name)).Nodup) :
    d.serviceFields = d.services.map fun s => (.string s.name,serviceValue s) := by
  simp [Document.serviceFields,serviceEntries_eq distinct]

theorem serviceFields_ne_nil {d : Document} (nonempty : d.services ≠ []) : d.serviceFields ≠ [] := by
  obtain ⟨s,rest,whole⟩ := List.exists_cons_of_ne_nil nonempty
  have told : s.name ∈ (serviceEntries d.services).map (·.1) :=
    mem_keys_serviceEntries.mpr (by simp [whole])
  intro empty
  rw [List.map_eq_nil_iff.mp empty] at told
  cases told

/-- The top level is restored whatever the services are. -/
theorem readRoot_documentValue_eq {d : Document} (wellFormed : d.WellFormed) :
    readRoot (documentValue d) = some <$> readServices d.draft d.serviceFields := by
  have version : Told readTopEntry TopSetting.apply {}
      (optionalField "version" (d.version.map .string)) { version := d.version } := by
    cases d.version with
    | none => rfl
    | some text => exact ⟨.version (some text),rfl,rfl⟩
  have name : Told readTopEntry TopSetting.apply { version := d.version }
      (optionalField "name" (d.name.map .string)) { version := d.version, name := d.name } := by
    cases d.name with
    | none => rfl
    | some text => exact ⟨.name (some text),rfl,rfl⟩
  have told := AllTold.cons version <| .cons name <|
    .cons (told_services (.mapping d.serviceFields)) <|
    .cons (declared_networks rfl wellFormed.networks) <|
    .cons (declared_volumes rfl wellFormed.volumes) .nil
  exact readRoot_of_told told rfl (serviceFields_ne_nil wellFormed.nonempty)

theorem readRoot_documentValue {d : Document} (wellFormed : d.WellFormed) (portable : d.Portable) :
    readRoot (documentValue d) = pure (some d) := by
  rw [readRoot_documentValue_eq wellFormed,serviceFields_eq portable.names,
    readServices_eq_pure wellFormed portable rfl rfl rfl rfl]
  rfl

/-- Reading the value of a document gives the document, and there is nothing to be noticed. -/
theorem ofValue_documentValue {d : Document} (wellFormed : d.WellFormed) (portable : d.Portable) :
    Document.ofValue (documentValue d) = .ok (d,[]) := by
  have read := readRoot_documentValue wellFormed portable
  rw [ofValue_eq_ok,read]
  exact ⟨rfl,rfl,wellFormed.ordered,rfl⟩

theorem ofValue_of_readBack {d : Document}
    (readBack : Value.read (documentValue d).write = .ok (documentValue d)) :
    Document.read (output d).text = Document.ofValue (documentValue d) := by
  change Document.read (documentValue d).write = _
  unfold Document.read
  rw [readBack]

theorem read_output {d : Document} (wellFormed : d.WellFormed) (portable : d.Portable)
    (readBack : Value.read (documentValue d).write = .ok (documentValue d)) :
    Document.read (output d).text = .ok (d,[]) :=
  (ofValue_of_readBack readBack).trans (ofValue_documentValue wellFormed portable)

/-- A document that was read is restored from the compose file that is written for it, without a
diagnostic, if the text of the file is read back as the value it was written from. -/
theorem composeFile_roundTrip {text : String} {d : Document} {notices : List Notice}
    (read : Document.read text = .ok (d,notices)) (portable : d.Portable)
    (readBack : Value.read (documentValue d).write = .ok (documentValue d)) :
    (output d).diagnostics = {} ∧ Document.read (output d).text = .ok (d,[]) :=
  ⟨rfl,read_output (wellFormed_of_read read) portable readBack⟩

/-- A service with a port in brackets, mount options and a variable that looks like a number. -/
def webText : String := "services:
  web:
    image: nginx:1.25
    ports: ['[::1]:53:53/udp']
    volumes: ['data:/srv:ro,z']
    environment: ['PORT=80']
volumes:
  data:
"

def web : Document :=
  { services := [
      { name := "web"
        image := "nginx:1.25"
        ports := [
          { hostIp := some "::1", hostPort := 53, containerPort := 53, protocol := .udp }]
        mounts := [
          { source := "data", target := "/srv", kind := .volume,
            options := TextSet.ofList ["ro","z"] }]
        environment := Dict.ofList [("PORT","80")] }]
    volumes := Dict.ofList [("data",{ name := "data" })] }

/-- Failures need not be compared to tell whether there is a certain result. -/
instance decidableEqOk [DecidableEq α] (e : Except ε α) (a : α) : Decidable (e = .ok a) :=
  match e with
  | .ok b => decidable_of_iff (b = a) (by simp)
  | .error _ => isFalse nofun

theorem read_webText : Document.read webText = .ok (web,[]) := by decide +kernel

theorem portable_web : web.Portable := by decide +kernel

theorem composeFile_roundTrip_web :
    Document.read webText = .ok (web,[]) ∧ web.Portable ∧
      Value.read (documentValue web).write = .ok (documentValue web) ∧
      (output web).diagnostics = {} ∧ Document.read (output web).text = .ok (web,[]) := by
  have readBack : Value.read (documentValue web).write = .ok (documentValue web) := by
    decide +kernel
  exact ⟨read_webText,portable_web,readBack,
    composeFile_roundTrip read_webText portable_web readBack⟩

end ComposeToPodman.Compose
