import ComposeToPodman.Compose.Read.Document
import ComposeToPodman.Proofs.Compose.Mounts
import ComposeToPodman.Proofs.Compose.Ports
import ComposeToPodman.Proofs.Compose.StartOrder
import ComposeToPodman.Proofs.Compose.Tokens

/-! What holds of every document that is read: first of each setting, then of a service as far as
the service alone decides, and at last of what refers from one service to another. -/
namespace ComposeToPodman.Compose

open Yaml (Value)

/-- What holds of a service whatever else the document has. -/
structure Service.Sound (s : Service) : Prop where
  image : Text.trim s.image = s.image
  ports : ∀ p ∈ s.ports, p.InRange
  mounts : ∀ m ∈ s.mounts, m.Complete
  restart : ∀ r, s.restart = some r → r.Bounded
  networkMode : ∀ m, s.networkMode = some m → m.Readable

/-- What holds of a service of a document, given the services' names and the networks. -/
structure Service.WellFormed (names : List String) (networks : Dict Network) (s : Service) : Prop
    extends s.Sound where
  name : isName s.name = true
  hasImage : s.image ≠ ""
  exclusive : s.networkMode.isSome = true → s.networks = []
  distinct : s.networks.Nodup
  known : ∀ n ∈ s.networks, n = defaultNetwork ∨ networks.contains n = true
  dependencies : ∀ n ∈ s.dependsOn, n ∈ names

structure Document.WellFormed (d : Document) : Prop where
  nonempty : d.services ≠ []
  services : ∀ s ∈ d.services, s.WellFormed (d.services.map (·.name)) d.networks
  networks : ∀ key ∈ d.networks.keys, isName key = true
  volumes : ∀ key ∈ d.volumes.keys, isName key = true
  ordered : ∃ order, d.startOrder = .ok order

def Setting.Sound : Setting → Prop
  | image reference => Text.trim reference = reference
  | ports l => ∀ p ∈ l, p.InRange
  | mounts l => ∀ m ∈ l, m.Complete
  | restart policy => policy.Bounded
  | networkMode mode => mode.Readable
  | _ => True

theorem value_decodeSetting {service key : String} {decoded : Yaml.Decode.Result α}
    {read : α → Reading Setting} {setting : Setting}
    (told : (decodeSetting service key decoded read).value = some setting) :
    ∃ a, decoded = .ok a ∧ (read a).value = setting := by
  cases decoded with
  | ok a => exact ⟨a,rfl,Option.some.inj told⟩
  | error => cases told

theorem value_tokenSetting {service : String} {value : Value} {parse : String → Option Setting}
    {unknown : String → ServiceNotice} {setting : Setting}
    (told : (tokenSetting service value parse unknown).value = some setting) :
    ∃ token, parse token = some setting := by
  unfold tokenSetting at told
  split at told
  next found =>
    obtain ⟨token,_,parsed⟩ := Option.bind_eq_some_iff.mp found
    exact ⟨token,parsed.trans told⟩
  next => cases told

theorem value_wordsSetting {service key : String} {value : Value}
    {make : Option (List String) → Setting} {setting : Setting}
    (told : (wordsSetting service key value make).value = some setting) :
    ∃ words, setting = make words := by
  unfold wordsSetting at told
  split at told <;> exact ⟨_,(Option.some.inj told).symm⟩

theorem trim_trim (s : String) : Text.trim (Text.trim s) = Text.trim s :=
  Text.trim_eq_self (Text.trimmed_trim s)

theorem sound_of_readSetting {service key : String} {volumes : Dict Volume} {value : Value}
    {setting : Setting} (read : (readSetting service volumes key value).value = some setting) :
    setting.Sound := by
  unfold readSetting at read
  split at read
  next =>
    obtain rfl := Option.some.inj read
    cases scalarText? value with
    | none => exact rfl
    | some text => exact trim_trim text
  next =>
    obtain ⟨forms,_,rfl⟩ := value_decodeSetting read
    intro p member
    simp only [Reading.value_filterMap,List.mem_filterMap] at member
    obtain ⟨form,_,port⟩ := member
    exact inRange_of_readPort port
  next =>
    obtain ⟨forms,_,rfl⟩ := value_decodeSetting read
    intro m member
    simp only [Reading.value_filterMap,List.mem_filterMap] at member
    obtain ⟨form,_,mount⟩ := member
    exact complete_of_readMount mount
  case h_6 =>
    obtain ⟨token,parsed⟩ := value_tokenSetting read
    obtain ⟨policy,policyRead,rfl⟩ := Option.map_eq_some_iff.mp parsed
    exact RestartPolicy.bounded_of_ofText? policyRead
  case h_7 =>
    obtain ⟨token,parsed⟩ := value_tokenSetting read
    obtain ⟨mode,modeRead,rfl⟩ := Option.map_eq_some_iff.mp parsed
    exact NetworkMode.readable_of_ofText? modeRead
  case h_10 | h_11 =>
    obtain ⟨words,rfl⟩ := value_wordsSetting read
    trivial
  case h_13 => cases read
  all_goals
    obtain ⟨form,_,rfl⟩ := value_decodeSetting read
    trivial

theorem Service.Sound.apply {s : Service} (sound : s.Sound) {setting : Setting}
    (told : setting.Sound) : (setting.apply s).Sound := by
  obtain ⟨image,ports,mounts,restart,networkMode⟩ := sound
  cases setting with
  | image => exact ⟨told,ports,mounts,restart,networkMode⟩
  | ports => exact ⟨image,told,mounts,restart,networkMode⟩
  | mounts => exact ⟨image,ports,told,restart,networkMode⟩
  | restart => exact ⟨image,ports,mounts,fun _ same => Option.some.inj same ▸ told,networkMode⟩
  | networkMode => exact ⟨image,ports,mounts,restart,fun _ same => Option.some.inj same ▸ told⟩
  | _ => exact ⟨image,ports,mounts,restart,networkMode⟩

@[simp] theorem Setting.name_apply (s : Service) (setting : Setting) :
    (setting.apply s).name = s.name := by cases setting <;> rfl

theorem name_foldl_apply (settings : List Setting) (s : Service) :
    (settings.foldl Setting.apply s).name = s.name :=
  List.foldlRecOn (motive := (·.name = s.name)) settings Setting.apply rfl
    fun t same setting _ => (Setting.name_apply t setting).trans same

theorem Service.Sound.foldl_apply {settings : List Setting} {s : Service} (sound : s.Sound)
    (told : ∀ setting ∈ settings, setting.Sound) : (settings.foldl Setting.apply s).Sound :=
  List.foldlRecOn settings Setting.apply sound
    fun _ sound setting member => sound.apply (told setting member)

theorem sound_of_readEntry {service : String} {volumes : Dict Volume} {entry : Value × Value}
    {setting : Setting} (read : (readEntry service volumes entry).value = some setting) :
    setting.Sound := by
  unfold readEntry at read
  split at read
  next => exact sound_of_readSetting read
  next => cases read

theorem Service.sound_of_name (name : String) : Service.Sound { name } :=
  ⟨rfl,by simp,by simp,by simp,by simp⟩

theorem sound_of_readService {name : String} {volumes : Dict Volume} {value : Value} {s : Service}
    (read : (readService volumes name value).value = some s) :
    s.Sound ∧ s.image ≠ "" ∧ s.name = name := by
  unfold readService at read
  split at read
  next entries =>
    rw [Reading.value_bind] at read
    dsimp only at read
    split at read
    next => cases read
    next image =>
      obtain rfl := Option.some.inj read
      refine ⟨(Service.sound_of_name name).foldl_apply fun setting member => ?_,
        by simpa using image,name_foldl_apply _ _⟩
      simp only [Reading.value_filterMap,List.mem_filterMap] at member
      obtain ⟨entry,_,told⟩ := member
      exact sound_of_readEntry told
  next => cases read

/-- A service that is left out is a problem. -/
theorem problems_of_readServiceEntry {volumes : Dict Volume} {entry : Value × Value}
    (dropped : (readServiceEntry volumes entry).value = none) :
    (readServiceEntry volumes entry).problems ≠ [] := by
  unfold readServiceEntry at dropped ⊢
  split at dropped
  next name _ =>
    split at dropped
    next named =>
      rw [if_pos named]
      unfold readService at dropped ⊢
      split at dropped
      next entries =>
        rw [Reading.value_bind] at dropped
        dsimp only at dropped ⊢
        split at dropped
        next image =>
          rw [Reading.problems_bind,if_pos image]
          simp [Reading.report]
        next => cases dropped
      next => simp [Reading.report]
    next unnamed => simp [unnamed,Reading.report]
  next => simp [Reading.report]

theorem sound_of_readServiceEntry {volumes : Dict Volume} {entry : Value × Value} {s : Service}
    (read : (readServiceEntry volumes entry).value = some s) :
    s.Sound ∧ s.image ≠ "" ∧ isName s.name = true := by
  unfold readServiceEntry at read
  split at read
  next name _ =>
    split at read
    next named =>
      obtain ⟨sound,image,rfl⟩ := sound_of_readService read
      exact ⟨sound,image,named⟩
    next => cases read
  next => cases read

/-- The network that a name stands for. -/
def resolvedName (declared : Dict Network) (name : String) : String :=
  if name == defaultNetwork || declared.contains name then name else defaultNetwork

theorem known_resolvedName (declared : Dict Network) (name : String) :
    resolvedName declared name = defaultNetwork ∨
      declared.contains (resolvedName declared name) = true := by
  unfold resolvedName
  split
  next known => simpa using known
  next => exact .inl rfl

theorem value_resolveNetworks_cons (service : String) (declared : Dict Network)
    (resolved : List String) (name : String) (rest : List String) :
    (resolveNetworks service declared resolved (name :: rest)).value =
      (resolveNetworks service declared
        (if resolved.contains (resolvedName declared name) then resolved
          else resolved ++ [resolvedName declared name]) rest).value := by
  rw [resolveNetworks,resolvedName]
  dsimp only
  split <;> rfl

theorem known_resolveNetworks (service : String) {declared : Dict Network}
    (listed : List String) {resolved : List String} (distinct : resolved.Nodup)
    (known : ∀ n ∈ resolved, n = defaultNetwork ∨ declared.contains n = true) :
    (resolveNetworks service declared resolved listed).value.Nodup ∧
      ∀ n ∈ (resolveNetworks service declared resolved listed).value,
        n = defaultNetwork ∨ declared.contains n = true := by
  -- By induction on the names that are listed: those that were resolved stay distinct and known.
  induction listed generalizing resolved with
  | nil => exact ⟨distinct,known⟩
  | cons name rest ih =>
    rw [value_resolveNetworks_cons]
    split
    next => exact ih distinct known
    next absent =>
      have apart : ∀ n ∈ resolved, n ≠ resolvedName declared name := by
        rintro n member rfl
        exact absent (List.contains_iff_mem.mpr member)
      refine ih (List.nodup_append.mpr ⟨distinct,by simp,by simpa using apart⟩) ?_
      intro n member
      rcases List.mem_append.mp member with old | new
      · exact known n old
      · exact List.mem_singleton.mp new ▸ known_resolvedName declared name

theorem problems_reportUnknown (service : String) (names dependencies : List String) :
    (reportUnknown service names dependencies).problems =
      (dependencies.filter (!names.contains ·)).map (.unknownDependency service) := by
  induction dependencies with
  | nil => rfl
  | cons name rest ih =>
    rw [reportUnknown]
    dsimp only
    rw [List.filter_cons]
    split
    next => simp [ih,Reading.report]
    next => simp [ih]

theorem value_resolveService (names : List String) (declared : Dict Network) (s : Service) :
    (resolveService names declared s).value =
      let listed := if s.networkMode.isSome then [] else s.networks
      { s with networks := (resolveNetworks s.name declared [] listed).value } := by
  unfold resolveService
  dsimp only
  split <;> rfl

/-- Resolving the references of a sound service makes it well-formed, unless a problem is found. -/
theorem wellFormed_of_resolveService {names : List String} {declared : Dict Network} {s : Service}
    (sound : s.Sound) (image : s.image ≠ "") (named : isName s.name = true)
    (clean : (resolveService names declared s).problems = []) :
    (resolveService names declared s).value.WellFormed names declared := by
  have dependencies : ∀ n ∈ s.dependsOn, n ∈ names := by
    rw [resolveService,Reading.problems_bind,List.append_eq_nil_iff,problems_reportUnknown] at clean
    simpa using clean.1
  rw [value_resolveService]
  have resolved := known_resolveNetworks s.name
    (if s.networkMode.isSome then [] else s.networks) .nil (List.forall_mem_nil fun n =>
      n = defaultNetwork ∨ declared.contains n = true)
  refine
    { image := sound.image
      ports := sound.ports
      mounts := sound.mounts
      restart := sound.restart
      networkMode := sound.networkMode
      name := named
      hasImage := image
      exclusive := fun mode => ?_
      distinct := resolved.1
      known := resolved.2
      dependencies }
  dsimp only at mode
  simp [mode,resolveNetworks]

theorem isName_of_readResources {key kind : String} {read : Value → Yaml.Decode.Result α} {bare : α}
    {make : String → α → β} {value : Value} {name : String}
    (member : name ∈ (readResources key kind read bare make value).value.keys) :
    isName name = true := by
  unfold readResources at member
  split at member
  next => cases member
  next forms _ =>
    obtain ⟨e,inside,rfl⟩ := List.mem_map.mp member
    have inside := Dict.mem_of_mem_ofList inside
    simp only [Reading.value_filterMap,List.mem_filterMap] at inside
    obtain ⟨⟨key,form⟩,_,told⟩ := inside
    dsimp only at told
    split at told
    next named =>
      obtain rfl := Option.some.inj told
      exact named
    next => cases told

def TopSetting.Sound : TopSetting → Prop
  | networks declared => ∀ key ∈ declared.keys, isName key = true
  | volumes declared => ∀ key ∈ declared.keys, isName key = true
  | _ => True

structure Draft.Sound (d : Draft) : Prop where
  networks : ∀ key ∈ d.networks.keys, isName key = true
  volumes : ∀ key ∈ d.volumes.keys, isName key = true

theorem Draft.Sound.apply {d : Draft} (sound : d.Sound) {setting : TopSetting}
    (told : setting.Sound) : (setting.apply d).Sound := by
  cases setting with
  | networks => exact ⟨told,sound.volumes⟩
  | volumes => exact ⟨sound.networks,told⟩
  | _ => exact ⟨sound.networks,sound.volumes⟩

theorem Draft.Sound.foldl_apply {settings : List TopSetting} {d : Draft} (sound : d.Sound)
    (told : ∀ setting ∈ settings, setting.Sound) : (settings.foldl TopSetting.apply d).Sound :=
  List.foldlRecOn settings TopSetting.apply sound
    fun _ sound _ member => sound.apply (told _ member)

theorem sound_of_readTopEntry {entry : Value × Value} {setting : TopSetting}
    (read : (readTopEntry entry).value = some setting) : setting.Sound := by
  unfold readTopEntry at read
  split at read
  case h_2 => cases read
  unfold readTopSetting at read
  split at read
  case h_4 | h_5 =>
    obtain rfl := Option.some.inj read
    exact fun key member => isName_of_readResources member
  case h_6 => split at read <;> cases read
  all_goals
    obtain rfl := Option.some.inj read
    trivial

/-- The draft of a top level. -/
def draftOf (entries : List (Value × Value)) : Draft :=
  (Reading.filterMap readTopEntry entries).value.foldl TopSetting.apply {}

theorem sound_draftOf (entries : List (Value × Value)) : (draftOf entries).Sound := by
  have empty : Draft.Sound {} := ⟨List.forall_mem_nil _,List.forall_mem_nil _⟩
  refine empty.foldl_apply fun setting member => ?_
  simp only [Reading.value_filterMap,List.mem_filterMap] at member
  obtain ⟨entry,_,told⟩ := member
  exact sound_of_readTopEntry told

/-- The end of reading a document, when the top level is known. -/
def readDraft (d : Draft) : Reading (Option Document) :=
  match d.services with
  | .null | .mapping [] => do
    .report .noServices
    return none
  | .mapping services => some <$> readServices d services
  | _ => do
    .report .servicesNotMapping
    return none

theorem readRoot_mapping (entries : List (Value × Value)) :
    readRoot (.mapping entries) =
      Reading.filterMap readTopEntry entries >>= fun settings =>
        readDraft (settings.foldl TopSetting.apply {}) := rfl

theorem readDraft_of_services {d : Draft} {services : List (Value × Value)}
    (whole : d.services = .mapping services) (nonempty : services ≠ []) :
    readDraft d = some <$> readServices d services := by
  obtain ⟨e,rest,rfl⟩ := List.exists_cons_of_ne_nil nonempty
  unfold readDraft
  rw [whole]

/-- Only a mapping that has entries gives services; anything else is a problem. -/
theorem readDraft_cases (d : Draft) :
    (∃ services, d.services = .mapping services ∧ services ≠ [] ∧
      readDraft d = some <$> readServices d services) ∨
    ((readDraft d).value = none ∧ (readDraft d).problems ≠ []) := by
  unfold readDraft
  split
  case h_3 services nonempty whole => exact .inl ⟨services,whole,nonempty,rfl⟩
  all_goals exact .inr ⟨rfl,List.cons_ne_nil _ _⟩

/-- What becomes of a root: a document from its services, or a problem. -/
theorem readRoot_cases (root : Value) :
    (∃ entries services : List (Value × Value), root = .mapping entries ∧
      (draftOf entries).services = .mapping services ∧ services ≠ []) ∨
    ((readRoot root).value = none ∧ (readRoot root).problems ≠ []) := by
  cases root with
  | mapping entries =>
    rcases readDraft_cases (draftOf entries) with ⟨services,whole,nonempty,_⟩ | ⟨missing,problems⟩
    · exact .inl ⟨entries,services,rfl,whole,nonempty⟩
    · refine .inr ?_
      rw [readRoot_mapping,Reading.value_bind,Reading.problems_bind]
      exact ⟨missing,fun clean => problems (List.append_eq_nil_iff.mp clean).2⟩
  | _ => exact .inr ⟨rfl,List.cons_ne_nil _ _⟩

/-- What is read of a top level and of its services, one after the other. -/
theorem readRoot_of_services {entries services : List (Value × Value)}
    (whole : (draftOf entries).services = .mapping services) (nonempty : services ≠ []) :
    (readRoot (.mapping entries)).value = some (readServices (draftOf entries) services).value ∧
      (readRoot (.mapping entries)).problems =
        (Reading.filterMap readTopEntry entries).problems ++
          (readServices (draftOf entries) services).problems ∧
      (readRoot (.mapping entries)).notices =
        (Reading.filterMap readTopEntry entries).notices ++
          (readServices (draftOf entries) services).notices := by
  have read := readDraft_of_services whole nonempty
  rw [readRoot_mapping,Reading.value_bind,Reading.problems_bind,Reading.notices_bind,← draftOf,read,
    Reading.problems_map,Reading.notices_map]
  exact ⟨rfl,rfl,rfl⟩

/-- The services of a document are read from a mapping that has entries. -/
theorem readServices_of_readRoot {root : Value} {d : Document}
    (read : (readRoot root).value = some d) (clean : (readRoot root).problems = []) :
    ∃ entries services : List (Value × Value), root = .mapping entries ∧
      (draftOf entries).services = .mapping services ∧ services ≠ [] ∧
      (readServices (draftOf entries) services).value = d ∧
      (readServices (draftOf entries) services).problems = [] := by
  rcases readRoot_cases root with ⟨entries,services,rfl,whole,nonempty⟩ | ⟨missing,_⟩
  · obtain ⟨value,problems,_⟩ := readRoot_of_services whole nonempty
    rw [value] at read
    rw [problems] at clean
    exact ⟨entries,services,rfl,whole,nonempty,Option.some.inj read,
      (List.append_eq_nil_iff.mp clean).2⟩
  · rw [missing] at read
    cases read

/-- Services keep their names when their references are resolved. -/
theorem names_readServices (draft : Draft) (services : List (Value × Value)) :
    (readServices draft services).value.services.map (·.name) =
      (services.filterMap fun e => (readServiceEntry draft.volumes e).value).map (·.name) := by
  simp [readServices,value_resolveService,Function.comp_def]

theorem wellFormed_of_readServices {draft : Draft} {services : List (Value × Value)}
    (sound : draft.Sound) (nonempty : services ≠ [])
    (clean : (readServices draft services).problems = [])
    (ordered : ∃ order, (readServices draft services).value.startOrder = .ok order) :
    (readServices draft services).value.WellFormed := by
  let read := (Reading.filterMap (readServiceEntry draft.volumes) services).value
  let names := read.map (·.name)
  have resolved : (readServices draft services).value.services =
      read.map fun s => (resolveService names draft.networks s).value := by
    simp [readServices,read,names]
  have sameNames : (readServices draft services).value.services.map (·.name) = names := by
    rw [names_readServices]
    simp [names,read]
  simp only [readServices,Reading.problems_bind,List.append_eq_nil_iff,Reading.problems_mapM,
    List.flatMap_eq_nil_iff,Reading.problems_filterMap,Reading.problems_pure] at clean
  obtain ⟨entriesClean,servicesClean,_⟩ := clean
  refine {
    nonempty := ?_
    services := ?_
    networks := sound.networks
    volumes := sound.volumes
    ordered }
  · obtain ⟨entry,rest,rfl⟩ := List.exists_cons_of_ne_nil nonempty
    cases first : (readServiceEntry draft.volumes entry).value with
    | none =>
      have clean := entriesClean entry List.mem_cons_self
      exact absurd clean (problems_of_readServiceEntry first)
    | some s => simp [resolved,read,first]
  · rw [sameNames,resolved]
    intro s member
    obtain ⟨s,inside,rfl⟩ := List.mem_map.mp member
    have clean := servicesClean s inside
    simp only [read,Reading.value_filterMap,List.mem_filterMap] at inside
    obtain ⟨entry,_,told⟩ := inside
    obtain ⟨sound,image,named⟩ := sound_of_readServiceEntry told
    exact wellFormed_of_resolveService sound image named clean

theorem ofValue_eq_ok {root : Value} {d : Document} {notices : List Notice} :
    Document.ofValue root = .ok (d,notices) ↔
      (readRoot root).value = some d ∧ (readRoot root).problems = [] ∧
        (∃ order, d.startOrder = .ok order) ∧ (readRoot root).notices = notices := by
  unfold Document.ofValue
  dsimp only
  split
  next e value clean =>
    rw [value,clean]
    cases outcome : e.startOrderOrFail with
    | error cause =>
      refine ⟨(nomatch ·),?_⟩
      rintro ⟨same,_,⟨order,ordered⟩,_⟩
      obtain rfl := Option.some.inj same
      exact nomatch outcome.symm.trans (Document.startOrderOrFail_eq_ok.mpr ordered)
    | ok order =>
      constructor
      · intro read
        obtain ⟨rfl,rfl⟩ := Prod.mk.inj (Except.ok.inj read)
        exact ⟨rfl,rfl,⟨order,Document.startOrderOrFail_eq_ok.mp outcome⟩,rfl⟩
      · rintro ⟨same,_,_,rfl⟩
        obtain rfl := Option.some.inj same
        rfl
  next other =>
    refine ⟨(nomatch ·),?_⟩
    rintro ⟨value,clean,_⟩
    exact (other d value clean).elim

theorem wellFormed_of_ofValue {root : Value} {d : Document} {notices : List Notice}
    (read : Document.ofValue root = .ok (d,notices)) : d.WellFormed := by
  obtain ⟨value,clean,ordered,_⟩ := ofValue_eq_ok.mp read
  obtain ⟨entries,services,_,_,nonempty,rfl,clean⟩ := readServices_of_readRoot value clean
  exact wellFormed_of_readServices (sound_draftOf entries) nonempty clean ordered

/-- A text is read in two steps. -/
theorem read_eq_ok {text : String} {d : Document} {notices : List Notice} :
    Document.read text = .ok (d,notices) ↔
      ∃ root, Yaml.Value.read text = .ok root ∧ Document.ofValue root = .ok (d,notices) := by
  unfold Document.read
  split
  next root given => simp [given]
  next cause given => simp [given]

/-- Every document that is read is well-formed. -/
theorem wellFormed_of_read {text : String} {d : Document} {notices : List Notice}
    (read : Document.read text = .ok (d,notices)) : d.WellFormed := by
  obtain ⟨_,_,read⟩ := read_eq_ok.mp read
  exact wellFormed_of_ofValue read

end ComposeToPodman.Compose
