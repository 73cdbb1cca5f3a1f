import ComposeToPodman.Proofs.Compose.Acceptance
import ComposeToPodman.Proofs.Compose.ListsAndMaps

/-! One form in the place of the other. Networks and dependencies come in the order of a list or in
that of the keys of a map, and nothing else of a document depends on the form. -/
namespace ComposeToPodman.Compose

open List (Forall₂)
open Relation (ReflTransGen TransGen)
open Yaml (Value)

/-- A list and a map, as they are decoded, for the same setting; either may be the first. -/
inductive BothForms : String → Value → Value → Prop
  | environment {listed : List (String × Option Form.Scalar)} {values : Dict (Option Form.Scalar)}
      (list : Form.Environment.ofValue v = .ok (.list (listed.map variableItem)))
      (map : Form.Environment.ofValue w = .ok (.map values))
      (assignable : Dict.Assignable values) (order : listed.Perm values.entries) :
      BothForms "environment" v w
  | labels {listed : List (String × Form.Scalar)} {values : Dict Form.Scalar}
      (list : Form.Labels.ofValue v = .ok (.list (listed.map labelItem)))
      (map : Form.Labels.ofValue w = .ok (.map values))
      (assignable : Dict.Assignable values) (order : listed.Perm values.entries) :
      BothForms "labels" v w
  | dependsOn {names : List String} {conditions : Dict Form.Condition}
      (list : Form.Dependencies.ofValue v = .ok (.list names))
      (map : Form.Dependencies.ofValue w = .ok (.map conditions))
      (same : ∀ name, name ∈ names ↔ name ∈ conditions.keys) : BothForms "depends_on" v w
  | networks {names : List String} {attachments : Dict (Option Form.Attachment)}
      (list : Form.Networks.ofValue v = .ok (.list names))
      (map : Form.Networks.ofValue w = .ok (.map attachments))
      (same : ∀ name, name ∈ names ↔ name ∈ attachments.keys) : BothForms "networks" v w
  | symm (both : BothForms key v w) : BothForms key w v

/-- Settings that differ at most in the order of names. -/
inductive Setting.Akin : Setting → Setting → Prop
  | same (setting : Setting) : Setting.Akin setting setting
  | networks (same : ∀ n, n ∈ names ↔ n ∈ others) : Setting.Akin (.networks names) (.networks others)
  | dependsOn (same : ∀ n, n ∈ names ↔ n ∈ others) :
      Setting.Akin (.dependsOn names) (.dependsOn others)

theorem Setting.Akin.symm {x y : Setting} (akin : x.Akin y) : y.Akin x := by
  cases akin with
  | same => exact .same x
  | networks same => exact .networks fun n => (same n).symm
  | dependsOn same => exact .dependsOn fun n => (same n).symm

theorem BothForms.readSetting {key : String} {v w : Value} (both : BothForms key v w)
    (service : String) (volumes : Dict Volume) :
    ∃ x y, (readSetting service volumes key v).value = some x ∧
      (readSetting service volumes key w).value = some y ∧ x.Akin y := by
  induction both with
  | symm _ ih =>
    obtain ⟨x,y,first,second,akin⟩ := ih
    exact ⟨y,x,second,first,akin.symm⟩
  | @environment _ _ _ values list map assignable order =>
    refine ⟨_,_,?_,?_,.same (.environment (dictOf (setVariables values.entries)))⟩
    · simp [Compose.readSetting,decodeSetting,list,readEnvironment_list assignable order]
    · simp [Compose.readSetting,decodeSetting,map,readEnvironment_map]
  | @labels _ _ _ values list map assignable order =>
    refine ⟨_,_,?_,?_,.same (.labels (labelsOf (.map values)))⟩
    · simp [Compose.readSetting,decodeSetting,list,labelsOf_list assignable order]
    · simp [Compose.readSetting,decodeSetting,map]
  | dependsOn list map same =>
    refine ⟨_,_,?_,?_,.dependsOn same⟩
    · simp [Compose.readSetting,decodeSetting,list,value_readDependencies,Form.Dependencies.names]
    · simp [Compose.readSetting,decodeSetting,map,value_readDependencies,Form.Dependencies.names]
  | networks list map same =>
    refine ⟨_,_,?_,?_,.networks same⟩
    · simp [Compose.readSetting,decodeSetting,list,value_readNetworks,Form.Networks.names]
    · simp [Compose.readSetting,decodeSetting,map,value_readNetworks,Form.Networks.names]

/-- One entry of a service with its value in the other form, or as it is. -/
inductive EntryInterchanged : Value × Value → Value × Value → Prop
  | either (text : k.text? = some key) (both : BothForms key v w) : EntryInterchanged (k,v) (k,w)
  | same (e : Value × Value) : EntryInterchanged e e

theorem EntryInterchanged.readEntry {e f : Value × Value} (interchanged : EntryInterchanged e f)
    (service : String) (volumes : Dict Volume) :
    Option.Rel Setting.Akin (readEntry service volumes e).value
      (readEntry service volumes f).value := by
  cases interchanged with
  | either text both =>
    obtain ⟨x,y,first,second,akin⟩ := both.readSetting service volumes
    simp only [Compose.readEntry,text,first,second]
    exact .some akin
  | same =>
    cases (Compose.readEntry service volumes e).value with
    | none => exact .none
    | some x => exact .some (.same x)

/-- Services that differ at most in the order in which networks and dependencies are named. -/
inductive Service.Akin (s : Service) : Service → Prop
  | intro (networks : ∀ n, n ∈ s.networks ↔ n ∈ names)
      (dependsOn : ∀ n, n ∈ s.dependsOn ↔ n ∈ others) :
      Service.Akin s { s with networks := names, dependsOn := others }

theorem Service.Akin.refl (s : Service) : s.Akin s := .intro (fun _ => .rfl) fun _ => .rfl

theorem Service.Akin.name {s t : Service} (akin : s.Akin t) : t.name = s.name := by
  cases akin
  rfl

theorem Service.Akin.image {s t : Service} (akin : s.Akin t) : t.image = s.image := by
  cases akin
  rfl

theorem Service.Akin.apply {s t : Service} (akin : s.Akin t) {x y : Setting} (settings : x.Akin y) :
    Service.Akin (x.apply s) (y.apply t) := by
  obtain ⟨networks,dependsOn⟩ := akin
  cases settings with
  | same =>
    cases x with
    | networks => exact .intro (fun _ => .rfl) dependsOn
    | dependsOn => exact .intro networks fun _ => .rfl
    | _ => exact .intro networks dependsOn
  | networks same => exact .intro same dependsOn
  | dependsOn same => exact .intro networks same

theorem Service.Akin.foldl {s t : Service} (akin : s.Akin t) {xs ys : List Setting}
    (each : Forall₂ Setting.Akin xs ys) :
    Service.Akin (xs.foldl Setting.apply s) (ys.foldl Setting.apply t) := by
  induction each generalizing s t with
  | nil => exact akin
  | cons head _ ih => exact ih (akin.apply head)

/-- Two readings of what may be a service: alike or none, with the same problems. -/
structure ReadAkin (r s : Reading (Option Service)) : Prop where
  value : Option.Rel Service.Akin r.value s.value
  problems : r.problems = s.problems

theorem ReadAkin.refl (r : Reading (Option Service)) : ReadAkin r r := by
  refine ⟨?_,rfl⟩
  cases r.value with
  | none => exact .none
  | some s => exact .some (.refl s)

/-- The settings of a service, each in either form. -/
inductive SettingsInterchanged : Value → Value → Prop
  | settings (each : Forall₂ EntryInterchanged settings others) :
      SettingsInterchanged (.mapping settings) (.mapping others)
  | same (v : Value) : SettingsInterchanged v v

theorem readService_interchanged (volumes : Dict Volume) (name : String) {v w : Value}
    (interchanged : SettingsInterchanged v w) :
    ReadAkin (readService volumes name v) (readService volumes name w) := by
  cases interchanged with
  | same => exact .refl _
  | @settings settings others each =>
    have read : Forall₂ Setting.Akin
        (settings.filterMap fun e => (readEntry name volumes e).value)
        (others.filterMap fun e => (readEntry name volumes e).value) :=
      List.rel_filterMap (fun _ _ entry => entry.readEntry name volumes) each
    have akin : (serviceOf volumes name settings).Akin (serviceOf volumes name others) := by
      simp only [serviceOf,Reading.value_filterMap]
      exact (Service.Akin.refl { name }).foldl read
    -- An image has one form, so it is missing from both or from none.
    by_cases missing : (serviceOf volumes name settings).image = ""
    · obtain ⟨value,problems⟩ := readService_of_noImage missing
      obtain ⟨otherValue,otherProblems⟩ := readService_of_noImage (akin.image.trans missing)
      exact ⟨by rw [value,otherValue]; exact .none,problems.trans otherProblems.symm⟩
    · obtain ⟨value,problems⟩ := readService_of_image missing
      obtain ⟨otherValue,otherProblems⟩ := readService_of_image (akin.image ▸ missing)
      exact ⟨by rw [value,otherValue]; exact .some akin,problems.trans otherProblems.symm⟩

/-- Entries of `services` under one key, with the settings of each in either form. -/
def ServiceInterchanged (e f : Value × Value) : Prop := e.1 = f.1 ∧ SettingsInterchanged e.2 f.2

theorem readServiceEntry_interchanged (volumes : Dict Volume) {e f : Value × Value}
    (interchanged : ServiceInterchanged e f) :
    ReadAkin (readServiceEntry volumes e) (readServiceEntry volumes f) := by
  obtain ⟨key,settings⟩ := interchanged
  refine readServiceEntry_related ReadAkin.refl volumes key fun name => ?_
  exact readService_interchanged volumes name settings

theorem mem_resolveNetworks_iff (service : String) (declared : Dict Network)
    (resolved listed : List String) (n : String) :
    n ∈ (resolveNetworks service declared resolved listed).value ↔
      n ∈ resolved ∨ ∃ name ∈ listed, resolvedName declared name = n := by
  induction listed generalizing resolved with
  | nil => simp [resolveNetworks]
  | cons name rest ih =>
    rw [value_resolveNetworks_cons,ih,List.exists_mem_cons_iff,← or_assoc]
    refine or_congr_left ?_
    split
    next present =>
      have present := List.contains_iff_mem.mp present
      exact ⟨.inl,fun either => either.elim id fun same => same ▸ present⟩
    next => simp [eq_comm]

theorem Service.Akin.resolve {s t : Service} (akin : s.Akin t) (names others : List String)
    (declared : Dict Network) :
    Service.Akin (resolveService names declared s).value
      (resolveService others declared t).value := by
  obtain ⟨networks,dependsOn⟩ := akin
  rw [value_resolveService,value_resolveService]
  refine .intro (fun n => ?_) dependsOn
  rw [mem_resolveNetworks_iff,mem_resolveNetworks_iff]
  split
  next => rfl
  next => simp only [networks]

/-- Documents that differ at most in the order in which networks and dependencies are named. -/
inductive Document.Akin (d : Document) : Document → Prop
  | intro (each : Forall₂ Service.Akin d.services others) :
      Document.Akin d { d with services := others }

theorem names_of_akin {services others : List Service} (each : Forall₂ Service.Akin services others) :
    others.map (·.name) = services.map (·.name) := by
  induction each with
  | nil => rfl
  | cons head _ ih => rw [List.map_cons,List.map_cons,head.name,ih]

theorem find?_of_akin {services others : List Service} (each : Forall₂ Service.Akin services others)
    (name : String) :
    Option.Rel Service.Akin (services.find? (·.name == name)) (others.find? (·.name == name)) := by
  induction each with
  | nil => exact .none
  | @cons s _ _ _ head _ ih =>
    rw [List.find?_cons,List.find?_cons,head.name]
    cases s.name == name with
    | true => exact .some head
    | false => exact ih

theorem Document.Akin.dependsOn {d e : Document} (akin : d.Akin e) : e.DependsOn = d.DependsOn := by
  cases akin with
  | @intro others each =>
  funext name other
  have found := find?_of_akin each name
  simp only [eq_iff_iff,Document.DependsOn,Waits,Document.dependencies,Document.service?]
  generalize d.services.find? (·.name == name) = s,others.find? (·.name == name) = t at found ⊢
  cases found with
  | none => rfl
  | some akin =>
    cases akin with
    | intro _ dependsOn => exact (dependsOn other).symm

/-- An order of starting is there for both, or for none. -/
theorem Document.Akin.startOrder {d e : Document} (akin : d.Akin e) :
    (∃ order, e.startOrder = .ok order) ↔ ∃ order, d.startOrder = .ok order := by
  rw [Document.startOrder_ok_iff,Document.startOrder_ok_iff,akin.dependsOn]
  have byName (services : List Service) :
      (∀ s ∈ services, ∀ name, ReflTransGen d.DependsOn s.name name →
        ¬TransGen d.DependsOn name name) ↔
      ∀ start ∈ services.map (·.name), ∀ name, ReflTransGen d.DependsOn start name →
        ¬TransGen d.DependsOn name name := by
    rw [List.forall_mem_map]
  cases akin with
  | intro each => rw [byName,byName,names_of_akin each]

theorem unknownDependencies_of_akin {services others : List Service}
    (each : Forall₂ Service.Akin services others) :
    unknownDependencies services = [] ↔ unknownDependencies others = [] := by
  have known (names : List String) : (∀ s ∈ services, ∀ n ∈ s.dependsOn, n ∈ names) ↔
      ∀ t ∈ others, ∀ n ∈ t.dependsOn, n ∈ names := by
    induction each with
    | nil => rfl
    | cons head _ ih =>
      cases head with
      | intro _ dependsOn => simp only [List.forall_mem_cons,ih,dependsOn]
  have names := names_of_akin each
  have named (l : List Service) : unknownDependencies l = [] ↔
      ∀ s ∈ l, ∀ n ∈ s.dependsOn, n ∈ l.map (·.name) := by
    simp [unknownDependencies]
  rw [named,named,names,known]

/-- Services in the same order, the settings of each in either form. -/
inductive ServicesInterchanged : Value → Value → Prop
  | services (each : Forall₂ ServiceInterchanged services others) :
      ServicesInterchanged (.mapping services) (.mapping others)
  | same (v : Value) : ServicesInterchanged v v

/-- A top level in which settings of services are in either form. -/
inductive Interchanged : Value → Value → Prop
  | root (each : Forall₂ (EntryApart ServicesInterchanged) entries others) :
      Interchanged (.mapping entries) (.mapping others)
  | same (v : Value) : Interchanged v v

theorem readServices_interchanged (d : Draft) (v : Value) {services others : List (Value × Value)}
    (each : Forall₂ ServiceInterchanged services others) :
    Document.Akin (readServices d services).value
        (readServices { d with services := v } others).value ∧
      ((readServices d services).problems = [] ↔
        (readServices { d with services := v } others).problems = []) := by
  have entries := each.imp fun _ _ => readServiceEntry_interchanged d.volumes
  have read : Forall₂ Service.Akin (servicesOf d.volumes services) (servicesOf d.volumes others) :=
    List.rel_filterMap (fun _ _ entry => entry.value) entries
  have problems : (services.flatMap fun e => (readServiceEntry d.volumes e).problems) =
      others.flatMap fun e => (readServiceEntry d.volumes e).problems := by
    clear * - entries
    induction entries with
    | nil => rfl
    | cons head _ ih => rw [List.flatMap_cons,List.flatMap_cons,head.problems,ih]
  constructor
  · simp only [readServices,Reading.value_bind,Reading.value_mapM,Reading.value_filterMap,
      Reading.value_pure]
    refine .intro (List.rel_map (fun s t akin => ?_) read)
    exact akin.resolve _ _ d.networks
  · rw [problems_readServices,problems_readServices,List.append_eq_nil_iff,List.append_eq_nil_iff,
      problems,unknownDependencies_of_akin read]

theorem ServicesInterchanged.of_mapping {services : List (Value × Value)} {v : Value}
    (interchanged : ServicesInterchanged (.mapping services) v) :
    ∃ others, v = .mapping others ∧ Forall₂ ServiceInterchanged services others := by
  cases interchanged with
  | services each => exact ⟨_,rfl,each⟩
  | same => exact ⟨services,rfl,List.forall₂_same.mpr fun e _ => ⟨rfl,.same e.2⟩⟩

/-- With settings in the other form a document stays one that is alike. -/
theorem ofValue_of_interchanged {root other : Value} (interchanged : Interchanged root other)
    {d : Document} {notices : List Notice} (read : Document.ofValue root = .ok (d,notices)) :
    ∃ e told, Document.ofValue other = .ok (e,told) ∧ d.Akin e := by
  cases interchanged with
  | same =>
    exact ⟨d,notices,read,.intro (List.forall₂_same.mpr fun s _ => .refl s)⟩
  | @root entries others each =>
    obtain ⟨value,clean,ordered,_⟩ := ofValue_eq_ok.mp read
    obtain ⟨entries,services,⟨⟩,whole,nonempty,rfl,quiet⟩ := readServices_of_readRoot value clean
    -- The drafts differ in their services alone, and these are read last, whatever their place.
    obtain ⟨_,problems,drafts⟩ := readTopEntry_apart .same each
    obtain ⟨v,related,draft⟩ := drafts {} {} ⟨.null,.same .null,rfl⟩
    change ServicesInterchanged (draftOf entries).services v at related
    change draftOf others = { draftOf entries with services := v } at draft
    rw [whole] at related
    obtain ⟨otherServices,rfl,each⟩ := related.of_mapping
    obtain ⟨akin,quietIff⟩ :=
      readServices_interchanged (draftOf entries) (.mapping otherServices) each
    have otherNonempty : otherServices ≠ [] := by
      rintro rfl
      exact nonempty (List.forall₂_nil_right_iff.mp each)
    have otherWhole : (draftOf others).services = .mapping otherServices := by rw [draft]
    obtain ⟨otherValue,otherProblems,_⟩ := readRoot_of_services otherWhole otherNonempty
    rw [draft] at otherValue otherProblems
    refine ⟨_,_,ofValue_eq_ok.mpr ⟨otherValue,?_,akin.startOrder.mpr ordered,rfl⟩,akin⟩
    obtain ⟨_,wholeProblems,_⟩ := readRoot_of_services whole nonempty
    rw [wholeProblems,List.append_eq_nil_iff,problems] at clean
    rw [otherProblems,clean.1,quietIff.mp quiet,List.append_nil]

theorem EntryInterchanged.symm {e f : Value × Value} (interchanged : EntryInterchanged e f) :
    EntryInterchanged f e := by
  cases interchanged with
  | either text both => exact .either text both.symm
  | same => exact .same e

theorem SettingsInterchanged.symm {v w : Value} (interchanged : SettingsInterchanged v w) :
    SettingsInterchanged w v := by
  cases interchanged with
  | settings each => exact .settings (each.imp fun _ _ => EntryInterchanged.symm).flip
  | same => exact .same v

theorem ServicesInterchanged.symm {v w : Value} (interchanged : ServicesInterchanged v w) :
    ServicesInterchanged w v := by
  cases interchanged with
  | services each =>
    refine .services (each.imp fun e f ⟨key,settings⟩ => ?_).flip
    exact ⟨key.symm,settings.symm⟩
  | same => exact .same v

theorem Interchanged.symm {root other : Value} (interchanged : Interchanged root other) :
    Interchanged other root := by
  cases interchanged with
  | root each =>
    refine .root (each.imp fun e f apart => ?_).flip
    cases apart with
    | services key related => exact .services key related.symm
    | same => exact .same e
  | same => exact .same root

/-- Whether the settings of services are lists or maps has no say in whether a value is a document. -/
theorem accepted_iff_of_interchanged {root other : Value} (interchanged : Interchanged root other) :
    (∃ d notices, Document.ofValue root = .ok (d,notices)) ↔
      ∃ d notices, Document.ofValue other = .ok (d,notices) := by
  constructor
  · rintro ⟨d,notices,read⟩
    obtain ⟨e,told,accepted,_⟩ := ofValue_of_interchanged interchanged read
    exact ⟨e,told,accepted⟩
  · rintro ⟨d,notices,read⟩
    obtain ⟨e,told,accepted,_⟩ := ofValue_of_interchanged interchanged.symm read
    exact ⟨e,told,accepted⟩

/-- A setting has one meaning as a list, in whatever order, and as a map: the variables and the labels
are the same, and so are the notices of variables without a value; so are the names of dependencies
and networks, of which nothing is noticed. No document depends on the form. -/
theorem list_and_map_interchangeable (service : String) :
    (∀ (values : Dict (Option Form.Scalar)) (listed : List (String × Option Form.Scalar)),
      Dict.Assignable values → listed.Perm values.entries →
        ∃ environment noticed told,
          (∀ key value, (key,value) ∈ Dict.entries environment ↔
            ∃ v, (key,some v) ∈ values.entries ∧ v.asText = value) ∧
          readEnvironment service (.map values) = ⟨environment,noticed,[]⟩ ∧
          readEnvironment service (.list (listed.map variableItem)) = ⟨environment,told,[]⟩ ∧
          noticed = unsetNotices service values.entries ∧ told.Perm noticed) ∧
    (∀ (values : Dict Form.Scalar) (listed : List (String × Form.Scalar)),
      Dict.Assignable values → listed.Perm values.entries →
      (∀ key value, (key,value) ∈ (labelsOf (.map values)).entries ↔
        ∃ v, (key,v) ∈ values.entries ∧ v.asText = value) ∧
      labelsOf (.list (listed.map labelItem)) = labelsOf (.map values)) ∧
    (∀ (conditions : Dict Form.Condition) names, (∀ e ∈ conditions.entries, e.2.IsPlain) →
      (∀ n, n ∈ names ↔ n ∈ conditions.keys) →
        ∃ mapped, readDependencies service (.list names) = ⟨names,[],[]⟩ ∧
          readDependencies service (.map conditions) = ⟨mapped,[],[]⟩ ∧
          ∀ n, n ∈ names ↔ n ∈ mapped) ∧
    (∀ (attachments : Dict (Option Form.Attachment)) names,
      (∀ e ∈ attachments.entries, ∀ a, e.2 = some a → a.isCustomized = false) →
      (∀ n, n ∈ names ↔ n ∈ attachments.keys) →
        ∃ mapped, readNetworks service (.list names) = ⟨names,[],[]⟩ ∧
          readNetworks service (.map attachments) = ⟨mapped,[],[]⟩ ∧
          ∀ n, n ∈ names ↔ n ∈ mapped) ∧
    ∀ root other, Interchanged root other →
      ((∃ d notices, Document.ofValue root = .ok (d,notices)) ↔
        ∃ d notices, Document.ofValue other = .ok (d,notices)) := by
  refine ⟨?_,?_,?_,?_,?_⟩
  · intro values listed assignable order
    exact ⟨_,_,_,fun _ _ => mem_environment_iff,readEnvironment_map service values,
      readEnvironment_list assignable order service,rfl,unsetNotices_perm order service⟩
  · intro values listed assignable order
    exact ⟨fun _ _ => mem_labelsOf_iff,labelsOf_list assignable order⟩
  · intro conditions names plain same
    exact ⟨conditions.keys,rfl,readDependencies_map plain service,same⟩
  · intro attachments names plain same
    exact ⟨attachments.keys,rfl,readNetworks_map plain service,same⟩
  · intro root other interchanged
    exact accepted_iff_of_interchanged interchanged

/-- Three services, one of which has settings that may be lists or maps. -/
def market (environment labels dependencies networks : Value) : Value := .mapping [
  (.string "networks",.mapping [(.string "front",.null),(.string "back",.null)]),
  (.string "services",.mapping [
    (.string "web",.mapping [
      (.string "image",.string "web"),
      (.string "environment",environment),
      (.string "labels",labels),
      (.string "depends_on",dependencies),
      (.string "networks",networks)]),
    (.string "db",.mapping [(.string "image",.string "db")]),
    (.string "cache",.mapping [(.string "image",.string "cache")])])]

theorem interchanged_market (environment : BothForms "environment" v v')
    (labels : BothForms "labels" w w') (dependencies : BothForms "depends_on" x x')
    (networks : BothForms "networks" y y') : Interchanged (market v w x y) (market v' w' x' y') := by
  have entry {key : String} {a b : Value} (both : BothForms key a b) :
      EntryInterchanged (.string key,a) (.string key,b) := .either rfl both
  have web := SettingsInterchanged.settings (.cons (.same (.string "image",.string "web"))
    (.cons (entry environment) (.cons (entry labels) (.cons (entry dependencies)
      (.cons (entry networks) .nil)))))
  have same (e : Value × Value) : ServiceInterchanged e e := ⟨rfl,.same e.2⟩
  exact .root (.cons (.same _) (.cons (.services rfl (.services (.cons ⟨rfl,web⟩ (.cons (same _)
    (.cons (same _) .nil))))) .nil))

/-- A variable whose value has an equals sign, and one without a value. -/
def marketVariables : List (String × Option Form.Scalar) :=
  [("URL",some (.text "db?mode=ro")),("MODE",none)]

def marketLabels : List (String × Form.Scalar) := [("tier",.text "front"),("rank",.int 1)]

/-- One condition is the usual one, the other is left out. -/
def marketConditions : Dict Form.Condition :=
  Dict.ofList [("db",{ condition := some "service_started" }),("cache",{})]

def marketAttachments : Dict (Option Form.Attachment) :=
  Dict.ofList [("front",none),("back",some {})]

def marketLists : Value := market
  (.sequence [.string "URL=db?mode=ro",.string "MODE"])
  (.sequence [.string "tier=front",.string "rank=1"])
  (.sequence [.string "db",.string "cache"])
  (.sequence [.string "front",.string "back"])

def marketMaps : Value := market
  (.mapping [(.string "URL",.string "db?mode=ro"),(.string "MODE",.null)])
  (.mapping [(.string "tier",.string "front"),(.string "rank",.number (.int 1))])
  (.mapping [(.string "db",.mapping [(.string "condition",.string "service_started")]),
    (.string "cache",.mapping [])])
  (.mapping [(.string "front",.null),(.string "back",.mapping [])])

theorem list_and_map_interchangeable_market :
    (readEnvironment "web" (.list ["URL=db?mode=ro","MODE"])).value =
        (readEnvironment "web" (.map (Dict.ofList marketVariables))).value ∧
      labelsOf (.list ["tier=front","rank=1"]) = labelsOf (.map (Dict.ofList marketLabels)) ∧
      (readDependencies "web" (.map marketConditions)).notices = [] ∧
      (readNetworks "web" (.map marketAttachments)).notices = [] ∧
      ∃ d notices, Document.ofValue marketMaps = .ok (d,notices) := by
  obtain ⟨environment,labels,dependencies,networks,accepted⟩ := list_and_map_interchangeable "web"
  have variablesOrder : marketVariables.Perm (Dict.ofList marketVariables).entries := by decide
  have labelsOrder : marketLabels.Perm (Dict.ofList marketLabels).entries := by decide
  have variablesPlain : Dict.Assignable (Dict.ofList marketVariables) := by
    unfold Dict.Assignable
    decide
  have labelsPlain : Dict.Assignable (Dict.ofList marketLabels) := by
    unfold Dict.Assignable
    decide
  have dependenciesSame (n : String) : n ∈ ["db","cache"] ↔ n ∈ marketConditions.keys := by
    have keys : marketConditions.keys = ["cache","db"] := by decide
    simp [keys,or_comm]
  have networksSame (n : String) : n ∈ ["front","back"] ↔ n ∈ marketAttachments.keys := by
    have keys : marketAttachments.keys = ["back","front"] := by decide
    simp [keys,or_comm]
  have document : ∃ d notices, Document.ofValue marketMaps = .ok (d,notices) := by
    have interchanged : Interchanged marketLists marketMaps := interchanged_market
      (.environment (by decide +kernel) (by decide +kernel) variablesPlain variablesOrder)
      (.labels (by decide +kernel) (by decide +kernel) labelsPlain labelsOrder)
      (.dependsOn (by decide +kernel) (by decide +kernel) dependenciesSame)
      (.networks (by decide +kernel) (by decide +kernel) networksSame)
    have ok : (Document.ofValue marketLists).toOption.isSome = true := by decide +kernel
    refine (accepted _ _ interchanged).mp ?_
    cases outcome : Document.ofValue marketLists with
    | ok read => exact ⟨read.1,read.2,rfl⟩
    | error failure =>
      rw [outcome] at ok
      cases ok
  obtain ⟨_,_,_,_,map,list,_,_⟩ := environment _ marketVariables variablesPlain variablesOrder
  obtain ⟨_,sameLabels⟩ := labels _ marketLabels labelsPlain labelsOrder
  have plain : ∀ e ∈ marketConditions.entries, e.2.IsPlain := by
    unfold Form.Condition.IsPlain
    decide
  obtain ⟨_,_,quietDependencies,_⟩ := dependencies marketConditions _ plain dependenciesSame
  obtain ⟨_,_,quietNetworks,_⟩ := networks marketAttachments _ (by decide) networksSame
  have items : marketVariables.map variableItem = ["URL=db?mode=ro","MODE"] := by decide
  have labelItems : marketLabels.map labelItem = ["tier=front","rank=1"] := by decide
  rw [items] at list
  rw [labelItems] at sameLabels
  exact ⟨by rw [map,list],sameLabels,by rw [quietDependencies],by rw [quietNetworks],document⟩

end ComposeToPodman.Compose
