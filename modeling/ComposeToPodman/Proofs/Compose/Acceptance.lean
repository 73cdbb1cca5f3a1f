import ComposeToPodman.Proofs.Compose.Problems

/-! Which values are documents, told without the steps of the reading. -/
namespace ComposeToPodman.Compose

open Relation (TransGen)
open Yaml (Value)
open Yaml.Value (Distinct Untagged)

/-- The names of a map of resources, if it is one. -/
def NamesFit (read : Value → Yaml.Decode.Result α) (v : Value) : Prop :=
  ∀ forms, Yaml.Decode.dict .alone (Yaml.Decode.optional read) v = .ok forms →
    ∀ name ∈ forms.keys, MatchesName name

/-- A service names another in its `depends_on`. -/
def Needs (services : List (Value × Value)) (name other : String) : Prop :=
  ∃ settings v form, (.string name,.mapping settings) ∈ services ∧
    under? "depends_on" settings = some v ∧ Form.Dependencies.ofValue v = .ok form ∧
    other ∈ form.names

/-- What a top level with services must be like. -/
structure Consistent (entries services : List (Value × Value)) : Prop where
  runnable : ∀ e ∈ services, Runnable e
  networks : ∀ v, under? "networks" entries = some v → NamesFit (Form.Network.ofValue .alone) v
  volumes : ∀ v, under? "volumes" entries = some v → NamesFit (Form.Volume.ofValue .alone) v
  known : ∀ name other, Needs services name other → ∃ v, (.string other,v) ∈ services
  acyclic : ∀ name, ¬TransGen (Needs services) name name

/-- A mapping whose `services` are a mapping that is not empty. -/
def Lists (root : Value) (entries services : List (Value × Value)) : Prop :=
  root = .mapping entries ∧ under? "services" entries = some (.mapping services) ∧ services ≠ []

/-- What a value must be like to be a document. -/
def Acceptable (root : Value) : Prop :=
  ∃ entries services, Lists root entries services ∧ Consistent entries services

/-- A problem of one entry of `services`, whatever the others are. -/
def isOfEntry : Problem → Bool
  | .invalidName kind _ => kind == "service"
  | .invalidServiceKey _ | .serviceNotMapping _ | .noImage _ => true
  | _ => false

theorem Breaks.isOfEntry {e : Value × Value} {p : Problem} (fault : Breaks e p) :
    isOfEntry p = true := by cases fault <;> rfl

theorem Faults.isOfEntry {entries : List (Value × Value)} {faults : List Problem}
    (told : Faults entries faults) : ∀ p ∈ faults, Compose.isOfEntry p = true := by
  induction told with
  | nil => exact List.forall_mem_nil _
  | runnable _ _ ih => exact ih
  | broken fault _ ih => exact List.forall_mem_cons.mpr ⟨fault.isOfEntry,ih⟩

theorem problems_readResources_eq_nil_iff {key kind : String}
    {read : Value → Yaml.Decode.Result α} {bare : α} {make : String → α → β} {v : Value} :
    (readResources key kind read bare make v).problems = [] ↔ NamesFit read v := by
  unfold NamesFit
  cases decoded : Yaml.Decode.dict .alone (Yaml.Decode.optional read) v with
  | error cause => simp [problems_readResources_of_error decoded]
  | ok forms => simp [problems_readResources decoded,isName_iff]

theorem problems_readTopEntry_networks (v : Value) :
    (readTopEntry (.string "networks",v)).problems = [] ↔
      NamesFit (Form.Network.ofValue .alone) v := by
  change ((some ∘ TopSetting.networks) <$> readResources "networks" "network"
    (Form.Network.ofValue .alone) {} networkOf v).problems = [] ↔ _
  rw [Reading.problems_map,problems_readResources_eq_nil_iff]

theorem problems_readTopEntry_volumes (v : Value) :
    (readTopEntry (.string "volumes",v)).problems = [] ↔
      NamesFit (Form.Volume.ofValue .alone) v := by
  change ((some ∘ TopSetting.volumes) <$> readResources "volumes" "volume"
    (Form.Volume.ofValue .alone) {} volumeOf v).problems = [] ↔ _
  rw [Reading.problems_map,problems_readResources_eq_nil_iff]

theorem problems_readTopEntry_other {e : Value × Value} (networks : e.1.text? ≠ some "networks")
    (volumes : e.1.text? ≠ some "volumes") : (readTopEntry e).problems = [] := by
  unfold readTopEntry
  split
  next key text =>
    unfold readTopSetting
    split
    case h_4 => exact absurd text networks
    case h_5 => exact absurd text volumes
    case h_6 => split <;> rfl
    all_goals rfl
  next => rfl

/-- What the top level itself has for problems. -/
def declaredProblems (entries : List (Value × Value)) : List Problem :=
  entries.flatMap fun e => (readTopEntry e).problems

theorem declaredProblems_eq_nil_iff {entries : List (Value × Value)} (untagged : Untagged entries)
    (distinct : Distinct entries) : declaredProblems entries = [] ↔
      (∀ v, under? "networks" entries = some v → NamesFit (Form.Network.ofValue .alone) v) ∧
        ∀ v, under? "volumes" entries = some v → NamesFit (Form.Volume.ofValue .alone) v := by
  simp only [declaredProblems,List.flatMap_eq_nil_iff,under?_eq_some_iff distinct]
  constructor
  · intro quiet
    exact ⟨fun v member => (problems_readTopEntry_networks v).mp (quiet _ member),
      fun v member => (problems_readTopEntry_volumes v).mp (quiet _ member)⟩
  · rintro ⟨networks,volumes⟩ ⟨k,v⟩ member
    by_cases isNetworks : k = .string "networks"
    · subst isNetworks
      exact (problems_readTopEntry_networks v).mpr (networks v member)
    by_cases isVolumes : k = .string "volumes"
    · subst isVolumes
      exact (problems_readTopEntry_volumes v).mpr (volumes v member)
    have plain := untagged (k,v) member
    exact problems_readTopEntry_other (fun text => isNetworks (eq_string_of_text? plain text))
      fun text => isVolumes (eq_string_of_text? plain text)

theorem not_isOfEntry_readResources {key kind : String}
    {read : Value → Yaml.Decode.Result α} {bare : α} {make : String → α → β} {v : Value}
    (other : kind ≠ "service") :
    ∀ p ∈ (readResources key kind read bare make v).problems, isOfEntry p = false := by
  cases decoded : Yaml.Decode.dict .alone (Yaml.Decode.optional read) v with
  | error cause =>
    rw [problems_readResources_of_error decoded]
    exact List.forall_mem_nil _
  | ok forms =>
    rw [problems_readResources decoded]
    intro p member
    obtain ⟨name,_,rfl⟩ := List.mem_map.mp member
    simpa [isOfEntry] using other

theorem not_isOfEntry_declaredProblems (entries : List (Value × Value)) :
    ∀ p ∈ declaredProblems entries, isOfEntry p = false := by
  intro p member
  obtain ⟨e,_,told⟩ := List.mem_flatMap.mp member
  by_cases networks : e.1.text? = some "networks"
  · rw [readTopEntry,networks] at told
    simp only [readTopSetting,Reading.problems_map] at told
    exact not_isOfEntry_readResources (by decide) p told
  by_cases volumes : e.1.text? = some "volumes"
  · rw [readTopEntry,volumes] at told
    simp only [readTopSetting,Reading.problems_map] at told
    exact not_isOfEntry_readResources (by decide) p told
  rw [problems_readTopEntry_other networks volumes] at told
  cases told

/-- The services as they are read, with their references as they are written. -/
def servicesOf (volumes : Dict Volume) (services : List (Value × Value)) : List Service :=
  services.filterMap fun e => (readServiceEntry volumes e).value

/-- The dependencies that are no service. -/
def unknownDependencies (services : List Service) : List Problem :=
  services.flatMap fun s =>
    (s.dependsOn.filter (!(services.map (·.name)).contains ·)).map (.unknownDependency s.name)

theorem unknownDependencies_eq_nil_iff {services : List Service} :
    unknownDependencies services = [] ↔
      ∀ s ∈ services, ∀ n ∈ s.dependsOn, ∃ t ∈ services, t.name = n := by
  simp [unknownDependencies]

theorem not_isOfEntry_unknownDependencies (services : List Service) :
    ∀ p ∈ unknownDependencies services, isOfEntry p = false := by
  intro p member
  obtain ⟨s,_,told⟩ := List.mem_flatMap.mp member
  obtain ⟨n,_,rfl⟩ := List.mem_map.mp told
  rfl

section Services

variable {services : List (Value × Value)}

theorem problems_readServices (draft : Draft) (services : List (Value × Value)) :
    (readServices draft services).problems =
      (services.flatMap fun e => (readServiceEntry draft.volumes e).problems) ++
        unknownDependencies (servicesOf draft.volumes services) := by
  simp [readServices,problems_resolveService,servicesOf,unknownDependencies]

theorem mem_dependsOn_serviceOf {settings : List (Value × Value)} (untagged : Untagged settings)
    (distinct : Distinct settings) (volumes : Dict Volume) (name other : String) :
    other ∈ (serviceOf volumes name settings).dependsOn ↔
      ∃ v form, under? "depends_on" settings = some v ∧ Form.Dependencies.ofValue v = .ok form ∧
        other ∈ form.names := by
  rw [dependsOn_serviceOf untagged distinct]
  cases under? "depends_on" settings with
  | none => simp
  | some v => cases decoded : Form.Dependencies.ofValue v <;> simp [decoded,Except.toOption]

theorem mem_servicesOf_iff (plain : ∀ e ∈ services, PlainEntry e) {volumes : Dict Volume}
    {s : Service} : s ∈ servicesOf volumes services ↔
      ∃ name settings, (.string name,.mapping settings) ∈ services ∧
        Runnable (.string name,.mapping settings) ∧ s = serviceOf volumes name settings := by
  rw [servicesOf,List.mem_filterMap]
  constructor
  · rintro ⟨e,member,read⟩
    obtain ⟨fine,name,settings,rfl,same⟩ := (value_readServiceEntry_iff (plain e member)).mp read
    exact ⟨name,settings,member,fine,same⟩
  · rintro ⟨name,settings,member,fine,same⟩
    exact ⟨_,member,(value_readServiceEntry_iff (plain _ member)).mpr ⟨fine,name,settings,rfl,same⟩⟩

/-- One service of those that are read depends on another as their entries say. -/
theorem needs_iff (plain : ∀ e ∈ services, PlainEntry e) (runnable : ∀ e ∈ services, Runnable e)
    (volumes : Dict Volume) (name other : String) : Needs services name other ↔
      ∃ s ∈ servicesOf volumes services, s.name = name ∧ other ∈ s.dependsOn := by
  constructor
  · rintro ⟨settings,v,form,member,given,decoded,named⟩
    obtain ⟨untagged,distinct⟩ := (plain _ member).settings settings rfl
    refine ⟨serviceOf volumes name settings,?_,name_serviceOf volumes name settings,?_⟩
    · exact (mem_servicesOf_iff plain).mpr ⟨name,settings,member,runnable _ member,rfl⟩
    · exact (mem_dependsOn_serviceOf untagged distinct volumes name other).mpr
        ⟨v,form,given,decoded,named⟩
  · rintro ⟨s,member,rfl,named⟩
    obtain ⟨name,settings,entry,_,rfl⟩ := (mem_servicesOf_iff plain).mp member
    obtain ⟨untagged,distinct⟩ := (plain _ entry).settings settings rfl
    rw [name_serviceOf]
    obtain ⟨v,form,given,decoded,named⟩ :=
      (mem_dependsOn_serviceOf untagged distinct volumes name other).mp named
    exact ⟨settings,v,form,entry,given,decoded,named⟩

/-- If every entry is runnable, the names of the services are the keys. -/
theorem name_servicesOf_iff (plain : ∀ e ∈ services, PlainEntry e)
    (runnable : ∀ e ∈ services, Runnable e) (volumes : Dict Volume) (name : String) :
    (∃ s ∈ servicesOf volumes services, s.name = name) ↔ ∃ v, (.string name,v) ∈ services := by
  constructor
  · rintro ⟨s,member,rfl⟩
    obtain ⟨name,settings,entry,_,rfl⟩ := (mem_servicesOf_iff plain).mp member
    exact ⟨.mapping settings,(name_serviceOf volumes name settings).symm ▸ entry⟩
  · rintro ⟨v,member⟩
    have fine := runnable _ member
    cases fine with
    | @intro _ settings named image =>
      exact ⟨_,(mem_servicesOf_iff plain).mpr ⟨name,settings,member,runnable _ member,rfl⟩,
        name_serviceOf volumes name settings⟩

theorem known_iff (plain : ∀ e ∈ services, PlainEntry e) (runnable : ∀ e ∈ services, Runnable e)
    (volumes : Dict Volume) : unknownDependencies (servicesOf volumes services) = [] ↔
      ∀ name other, Needs services name other → ∃ v, (.string other,v) ∈ services := by
  rw [unknownDependencies_eq_nil_iff]
  simp only [needs_iff plain runnable volumes,name_servicesOf_iff plain runnable]
  constructor
  · rintro known name other ⟨s,member,_,named⟩
    exact known s member other named
  · intro known s member other named
    exact known s.name other ⟨s,member,rfl,named⟩

theorem unique_servicesOf (plain : ∀ e ∈ services, PlainEntry e) (distinct : Distinct services)
    {volumes : Dict Volume} {s t : Service} (left : s ∈ servicesOf volumes services)
    (right : t ∈ servicesOf volumes services) (same : s.name = t.name) : s = t := by
  obtain ⟨name,settings,first,_,rfl⟩ := (mem_servicesOf_iff plain).mp left
  obtain ⟨other,others,second,_,rfl⟩ := (mem_servicesOf_iff plain).mp right
  rw [name_serviceOf,name_serviceOf] at same
  subst same
  have first := (under?_eq_some_iff distinct).mpr first
  have second := (under?_eq_some_iff distinct).mpr second
  obtain rfl := Value.mapping.inj (Option.some.inj (first.symm.trans second))
  rfl

theorem dependencies_readServices (draft : Draft) (services : List (Value × Value)) (name : String) :
    (readServices draft services).value.dependencies name =
      (((servicesOf draft.volumes services).find? (·.name == name)).map (·.dependsOn)).getD [] := by
  let ss := servicesOf draft.volumes services
  have resolved : (readServices draft services).value.services =
      ss.map fun s => (resolveService (ss.map (·.name)) draft.networks s).value := by
    simp [readServices,ss,servicesOf]
  rw [Document.dependencies,Document.service?_map (d := { services := ss }) resolved fun s => by
    simp [value_resolveService],Document.service?]
  cases ss.find? (·.name == name) with
  | none => rfl
  | some s => simp [value_resolveService]

theorem dependsOn_readServices (plain : ∀ e ∈ services, PlainEntry e)
    (runnable : ∀ e ∈ services, Runnable e) (distinct : Distinct services) (draft : Draft) :
    (readServices draft services).value.DependsOn = Needs services := by
  funext name other
  rw [eq_iff_iff,needs_iff plain runnable draft.volumes,Document.DependsOn,Waits,
    dependencies_readServices]
  cases found : (servicesOf draft.volumes services).find? (·.name == name) with
  | none =>
    refine ⟨nofun,?_⟩
    rintro ⟨s,member,named,_⟩
    exact absurd named (by simpa using List.find?_eq_none.mp found s member)
  | some s =>
    have member := List.mem_of_find?_eq_some found
    have named : s.name = name := by simpa using List.find?_some found
    constructor
    · exact fun needed => ⟨s,member,named,needed⟩
    · rintro ⟨t,other,sameName,needed⟩
      obtain rfl := unique_servicesOf plain distinct member other (named.trans sameName.symm)
      exact needed

theorem ordered_iff (plain : ∀ e ∈ services, PlainEntry e) (runnable : ∀ e ∈ services, Runnable e)
    (distinct : Distinct services) (draft : Draft) :
    (∃ order, (readServices draft services).value.startOrder = .ok order) ↔
      ∀ name, ¬TransGen (Needs services) name name := by
  rw [Document.startOrder_ok_iff,dependsOn_readServices plain runnable distinct]
  constructor
  · intro acyclic name circle
    have waits : (readServices draft services).value.dependencies name ≠ [] := by
      obtain ⟨other,needed,_⟩ := TransGen.head'_iff.mp circle
      rw [← dependsOn_readServices plain runnable distinct draft] at needed
      exact List.ne_nil_of_mem needed
    obtain ⟨s,service,rfl⟩ := List.mem_map.mp (Document.mem_names_of_dependencies waits)
    exact acyclic s service s.name .refl circle
  · exact fun acyclic s _ name _ => acyclic name

end Services

theorem problems_of_readRoot_none {root : Value} (missing : (readRoot root).value = none) :
    (readRoot root).problems ≠ [] := by
  rcases readRoot_cases root with ⟨entries,services,rfl,whole,nonempty⟩ | ⟨_,problems⟩
  · rw [(readRoot_of_services whole nonempty).1] at missing
    cases missing
  · exact problems

theorem services_of_lists {root : Value} {entries services : List (Value × Value)}
    (lists : Lists root entries services) (untagged : Untagged entries)
    (distinct : Distinct entries) : (draftOf entries).services = .mapping services := by
  rw [services_draftOf untagged distinct,lists.2.1]
  rfl

theorem readRoot_of_lists {root : Value} {entries services : List (Value × Value)}
    (lists : Lists root entries services) (untagged : Untagged entries)
    (distinct : Distinct entries) :
    (readRoot root).value = some (readServices (draftOf entries) services).value ∧
      (readRoot root).problems =
        declaredProblems entries ++ (readServices (draftOf entries) services).problems := by
  have whole := services_of_lists lists untagged distinct
  obtain ⟨rfl,_,nonempty⟩ := lists
  obtain ⟨value,problems,_⟩ := readRoot_of_services whole nonempty
  exact ⟨value,by rw [problems,Reading.problems_filterMap,declaredProblems]⟩

theorem readRoot_of_unlisted {root : Value} (untagged : root.UntaggedKeys)
    (distinct : root.DistinctKeys) (unlisted : ∀ entries services, ¬Lists root entries services) :
    (readRoot root).value = none := by
  rcases readRoot_cases root with ⟨entries,services,rfl,whole,nonempty⟩ | ⟨missing,_⟩
  · rw [services_draftOf untagged.1 distinct.1] at whole
    have given : under? "services" entries = some (.mapping services) := by
      cases found : under? "services" entries with
      | none => simp [found] at whole
      | some v => simpa [found] using whole
    exact absurd ⟨rfl,given,nonempty⟩ (unlisted entries services)
  · exact missing

theorem Lists.keys {root : Value} {entries services : List (Value × Value)}
    (lists : Lists root entries services) (untagged : root.UntaggedKeys)
    (distinct : root.DistinctKeys) : (∀ e ∈ services, PlainEntry e) ∧ Distinct services := by
  obtain ⟨rfl,given,_⟩ := lists
  have inside : (.string "services",.mapping services) ∈ entries :=
    (under?_eq_some_iff distinct.1).mp given
  have innerDistinct := Yaml.Value.EveryMapping.value distinct inside
  exact ⟨plainEntry_of_mapping (Yaml.Value.EveryMapping.value untagged inside) innerDistinct,
    innerDistinct.1⟩

theorem clean_iff {entries services : List (Value × Value)} (untagged : Untagged entries)
    (distinct : Distinct entries) (plain : ∀ e ∈ services, PlainEntry e)
    (servicesDistinct : Distinct services) :
    declaredProblems entries ++ (readServices (draftOf entries) services).problems = [] ∧
      (∃ order, (readServices (draftOf entries) services).value.startOrder = .ok order) ↔
      Consistent entries services := by
  rw [problems_readServices,List.append_eq_nil_iff,List.append_eq_nil_iff,
    (faults_readServiceEntry _ plain).eq_nil_iff,declaredProblems_eq_nil_iff untagged distinct]
  constructor
  · rintro ⟨⟨⟨networks,volumes⟩,runnable,known⟩,ordered⟩
    exact {
      runnable
      networks
      volumes
      known := (known_iff plain runnable _).mp known
      acyclic := (ordered_iff plain runnable servicesDistinct _).mp ordered }
  · rintro ⟨runnable,networks,volumes,known,acyclic⟩
    exact ⟨⟨⟨networks,volumes⟩,runnable,(known_iff plain runnable _).mpr known⟩,
      (ordered_iff plain runnable servicesDistinct _).mpr acyclic⟩

theorem accepted_iff {root : Value} (untagged : root.UntaggedKeys) (distinct : root.DistinctKeys) :
    (∃ d notices, Document.ofValue root = .ok (d,notices)) ↔ Acceptable root := by
  simp only [ofValue_eq_ok]
  constructor
  · rintro ⟨d,notices,value,clean,ordered,_⟩
    by_cases listed : ∃ entries services, Lists root entries services
    case neg =>
      have missing := readRoot_of_unlisted untagged distinct fun entries services lists =>
        listed ⟨entries,services,lists⟩
      exact nomatch missing.symm.trans value
    obtain ⟨entries,services,lists⟩ := listed
    refine ⟨entries,services,lists,?_⟩
    obtain ⟨plain,servicesDistinct⟩ := lists.keys untagged distinct
    obtain rfl := lists.1
    obtain ⟨read,problems⟩ := readRoot_of_lists lists untagged.1 distinct.1
    obtain rfl := Option.some.inj (read.symm.trans value)
    exact (clean_iff untagged.1 distinct.1 plain servicesDistinct).mp
      ⟨problems.symm.trans clean,ordered⟩
  · rintro ⟨entries,services,lists,consistent⟩
    obtain ⟨plain,servicesDistinct⟩ := lists.keys untagged distinct
    obtain rfl := lists.1
    obtain ⟨read,problems⟩ := readRoot_of_lists lists untagged.1 distinct.1
    obtain ⟨clean,ordered⟩ := (clean_iff untagged.1 distinct.1 plain servicesDistinct).mpr consistent
    exact ⟨_,_,read,problems.trans clean,ordered,rfl⟩

/-- The problems of a failure are those that were found, or else that of the order of starting. -/
theorem problems_of_ofValue {root : Value} {failure : Failure}
    (failed : Document.ofValue root = .error failure) :
    ∃ problems, failure = ⟨.invalid problems,(readRoot root).notices⟩ ∧ problems ≠ [] ∧
      problems.filter isOfEntry = (readRoot root).problems.filter isOfEntry := by
  unfold Document.ofValue at failed
  dsimp only at failed
  split at failed
  next d _ clean =>
    split at failed
    next => cases failed
    next e stuck =>
      obtain ⟨name,_,rfl⟩ := Document.startOrderOrFail_eq_error.mp stuck
      exact ⟨_,(Except.error.inj failed).symm,List.cons_ne_nil _ _,by rw [clean]; rfl⟩
  next other =>
    refine ⟨_,(Except.error.inj failed).symm,fun clean => ?_,rfl⟩
    cases value : (readRoot root).value with
    | none => exact problems_of_readRoot_none value clean
    | some d => exact other d value clean

/-- The problems of entries are one for each entry that breaks a rule. -/
theorem faults_of_lists {root : Value} {entries services : List (Value × Value)}
    (untagged : root.UntaggedKeys) (distinct : root.DistinctKeys)
    (lists : Lists root entries services) :
    Faults services ((readRoot root).problems.filter isOfEntry) := by
  obtain ⟨plain,_⟩ := lists.keys untagged distinct
  obtain rfl := lists.1
  have told := faults_readServiceEntry (draftOf entries).volumes plain
  have declared : (declaredProblems entries).filter isOfEntry = [] := by
    simpa [List.filter_eq_nil_iff] using not_isOfEntry_declaredProblems entries
  have unknown : (unknownDependencies (servicesOf (draftOf entries).volumes services)).filter
      isOfEntry = [] := by
    simpa [List.filter_eq_nil_iff] using not_isOfEntry_unknownDependencies _
  rw [(readRoot_of_lists lists untagged.1 distinct.1).2,problems_readServices,List.filter_append,
    List.filter_append,declared,unknown,List.filter_eq_self.mpr told.isOfEntry,List.nil_append,
    List.append_nil]
  exact told

/-- A value is a document exactly if it is acceptable. Any other fails with problems; among them are,
in the order of the file, one for each entry of `services` that breaks a rule, and no others of an
entry. A mapping has no key twice: `distinctKeys_of_read` has it for whatever is read. -/
theorem ofValue_decides {root : Value} (untagged : root.UntaggedKeys)
    (distinct : root.DistinctKeys) :
    ((∃ d notices, Document.ofValue root = .ok (d,notices)) ↔ Acceptable root) ∧
      (¬Acceptable root → ∃ problems notices,
        Document.ofValue root = .error ⟨.invalid problems,notices⟩ ∧ problems ≠ [] ∧
          ∀ entries services, Lists root entries services →
            Faults services (problems.filter isOfEntry)) := by
  refine ⟨accepted_iff untagged distinct,fun unacceptable => ?_⟩
  cases outcome : Document.ofValue root with
  | ok accepted =>
    exact absurd ((accepted_iff untagged distinct).mp ⟨_,_,outcome⟩) unacceptable
  | error failure =>
    obtain ⟨problems,rfl,told,same⟩ := problems_of_ofValue outcome
    refine ⟨problems,_,rfl,told,fun entries services lists => ?_⟩
    rw [same]
    exact faults_of_lists untagged distinct lists

/-- A name that is a number, one with a blank, a service that is a text, one with a blank image, and
one that refers to it, beside a network whose name does not fit. -/
def stallText : String := "networks:
  -back:
services:
  1:
    image: web
  web app:
    image: web
  cache: redis
  db:
    image: ' '
  web:
    image: 8
    depends_on: [db, web]
"

def stallServices : List (Value × Value) := [
  (.number (.int 1),.mapping [(.string "image",.string "web")]),
  (.string "web app",.mapping [(.string "image",.string "web")]),
  (.string "cache",.string "redis"),
  (.string "db",.mapping [(.string "image",.string " ")]),
  (.string "web",.mapping [
    (.string "image",.number (.int 8)),
    (.string "depends_on",.sequence [.string "db",.string "web"])])]

def stall : Value := .mapping [
  (.string "networks",.mapping [(.string "-back",.null)]),
  (.string "services",.mapping stallServices)]

def stallFaults : List Problem := [
  .invalidServiceKey (.number (.int 1)),
  .invalidName "service" "web app",
  .serviceNotMapping "cache",
  .noImage "db"]

def stallFailure : Failure :=
  ⟨.invalid (.invalidName "network" "-back" :: stallFaults ++ [.unknownDependency "web" "db"]),[]⟩

theorem ofValue_decides_stall :
    Value.read stallText = .ok stall ∧ ¬Acceptable stall ∧
      Document.ofValue stall = .error stallFailure ∧ Faults stallServices stallFaults := by
  have read : Value.read stallText = .ok stall := by decide +kernel
  have failed : Document.ofValue stall = .error stallFailure := by decide +kernel
  have untagged : stall.UntaggedKeys := by
    simp [stall,stallServices,Value.UntaggedKeys,Value.EveryMapping,Value.EveryItem,
      Value.EveryEntry,Untagged]
  obtain ⟨accepted,rejected⟩ := ofValue_decides untagged (Yaml.Value.distinctKeys_of_read read)
  have unacceptable : ¬Acceptable stall := fun acceptable => by
    obtain ⟨d,notices,ok⟩ := accepted.mpr acceptable
    rw [failed] at ok
    cases ok
  obtain ⟨problems,notices,same,_,faults⟩ := rejected unacceptable
  obtain ⟨told,_⟩ := Failure.mk.inj (Except.error.inj (same.symm.trans failed))
  obtain rfl := ConversionError.invalid.inj told
  have lists : Lists stall _ stallServices := ⟨rfl,by decide +kernel,List.cons_ne_nil _ _⟩
  exact ⟨read,unacceptable,failed,faults _ _ lists⟩

end ComposeToPodman.Compose
