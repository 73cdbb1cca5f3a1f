import ComposeToPodman.Proofs.Compose.Entries
import ComposeToPodman.Proofs.Compose.Names

/-! Where the problems of a document come from: not from a setting, which at worst is left out, but
from the names, from what is no service, and from what a service refers to. -/
namespace ComposeToPodman.Compose

open Yaml (Value)
open Yaml.Value (Distinct Untagged)

theorem problems_readShortPort (service spec : String) :
    (readShortPort service spec).problems = [] := by
  unfold readShortPort
  repeat' split
  all_goals simp

theorem problems_readHostPort (service : String) (p : Form.LongPort) :
    (readHostPort service p).problems = [] := by
  unfold readHostPort
  repeat' split
  all_goals simp

theorem problems_readLongPort (service : String) (p : Form.LongPort) :
    (readLongPort service p).problems = [] := by
  unfold readLongPort
  split
  next => rfl
  next =>
    rw [Reading.problems_bind,problems_readHostPort]
    repeat' split
    all_goals simp

theorem problems_readPort (service : String) (form : Form.Port) :
    (readPort service form).problems = [] := by
  cases form with
  | short spec => exact problems_readShortPort service spec.asText
  | long p => exact problems_readLongPort service p

theorem problems_readMount (service : String) (volumes : Dict Volume) (form : Form.Mount) :
    (readMount service volumes form).problems = [] := by
  cases form with
  | short spec =>
    rw [readMount,readShortMount]
    dsimp only
    repeat' split
    all_goals simp
  | long m =>
    rw [readMount,readLongMount]
    repeat' split
    all_goals simp

theorem problems_readEnvironment (service : String) (form : Form.Environment) :
    (readEnvironment service form).problems = [] := by
  cases form with
  | list items =>
    rw [readEnvironment,Reading.problems_map]
    refine Reading.problems_filterMap_eq_nil (fun item => ?_) items
    split <;> rfl
  | map values =>
    rw [readEnvironment,Reading.problems_map]
    refine Reading.problems_filterMap_eq_nil (fun ⟨key,value⟩ => ?_) values.entries
    cases value <;> rfl

theorem problems_readNetworks (service : String) (form : Form.Networks) :
    (readNetworks service form).problems = [] := by
  cases form with
  | list names => rfl
  | map attachments =>
    refine Reading.problems_filterMap_eq_nil (fun ⟨name,attachment⟩ => ?_) attachments.entries
    dsimp only
    split <;> simp

theorem problems_readDependencies (service : String) (form : Form.Dependencies) :
    (readDependencies service form).problems = [] := by
  cases form with
  | list names => rfl
  | map conditions =>
    refine Reading.problems_filterMap_eq_nil (fun ⟨name,c⟩ => ?_) conditions.entries
    dsimp only
    split <;> simp

theorem problems_decodeSetting {service key : String} {decoded : Yaml.Decode.Result α}
    {read : α → Reading Setting} (quiet : ∀ a, (read a).problems = []) :
    (decodeSetting service key decoded read).problems = [] := by
  cases decoded with
  | ok a => simp [decodeSetting,quiet]
  | error => rfl

theorem problems_readSetting (service : String) (volumes : Dict Volume) (key : String)
    (value : Value) : (readSetting service volumes key value).problems = [] := by
  unfold readSetting
  split
  case h_2 =>
    refine problems_decodeSetting fun ports => ?_
    simp [problems_readPort]
  case h_3 =>
    refine problems_decodeSetting fun mounts => ?_
    simp [problems_readMount]
  case h_4 => exact problems_decodeSetting fun form => by simp [problems_readEnvironment]
  case h_8 => exact problems_decodeSetting fun form => by simp [problems_readNetworks]
  case h_12 => exact problems_decodeSetting fun form => by simp [problems_readDependencies]
  case h_5 | h_9 => exact problems_decodeSetting fun _ => rfl
  case h_6 | h_7 =>
    unfold tokenSetting
    split <;> rfl
  case h_10 | h_11 =>
    unfold wordsSetting
    split <;> rfl
  all_goals rfl

theorem problems_readEntry (service : String) (volumes : Dict Volume) (e : Value × Value) :
    (readEntry service volumes e).problems = [] := by
  unfold readEntry
  split
  next key _ => exact problems_readSetting service volumes key e.2
  next => rfl

/-- Every declared resource whose name does not fit is a problem of its own. -/
theorem problems_readResources {key kind : String} {read : Value → Yaml.Decode.Result α} {bare : α}
    {make : String → α → β} {value : Value} {forms : Dict (Option α)}
    (decoded : Yaml.Decode.dict .alone (Yaml.Decode.optional read) value = .ok forms) :
    (readResources key kind read bare make value).problems =
      (forms.keys.filter (!isName ·)).map (.invalidName kind) := by
  unfold readResources
  rw [decoded]
  dsimp only
  rw [Reading.problems_map,Reading.problems_filterMap,Dict.keys]
  induction forms.entries with
  | nil => rfl
  | cons e rest ih =>
    rw [List.flatMap_cons,ih,List.map_cons,List.filter_cons]
    cases isName e.1 <;> rfl

theorem problems_readResources_of_error {key kind : String} {read : Value → Yaml.Decode.Result α}
    {bare : α} {make : String → α → β} {value : Value} {cause : Yaml.DecodeError}
    (decoded : Yaml.Decode.dict .alone (Yaml.Decode.optional read) value = .error cause) :
    (readResources key kind read bare make value).problems = [] := by
  unfold readResources
  rw [decoded]
  rfl

/-- The image of a service is a text, a number or a truth value, and not blank as a text. -/
def HasImage (settings : List (Value × Value)) : Prop :=
  ∃ v text, under? "image" settings = some v ∧ scalarText? v = some text ∧
    Text.allBlank text = false

/-- An entry of `services` that gives a service. -/
inductive Runnable : Value × Value → Prop
  | intro {name : String} {settings : List (Value × Value)} (named : MatchesName name)
      (image : HasImage settings) : Runnable (.string name,.mapping settings)

/-- The rule that an entry of `services` breaks, as a problem. -/
inductive Breaks : Value × Value → Problem → Prop
  | key {k v : Value} (unnamed : ∀ name, k ≠ .string name) : Breaks (k,v) (.invalidServiceKey k)
  | name {name : String} {v : Value} (misnamed : ¬MatchesName name) :
      Breaks (.string name,v) (.invalidName "service" name)
  | form {name : String} {v : Value} (named : MatchesName name)
      (scalar : ∀ settings, v ≠ .mapping settings) :
      Breaks (.string name,v) (.serviceNotMapping name)
  | image {name : String} {settings : List (Value × Value)} (named : MatchesName name)
      (missing : ¬HasImage settings) : Breaks (.string name,.mapping settings) (.noImage name)

/-- One problem for each entry that breaks a rule, in the order of the entries. -/
inductive Faults : List (Value × Value) → List Problem → Prop
  | nil : Faults [] []
  | runnable (fine : Runnable e) (rest : Faults entries faults) : Faults (e :: entries) faults
  | broken (fault : Breaks e p) (rest : Faults entries faults) :
      Faults (e :: entries) (p :: faults)

theorem Breaks.not_runnable {e : Value × Value} {p : Problem} (fault : Breaks e p) : ¬Runnable e := by
  rintro ⟨named,image⟩
  cases fault with
  | key unnamed => exact unnamed _ rfl
  | name misnamed => exact misnamed named
  | form _ scalar => exact scalar _ rfl
  | image _ missing => exact missing image

theorem runnable_or_breaks (e : Value × Value) : Runnable e ∨ ∃ p, Breaks e p := by
  obtain ⟨k,v⟩ := e
  by_cases text : ∃ name, k = .string name
  case neg => exact .inr ⟨_,.key fun name same => text ⟨name,same⟩⟩
  obtain ⟨name,rfl⟩ := text
  by_cases named : MatchesName name
  case neg => exact .inr ⟨_,.name named⟩
  by_cases mapping : ∃ settings, v = .mapping settings
  case neg => exact .inr ⟨_,.form named fun settings same => mapping ⟨settings,same⟩⟩
  obtain ⟨settings,rfl⟩ := mapping
  by_cases image : HasImage settings
  · exact .inl ⟨named,image⟩
  · exact .inr ⟨_,.image named image⟩

/-- Without problems every entry is runnable, and the other way round. -/
theorem Faults.eq_nil_iff {entries : List (Value × Value)} {faults : List Problem}
    (told : Faults entries faults) : faults = [] ↔ ∀ e ∈ entries, Runnable e := by
  induction told with
  | nil => exact ⟨fun _ => List.forall_mem_nil _,fun _ => rfl⟩
  | runnable fine _ ih => rw [ih,List.forall_mem_cons,and_iff_right fine]
  | broken fault _ _ =>
    refine ⟨nofun,fun runnable => ?_⟩
    exact absurd (runnable _ List.mem_cons_self) fault.not_runnable

theorem image_eq_empty_iff {settings : List (Value × Value)} (untagged : Untagged settings)
    (distinct : Distinct settings) (volumes : Dict Volume) (name : String) :
    (serviceOf volumes name settings).image = "" ↔ ¬HasImage settings := by
  rw [image_serviceOf untagged distinct]
  have image : HasImage settings ↔
      ∃ text, (under? "image" settings).bind scalarText? = some text ∧ Text.trim text ≠ "" := by
    simp only [HasImage,Option.bind_eq_some_iff,ne_eq,Text.trim_eq_empty_iff,Bool.not_eq_true]
    constructor
    · rintro ⟨v,text,given,rendered,visible⟩
      exact ⟨text,⟨v,given,rendered⟩,visible⟩
    · rintro ⟨text,⟨v,given,rendered⟩,visible⟩
      exact ⟨v,text,given,rendered,visible⟩
  rw [image]
  cases (under? "image" settings).bind scalarText? <;> simp

theorem readService_of_image {volumes : Dict Volume} {name : String}
    {settings : List (Value × Value)} (image : (serviceOf volumes name settings).image ≠ "") :
    (readService volumes name (.mapping settings)).value = some (serviceOf volumes name settings) ∧
      (readService volumes name (.mapping settings)).problems = [] := by
  simp only [serviceOf,Reading.value_filterMap] at image ⊢
  simp [readService,problems_readEntry,image]

theorem readService_of_noImage {volumes : Dict Volume} {name : String}
    {settings : List (Value × Value)} (image : (serviceOf volumes name settings).image = "") :
    (readService volumes name (.mapping settings)).value = none ∧
      (readService volumes name (.mapping settings)).problems = [.noImage name] := by
  simp only [serviceOf,Reading.value_filterMap] at image
  simp [readService,problems_readEntry,image,Reading.report]

theorem readServiceEntry_named {name : String} (named : MatchesName name) (volumes : Dict Volume)
    (v : Value) : readServiceEntry volumes (.string name,v) = readService volumes name v :=
  if_pos ((isName_iff name).mpr named)

/-- What is asked of an entry of `services`, whatever rules it breaks. -/
structure PlainEntry (e : Value × Value) : Prop where
  untagged : ∀ tag v, e.1 ≠ .tagged tag v
  settings : ∀ settings, e.2 = .mapping settings → Untagged settings ∧ Distinct settings

theorem plainEntry_of_mapping {services : List (Value × Value)}
    (untagged : (Value.mapping services).UntaggedKeys)
    (distinct : (Value.mapping services).DistinctKeys) : ∀ e ∈ services, PlainEntry e := by
  intro e member
  refine ⟨untagged.1 e member,fun settings whole => ?_⟩
  have member : (e.1,.mapping settings) ∈ services := whole ▸ member
  exact ⟨(Yaml.Value.EveryMapping.value untagged member).1,
    (Yaml.Value.EveryMapping.value distinct member).1⟩

/-- A runnable entry gives its service without a problem. -/
theorem readServiceEntry_runnable {name : String} {settings : List (Value × Value)}
    (plain : PlainEntry (.string name,.mapping settings))
    (fine : Runnable (.string name,.mapping settings)) (volumes : Dict Volume) :
    (readServiceEntry volumes (.string name,.mapping settings)).value =
        some (serviceOf volumes name settings) ∧
      (readServiceEntry volumes (.string name,.mapping settings)).problems = [] := by
  obtain ⟨named,image⟩ := fine
  obtain ⟨untagged,distinct⟩ := plain.settings settings rfl
  rw [readServiceEntry_named named]
  refine readService_of_image fun empty => ?_
  exact (image_eq_empty_iff untagged distinct volumes name).mp empty image

/-- An entry that breaks a rule gives no service, and its problem once. -/
theorem readServiceEntry_breaks {e : Value × Value} {p : Problem} (plain : PlainEntry e)
    (fault : Breaks e p) (volumes : Dict Volume) :
    (readServiceEntry volumes e).value = none ∧ (readServiceEntry volumes e).problems = [p] := by
  cases fault with
  | key unnamed =>
    unfold readServiceEntry
    split
    next name text => exact absurd (eq_string_of_text? plain.untagged text) (unnamed name)
    next => exact ⟨rfl,rfl⟩
  | @name name v misnamed =>
    have misnamed : ¬isName name = true := fun named => misnamed ((isName_iff name).mp named)
    have read : readServiceEntry volumes (.string name,v) = _ := if_neg misnamed
    rw [read]
    exact ⟨rfl,rfl⟩
  | form named scalar =>
    rw [readServiceEntry_named named]
    unfold readService
    split
    next settings => exact absurd rfl (scalar settings)
    next => exact ⟨rfl,rfl⟩
  | @image name settings named missing =>
    rw [readServiceEntry_named named]
    obtain ⟨untagged,distinct⟩ := plain.settings settings rfl
    exact readService_of_noImage ((image_eq_empty_iff untagged distinct volumes name).mpr missing)

theorem faults_readServiceEntry (volumes : Dict Volume) {services : List (Value × Value)}
    (plain : ∀ e ∈ services, PlainEntry e) :
    Faults services (services.flatMap fun e => (readServiceEntry volumes e).problems) := by
  -- By induction on the entries: each gives its problem, or none.
  induction services with
  | nil => exact .nil
  | cons e rest ih =>
    obtain ⟨head,tail⟩ := List.forall_mem_cons.mp plain
    rw [List.flatMap_cons]
    rcases runnable_or_breaks e with fine | ⟨p,fault⟩
    · have quiet : (readServiceEntry volumes e).problems = [] := by
        obtain ⟨named,image⟩ := fine
        exact (readServiceEntry_runnable head ⟨named,image⟩ volumes).2
      rw [quiet]
      exact .runnable fine (ih tail)
    · rw [(readServiceEntry_breaks head fault volumes).2]
      exact .broken fault (ih tail)

/-- The services that are read are those of the runnable entries. -/
theorem value_readServiceEntry_iff {e : Value × Value} (plain : PlainEntry e)
    {volumes : Dict Volume} {s : Service} : (readServiceEntry volumes e).value = some s ↔
      Runnable e ∧ ∃ name settings, e = (.string name,.mapping settings) ∧
        s = serviceOf volumes name settings := by
  rcases runnable_or_breaks e with ⟨named,image⟩ | ⟨p,fault⟩
  · rw [(readServiceEntry_runnable plain ⟨named,image⟩ volumes).1]
    constructor
    · rintro ⟨⟩
      exact ⟨⟨named,image⟩,_,_,rfl,rfl⟩
    · rintro ⟨_,_,_,⟨⟩,rfl⟩
      rfl
  · rw [(readServiceEntry_breaks plain fault volumes).1]
    exact ⟨nofun,fun ⟨fine,_⟩ => absurd fine fault.not_runnable⟩

theorem problems_resolveNetworks (service : String) (declared : Dict Network)
    (resolved listed : List String) :
    (resolveNetworks service declared resolved listed).problems = [] := by
  induction listed generalizing resolved with
  | nil => rfl
  | cons name rest ih =>
    rw [resolveNetworks]
    dsimp only
    split <;> simp [ih]

/-- A dependency that is no service is a problem each time it is named. -/
theorem problems_resolveService (names : List String) (declared : Dict Network) (s : Service) :
    (resolveService names declared s).problems =
      (s.dependsOn.filter (!names.contains ·)).map (.unknownDependency s.name) := by
  unfold resolveService
  rw [Reading.problems_bind,problems_reportUnknown]
  dsimp only
  split <;> simp [problems_resolveNetworks]

end ComposeToPodman.Compose
