import ComposeToPodman.Proofs.Compose.Entries

/-! The order of keys. What stands under a key does not depend on what was read under others, so that
keys in another order change no more than the order in which things are told. -/
namespace ComposeToPodman.Compose

open Yaml (Value)
open Yaml.Value (Distinct Untagged)

/-- One value, with the same notices and problems in whatever order. -/
structure Reading.Alike (r s : Reading α) : Prop where
  value : r.value = s.value
  notices : r.notices.Perm s.notices
  problems : r.problems.Perm s.problems

namespace Reading.Alike

theorem refl (r : Reading α) : r.Alike r := ⟨rfl,.refl _,.refl _⟩

theorem trans {r s t : Reading α} (first : r.Alike s) (second : s.Alike t) : r.Alike t :=
  ⟨first.value.trans second.value,first.notices.trans second.notices,
    first.problems.trans second.problems⟩

theorem bind {r s : Reading α} {f g : α → Reading β} (first : r.Alike s)
    (next : ∀ a, (f a).Alike (g a)) : (r >>= f).Alike (s >>= g) where
  value := by
    rw [value_bind,value_bind,first.value]
    exact (next s.value).value
  notices := by
    rw [notices_bind,notices_bind,first.value]
    exact first.notices.append (next s.value).notices
  problems := by
    rw [problems_bind,problems_bind,first.value]
    exact first.problems.append (next s.value).problems

theorem filterMap {read : α → Reading (Option β)} {l m : List α}
    (each : List.Forall₂ (fun a b => (read a).Alike (read b)) l m) :
    (Reading.filterMap read l).Alike (Reading.filterMap read m) := by
  induction each with
  | nil => exact .refl _
  | cons head _ ih => exact head.bind fun _ => ih.bind fun _ => .refl _

end Reading.Alike

section Fold

variable {σ τ : Type} {read : Value × Value → Reading (Option τ)} {apply : σ → τ → σ}
  {key : τ → String} {entries others : List (Value × Value)}

theorem eq_of_same_name (distinct : Distinct entries) {e f : Value × Value} {name : String}
    (first : e ∈ entries) (second : f ∈ entries) (left : e.1 = .string name)
    (right : f.1 = .string name) : e = f := by
  obtain ⟨_,v⟩ := e
  obtain ⟨_,w⟩ := f
  subst left right
  have under := (under?_eq_some_iff distinct).mpr first
  rw [(under?_eq_some_iff distinct).mpr second] at under
  rw [Option.some.inj under]

/-- Settings that stand under different keys do not meet, and no two stand under one. -/
theorem foldl_of_perm (reordered : entries.Perm others) (distinct : Distinct entries)
    (stands : ∀ e ∈ entries, ∀ t, (read e).value = some t → e.1 = .string (key t))
    (comm : ∀ t u, key t ≠ key u → ∀ s, apply (apply s t) u = apply (apply s u) t) (s : σ) :
    (entries.filterMap fun e => (read e).value).foldl apply s =
      (others.filterMap fun e => (read e).value).foldl apply s := by
  refine (reordered.filterMap _).foldl_eq' (fun t left u right s => ?_) s
  obtain ⟨e,first,givesLeft⟩ := List.mem_filterMap.mp left
  obtain ⟨f,second,givesRight⟩ := List.mem_filterMap.mp right
  by_cases same : key t = key u
  · -- One key has one entry, and an entry gives one setting.
    have keys := stands e first t givesLeft
    rw [same] at keys
    obtain rfl := eq_of_same_name distinct first second keys (stands f second u givesRight)
    obtain rfl := Option.some.inj (givesLeft.symm.trans givesRight)
    rfl
  · exact comm t u same s

/-- Settings are read, put together, and used: all in one, whatever their order. -/
theorem alike_of_perm (next : σ → Reading β) (reordered : entries.Perm others)
    (distinct : Distinct entries)
    (stands : ∀ e ∈ entries, ∀ t, (read e).value = some t → e.1 = .string (key t))
    (comm : ∀ t u, key t ≠ key u → ∀ s, apply (apply s t) u = apply (apply s u) t) (s : σ) :
    (Reading.filterMap read entries >>= fun settings => next (settings.foldl apply s)).Alike
      (Reading.filterMap read others >>= fun settings => next (settings.foldl apply s)) := by
  have same := foldl_of_perm reordered distinct stands comm s
  constructor <;>
    simp only [Reading.value_bind,Reading.notices_bind,Reading.problems_bind,
      Reading.value_filterMap,Reading.notices_filterMap,Reading.problems_filterMap,same]
  · exact (reordered.flatMap_right _).append_right _
  · exact (reordered.flatMap_right _).append_right _

end Fold

theorem Setting.apply_comm (x y : Setting) (other : x.key ≠ y.key) (s : Service) :
    Setting.apply (Setting.apply s x) y = Setting.apply (Setting.apply s y) x := by
  cases x <;> cases y <;> first | rfl | exact absurd rfl other

/-- The same settings in another order; what is no mapping stays as it is. -/
inductive SettingsReordered : Value → Value → Prop
  | settings (reordered : settings.Perm others) :
      SettingsReordered (.mapping settings) (.mapping others)
  | same (v : Value) : SettingsReordered v v

theorem alike_readService (volumes : Dict Volume) (name : String) {v w : Value}
    (plain : ∀ settings, v = .mapping settings → Untagged settings ∧ Distinct settings)
    (reordered : SettingsReordered v w) :
    (readService volumes name v).Alike (readService volumes name w) := by
  cases reordered with
  | same => exact .refl _
  | @settings settings others reordered =>
    obtain ⟨untagged,distinct⟩ := plain settings rfl
    exact alike_of_perm
      (fun service => if service.image.isEmpty then do
          .report (.noImage name)
          return none
        else return some service)
      reordered distinct (fun e member _ => key_of_readEntry (untagged e member))
      Setting.apply_comm { name }

/-- Entries of `services` under one key, the one with the settings of the other. -/
def ServiceReordered (e f : Value × Value) : Prop := e.1 = f.1 ∧ SettingsReordered e.2 f.2

theorem alike_readServiceEntry (volumes : Dict Volume) {e f : Value × Value}
    (plain : ∀ settings, e.2 = .mapping settings → Untagged settings ∧ Distinct settings)
    (reordered : ServiceReordered e f) :
    (readServiceEntry volumes e).Alike (readServiceEntry volumes f) := by
  obtain ⟨key,settings⟩ := reordered
  refine readServiceEntry_related Reading.Alike.refl volumes key fun name => ?_
  exact alike_readService volumes name plain settings

/-- Services in the same order, each with its settings in whatever order. -/
inductive ServicesReordered : Value → Value → Prop
  | services (each : List.Forall₂ ServiceReordered services others) :
      ServicesReordered (.mapping services) (.mapping others)
  | same (v : Value) : ServicesReordered v v

/-- No service has a setting with a tag at its key, or one twice. -/
def PlainServices (v : Value) : Prop :=
  ∀ services, v = .mapping services → ∀ e ∈ services, ∀ settings, e.2 = .mapping settings →
    Untagged settings ∧ Distinct settings

theorem alike_readServices (d : Draft) (v : Value) {services others : List (Value × Value)}
    (plain : PlainServices (.mapping services))
    (each : List.Forall₂ ServiceReordered services others) :
    (readServices d services).Alike (readServices { d with services := v } others) := by
  have read : (Reading.filterMap (readServiceEntry d.volumes) services).Alike
      (Reading.filterMap (readServiceEntry d.volumes) others) := by
    have both := (List.forall₂_and_left _ _).mpr ⟨plain services rfl,each⟩
    exact .filterMap (both.imp fun _ _ ⟨settings,reordered⟩ =>
      alike_readServiceEntry d.volumes settings reordered)
  exact read.bind fun _ => .refl _

/-- The key under which a setting of the top level is written. -/
def TopSetting.key : TopSetting → String
  | version _ => "version"
  | name _ => "name"
  | services _ => "services"
  | networks _ => "networks"
  | volumes _ => "volumes"

theorem TopSetting.apply_comm (x y : TopSetting) (other : x.key ≠ y.key) (d : Draft) :
    TopSetting.apply (TopSetting.apply d x) y = TopSetting.apply (TopSetting.apply d y) x := by
  cases x <;> cases y <;> first | rfl | exact absurd rfl other

theorem key_of_readTopSetting {key : String} {value : Value} {setting : TopSetting}
    (read : (readTopSetting key value).value = some setting) : setting.key = key := by
  unfold readTopSetting at read
  split at read
  case h_6 => split at read <;> cases read
  all_goals
    obtain rfl := Option.some.inj read
    rfl

theorem text_of_readTopEntry {e : Value × Value} {setting : TopSetting}
    (read : (readTopEntry e).value = some setting) : e.1.text? = some setting.key := by
  unfold readTopEntry at read
  split at read
  next key text => exact key_of_readTopSetting read ▸ text
  next => cases read

theorem key_of_readTopEntry {e : Value × Value} {setting : TopSetting}
    (untagged : ∀ tag v, e.1 ≠ .tagged tag v) (read : (readTopEntry e).value = some setting) :
    e.1 = .string setting.key :=
  eq_string_of_text? untagged (text_of_readTopEntry read)

/-- An entry of the top level, in which only services may be reordered. -/
inductive EntryReordered : Value × Value → Value × Value → Prop
  | services (reordered : ServicesReordered v w) :
      EntryReordered (.string "services",v) (.string "services",w)
  | same (e : Value × Value) : EntryReordered e e

/-- The same entries in another order, with the settings of services reordered as well. -/
def Reordered (entries others : List (Value × Value)) : Prop :=
  ∃ middle, entries.Perm middle ∧ List.Forall₂ EntryReordered middle others

def Draft.Reordered (d e : Draft) : Prop :=
  ∃ v, ServicesReordered d.services v ∧ e = { d with services := v }

theorem EntryReordered.apart {e f : Value × Value} (reordered : EntryReordered e f) :
    EntryApart ServicesReordered e f := by
  cases reordered with
  | services reordered => exact .services rfl reordered
  | same => exact .same e

theorem alike_readDraft {d e : Draft} (plain : PlainServices d.services)
    (reordered : d.Reordered e) : (readDraft d).Alike (readDraft e) := by
  obtain ⟨v,services,rfl⟩ := reordered
  generalize whole : d.services = w at plain services
  cases services with
  | same =>
    subst whole
    exact .refl _
  | services each =>
    cases each with
    | nil =>
      unfold readDraft
      rw [whole]
      exact .refl _
    | cons head rest =>
      rw [readDraft_of_services whole (List.cons_ne_nil _ _),
        readDraft_of_services rfl (List.cons_ne_nil _ _),map_eq_pure_bind,map_eq_pure_bind]
      exact (alike_readServices d _ plain (.cons head rest)).bind fun _ => .refl _

theorem plainServices_draftOf {entries : List (Value × Value)} (untagged : Untagged entries)
    (distinct : Distinct entries)
    (plain : ∀ v, (.string "services",v) ∈ entries → PlainServices v) :
    PlainServices (draftOf entries).services := by
  rw [services_draftOf untagged distinct]
  cases given : under? "services" entries with
  | none => exact nofun
  | some v => exact plain v ((under?_eq_some_iff distinct).mp given)

theorem alike_readRoot {entries others : List (Value × Value)} (untagged : Untagged entries)
    (distinct : Distinct entries)
    (plain : ∀ v, (.string "services",v) ∈ entries → PlainServices v)
    (reordered : Reordered entries others) :
    (readRoot (.mapping entries)).Alike (readRoot (.mapping others)) := by
  obtain ⟨middle,moved,each⟩ := reordered
  have stands : ∀ e ∈ entries, ∀ setting, (readTopEntry e).value = some setting →
      e.1 = .string setting.key := fun e member _ => key_of_readTopEntry (untagged e member)
  -- First the entries change places, with one draft of both; then the settings within services.
  have first : (readRoot (.mapping entries)).Alike (readRoot (.mapping middle)) :=
    alike_of_perm readDraft moved distinct stands TopSetting.apply_comm {}
  have draft : draftOf entries = draftOf middle := by
    simp only [draftOf,Reading.value_filterMap]
    exact foldl_of_perm moved distinct stands TopSetting.apply_comm {}
  obtain ⟨notices,problems,drafts⟩ :=
    readTopEntry_apart .same (each.imp fun _ _ => EntryReordered.apart)
  have second : (readDraft (draftOf middle)).Alike (readDraft (draftOf others)) :=
    alike_readDraft (draft ▸ plainServices_draftOf untagged distinct plain)
      (drafts {} {} ⟨.null,.same .null,rfl⟩)
  refine first.trans ?_
  rw [readRoot_mapping,readRoot_mapping]
  constructor
  · exact second.value
  · rw [Reading.notices_bind,Reading.notices_bind,notices]
    exact second.notices.append_left _
  · rw [Reading.problems_bind,Reading.problems_bind,problems]
    exact second.problems.append_left _

/-- One document, or the same problems, with the same notices; what is told is in whatever order. -/
inductive SameOutcome :
    Except Failure (Document × List Notice) → Except Failure (Document × List Notice) → Prop
  | accepted (d : Document) (notices : noticed.Perm told) :
      SameOutcome (.ok (d,noticed)) (.ok (d,told))
  | rejected (problems : found.Perm others) (notices : noticed.Perm told) :
      SameOutcome (.error ⟨.invalid found,noticed⟩) (.error ⟨.invalid others,told⟩)

theorem ofValue_of_problems {root : Value} (found : (readRoot root).problems ≠ []) :
    Document.ofValue root =
      .error ⟨.invalid (readRoot root).problems,(readRoot root).notices⟩ := by
  unfold Document.ofValue
  dsimp only
  split
  next _ clean => exact absurd clean found
  next => rfl

theorem sameOutcome_of_alike {root other : Value} (alike : (readRoot root).Alike (readRoot other)) :
    SameOutcome (Document.ofValue root) (Document.ofValue other) := by
  by_cases clean : (readRoot root).problems = []
  case neg =>
    have found : (readRoot other).problems ≠ [] := fun none =>
      clean (List.perm_nil.mp (none ▸ alike.problems))
    rw [ofValue_of_problems clean,ofValue_of_problems found]
    exact .rejected alike.problems alike.notices
  have cleanOther : (readRoot other).problems = [] :=
    List.nil_perm.mp (clean ▸ alike.problems)
  simp only [Document.ofValue,clean,cleanOther,← alike.value]
  cases (readRoot root).value with
  | none => exact .rejected (.refl _) alike.notices
  | some d =>
    dsimp only
    cases outcome : d.startOrderOrFail with
    | ok => exact .accepted d alike.notices
    | error e =>
      obtain ⟨name,_,rfl⟩ := Document.startOrderOrFail_eq_error.mp outcome
      exact .rejected (.refl _) alike.notices

/-- The order of the keys of a top level, and of those of its services, does not matter, whether it is
a document or not. A mapping has no key twice: `distinctKeys_of_read` has it for whatever is read. -/
theorem ofValue_reordered {entries others : List (Value × Value)} (untagged : Untagged entries)
    (distinct : Distinct entries)
    (plain : ∀ v, (.string "services",v) ∈ entries → PlainServices v)
    (reordered : Reordered entries others) :
    SameOutcome (Document.ofValue (.mapping entries)) (Document.ofValue (.mapping others)) :=
  sameOutcome_of_alike (alike_readRoot untagged distinct plain reordered)

/-- Settings of which two are dropped, and one tells of a network that is not declared. -/
def kioskSettings : List (Value × Value) := [
  (.string "image",.string "kiosk"),
  (.string "restart",.string "often"),
  (.string "networks",.sequence [.string "front",.string "back"]),
  (.string "build",.string ".")]

def kioskServices (settings : List (Value × Value)) : Value := .mapping [
  (.string "web",.mapping settings),
  (.string "db",.mapping [(.string "image",.string "db")])]

/-- Services before the networks, and two keys that are dropped. -/
def kiosk : List (Value × Value) := [
  (.string "services",kioskServices kioskSettings),
  (.string "networks",.mapping [(.string "front",.null)]),
  (.string "secrets",.null),
  (.string "configs",.null)]

def kioskReversed : List (Value × Value) := [
  (.string "configs",.null),
  (.string "secrets",.null),
  (.string "networks",.mapping [(.string "front",.null)]),
  (.string "services",kioskServices kioskSettings.reverse)]

theorem reordered_kiosk : Reordered kiosk kioskReversed := by
  refine ⟨kiosk.reverse,(List.reverse_perm kiosk).symm,?_⟩
  have settings : SettingsReordered (.mapping kioskSettings) (.mapping kioskSettings.reverse) :=
    .settings (List.reverse_perm kioskSettings).symm
  have services : ServicesReordered (kioskServices kioskSettings)
      (kioskServices kioskSettings.reverse) :=
    .services (.cons ⟨rfl,settings⟩ (.cons ⟨rfl,.same _⟩ .nil))
  exact .cons (.same _) (.cons (.same _) (.cons (.same _) (.cons (.services services) .nil)))

theorem ofValue_reordered_kiosk :
    ∃ d noticed told, Document.ofValue (.mapping kiosk) = .ok (d,noticed) ∧
      Document.ofValue (.mapping kioskReversed) = .ok (d,told) ∧
      noticed.Perm told ∧ noticed ≠ told := by
  let web : Service := { name := "web", image := "kiosk", networks := ["front","default"] }
  let d : Document :=
    { services := [web,{ name := "db", image := "db" }]
      networks := Dict.ofList [("front",{ name := "front" })] }
  let noticed : List Notice := [
    .keyDropped "secrets",.keyDropped "configs",.inService "web" (.unknownRestart "often"),
    .inService "web" (.directiveDropped "build"),.undeclaredNetwork "web" "back"]
  let told : List Notice := [
    .keyDropped "configs",.keyDropped "secrets",.inService "web" (.directiveDropped "build"),
    .inService "web" (.unknownRestart "often"),.undeclaredNetwork "web" "back"]
  have first : Document.ofValue (.mapping kiosk) = .ok (d,noticed) := by decide +kernel
  have second : Document.ofValue (.mapping kioskReversed) = .ok (d,told) := by decide +kernel
  have untagged : Untagged kiosk := by simp [Untagged,kiosk]
  have distinct : Distinct kiosk := by simp [Distinct,kiosk,Value.same]
  have plain : ∀ v, (.string "services",v) ∈ kiosk → PlainServices v := by
    intro v member
    obtain rfl : v = kioskServices kioskSettings := by simpa [kiosk] using member
    have settings : Untagged kioskSettings ∧ Distinct kioskSettings := by
      simp [Untagged,Distinct,kioskSettings,Value.same]
    have image : Untagged [(.string "image",.string "db")] ∧
        Distinct [(.string "image",.string "db")] := by simp [Untagged,Distinct]
    rintro services ⟨⟩
    simp only [List.forall_mem_cons,Value.mapping.injEq,forall_eq']
    exact ⟨settings,image,List.forall_mem_nil _⟩
  have same := ofValue_reordered untagged distinct plain reordered_kiosk
  rw [first,second] at same
  cases same with
  | accepted _ notices => exact ⟨d,noticed,told,first,second,notices,by decide⟩

end ComposeToPodman.Compose
