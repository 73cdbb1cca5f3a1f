import ComposeToPodman.Proofs.Compose.Extras
import ComposeToPodman.Proofs.Compose.RoundTrip
import ComposeToPodman.Proofs.Compose.ServiceNames

/-! Keys that a document has no place for. At the top level and in a service each of them is noticed.
Deeper down they are not: with them or without them the same is read, and the same is noticed. -/
namespace ComposeToPodman.Compose

open Yaml (Value)
open Yaml.Decode

def topKeys : List String := ["version","name","services","networks","volumes"]

/-- What is noticed of a key at the top level that has no place. An extension need not have one. -/
def topNotice? (key : Value) : Option Notice :=
  match key.text? with
  | some name =>
    if name ∈ topKeys ∨ (Text.afterText? "x-" name).isSome then none else some (.keyDropped name)
  | none => some (.nonStringKey key)

def settingKeys : List String := [
  "image","ports","volumes","environment","labels","restart","network_mode","networks",
  "privileged","command","entrypoint","depends_on"]

/-- What is noticed of a key in a service that has no place. -/
def settingNotice? (key : Value) : Option ServiceNotice :=
  match key.text? with
  | some name => if name ∈ settingKeys then none else some (.directiveDropped name)
  | none => some (.nonStringKey key)

theorem notices_readTopEntry {e : Value × Value} {n : Notice} (dropped : topNotice? e.1 = some n) :
    (readTopEntry e).notices = [n] := by
  unfold topNotice? at dropped
  split at dropped
  next name text =>
    obtain ⟨placeless,⟨⟩⟩ := Option.ite_none_left_eq_some.mp dropped
    obtain ⟨unknown,plain⟩ := not_or.mp placeless
    rw [readTopEntry,text]
    dsimp only
    unfold readTopSetting
    split
    case h_6 => simp [plain,Reading.notice]
    all_goals simp [topKeys] at unknown
  next text =>
    obtain rfl := Option.some.inj dropped
    rw [readTopEntry,text]
    rfl

theorem notices_readEntry {service : String} {volumes : Dict Volume} {e : Value × Value}
    {n : ServiceNotice} (dropped : settingNotice? e.1 = some n) :
    (readEntry service volumes e).notices = [.inService service n] := by
  unfold settingNotice? at dropped
  split at dropped
  next name text =>
    obtain ⟨unknown,⟨⟩⟩ := Option.ite_none_left_eq_some.mp dropped
    rw [readEntry,text]
    dsimp only
    unfold readSetting
    split
    case h_13 => rfl
    all_goals simp [settingKeys] at unknown
  next text =>
    obtain rfl := Option.some.inj dropped
    rw [readEntry,text]
    rfl

/-- An entry that gives a service is a mapping, and what is noticed of its settings is noticed. -/
theorem notices_readServiceEntry {volumes : Dict Volume} {e : Value × Value}
    (clean : (readServiceEntry volumes e).problems = []) :
    ∃ name settings, e.1.text? = some name ∧ e.2 = .mapping settings ∧
      ∀ f ∈ settings, ∀ n ∈ (readEntry name volumes f).notices,
        n ∈ (readServiceEntry volumes e).notices := by
  cases text : e.1.text? with
  | none => simp [readServiceEntry,text,Reading.report] at clean
  | some name =>
    have entry : readServiceEntry volumes e =
        if isName name then readService volumes name e.2
        else do
          .report (.invalidName "service" name)
          return none := by
      rw [readServiceEntry,text]
    rw [entry] at clean ⊢
    split at clean
    case isFalse => simp [Reading.report] at clean
    next named =>
      rw [if_pos named]
      cases whole : e.2 with
      | mapping settings =>
        refine ⟨name,settings,rfl,rfl,fun f member n noticed => ?_⟩
        rw [readService,Reading.notices_bind,Reading.notices_filterMap,List.mem_append,
          List.mem_flatMap]
        exact .inl ⟨f,member,noticed⟩
      | _ => simp [whole,readService,Reading.report] at clean

theorem notices_readServices (d : Draft) (services : List (Value × Value)) :
    ∀ e ∈ services, ∀ n ∈ (readServiceEntry d.volumes e).notices,
      n ∈ (readServices d services).notices := by
  intro e member n noticed
  rw [readServices,Reading.notices_bind,Reading.notices_filterMap,List.mem_append,List.mem_flatMap]
  exact .inl ⟨e,member,noticed⟩

/-- The values of a service without the keys that they have no field for. -/
def pruneSetting (key : String) (v : Value) : Value :=
  match key with
  | "ports" => onItems Form.prunePort v
  | "volumes" => onItems Form.pruneMount v
  | "networks" => Form.pruneNetworks v
  | "depends_on" => Form.pruneDependencies v
  | _ => v

def pruneService : Value → Value := onEntries pruneSetting

/-- The values of the top level without the keys that they have no field for. -/
def pruneTop (key : String) (v : Value) : Value :=
  match key with
  | "services" => onEntries (fun _ => pruneService) v
  | "networks" => onEntries (fun _ => Form.pruneNetwork) v
  | "volumes" => onEntries (fun _ => Form.pruneVolume) v
  | _ => v

/-- A document without the keys, below its top level and its services, that nothing reads. -/
def pruneDocument : Value → Value := onEntries pruneTop

theorem readSetting_pruneSetting (service : String) (volumes : Dict Volume) (key : String)
    (v : Value) :
    readSetting service volumes key (pruneSetting key v) = readSetting service volumes key v := by
  unfold pruneSetting
  split
  next =>
    change decodeSetting _ _ _ _ = _
    rw [list_onItems .alone Form.ofValue_prunePort]
    rfl
  next =>
    change decodeSetting _ _ _ _ = _
    rw [list_onItems .alone Form.ofValue_pruneMount]
    rfl
  next =>
    change decodeSetting _ _ _ _ = _
    rw [Form.ofValue_pruneNetworks]
    rfl
  next =>
    change decodeSetting _ _ _ _ = _
    rw [Form.ofValue_pruneDependencies]
    rfl
  next => rfl

theorem readService_pruneService (volumes : Dict Volume) (name : String) (v : Value) :
    readService volumes name (pruneService v) = readService volumes name v := by
  cases v with
  | mapping settings =>
    have same (e : Value × Value) :
        readEntry name volumes (e.1,e.1.text?.elim e.2 (pruneSetting · e.2)) =
          readEntry name volumes e := by
      unfold readEntry
      cases e.1.text? with
      | none => rfl
      | some key => exact readSetting_pruneSetting name volumes key e.2
    simp only [pruneService,onEntries,readService,Reading.filterMap_map_eq fun e _ => same e]
  | _ => rfl

theorem readServices_prune (d : Draft) (v : Value) (services : List (Value × Value)) :
    readServices { d with services := v }
        (services.map fun e => (e.1,e.1.text?.elim e.2 fun _ => pruneService e.2)) =
      readServices d services := by
  have same (e : Value × Value) :
      readServiceEntry d.volumes (e.1,e.1.text?.elim e.2 fun _ => pruneService e.2) =
        readServiceEntry d.volumes e := by
    unfold readServiceEntry
    cases e.1.text? with
    | none => rfl
    | some name =>
      dsimp only [Option.elim_some]
      rw [readService_pruneService]
  simp only [readServices,Reading.filterMap_map_eq fun e _ => same e]

theorem readDraft_prune (d : Draft) :
    readDraft { d with services := onEntries (fun _ => pruneService) d.services } =
      readDraft d := by
  cases whole : d.services with
  | mapping services =>
    cases services with
    | nil =>
      unfold readDraft
      rw [whole]
      rfl
    | cons e rest =>
      rw [readDraft_of_services whole (List.cons_ne_nil e rest),← readServices_prune d]
      exact readDraft_of_services rfl (List.cons_ne_nil _ _)
  | _ =>
    unfold readDraft
    rw [whole]
    rfl

/-- The services of the top level, changed. -/
def TopSetting.prune : TopSetting → TopSetting
  | services v => services (onEntries (fun _ => pruneService) v)
  | other => other

theorem readResources_onEntries {key kind : String} {read : Value → Yaml.Decode.Result α} {bare : α}
    {make : String → α → β} {f : Value → Value} (null : ∀ v, f v = .null ↔ v = .null)
    (same : ∀ v, read (f v) = read v) (v : Value) :
    readResources key kind read bare make (onEntries (fun _ => f) v) =
      readResources key kind read bare make v := by
  unfold readResources
  rw [dict_onEntries .alone fun _ => optional_congr null same]

theorem readTopSetting_prune (key : String) (v : Value) :
    readTopSetting key (pruneTop key v) =
      Option.map TopSetting.prune <$> readTopSetting key v := by
  unfold pruneTop
  split
  next => rfl
  next =>
    have null (w : Value) : Form.pruneNetwork w = .null ↔ w = .null := by
      rw [Form.pruneNetwork,Function.comp_apply,onEntries_eq_null_iff,(inner_prune _).null_iff]
    change (some ∘ TopSetting.networks) <$> _ =
      Option.map TopSetting.prune <$> (some ∘ .networks) <$> _
    rw [readResources_onEntries null Form.ofValue_pruneNetwork,← comp_map]
    rfl
  next =>
    have null (w : Value) : Form.pruneVolume w = .null ↔ w = .null := by
      rw [Form.pruneVolume,Function.comp_apply,onEntries_eq_null_iff,(inner_prune _).null_iff]
    change (some ∘ TopSetting.volumes) <$> _ =
      Option.map TopSetting.prune <$> (some ∘ .volumes) <$> _
    rw [readResources_onEntries null Form.ofValue_pruneVolume,← comp_map]
    rfl
  next services networks volumes =>
    unfold readTopSetting
    split
    case h_3 => exact absurd rfl services
    case h_4 => exact absurd rfl networks
    case h_5 => exact absurd rfl volumes
    case h_6 => split <;> rfl
    all_goals rfl

theorem readTopEntry_prune (e : Value × Value) :
    readTopEntry (e.1,e.1.text?.elim e.2 (pruneTop · e.2)) =
      Option.map TopSetting.prune <$> readTopEntry e := by
  unfold readTopEntry
  cases e.1.text? with
  | none => rfl
  | some key => exact readTopSetting_prune key e.2

theorem foldl_prune (settings : List TopSetting) (d : Draft) :
    (settings.map TopSetting.prune).foldl TopSetting.apply
        { d with services := onEntries (fun _ => pruneService) d.services } =
      let reached := settings.foldl TopSetting.apply d
      { reached with services := onEntries (fun _ => pruneService) reached.services } := by
  induction settings generalizing d with
  | nil => rfl
  | cons setting rest ih =>
    rw [List.map_cons,List.foldl_cons,List.foldl_cons,← ih]
    cases setting <;> rfl

/-- Reading does not depend on those keys: neither the document, nor what is noticed, nor what is
wrong. -/
theorem readRoot_pruneDocument (root : Value) : readRoot (pruneDocument root) = readRoot root := by
  cases root with
  | mapping entries =>
    rw [pruneDocument,onEntries,readRoot_mapping,readRoot_mapping,
      Reading.filterMap_map readTopEntry_prune,map_eq_pure_bind,bind_assoc]
    refine bind_congr fun settings => ?_
    rw [pure_bind]
    exact (congrArg readDraft (foldl_prune settings {})).trans (readDraft_prune _)
  | _ => rfl

theorem ofValue_pruneDocument (root : Value) :
    Document.ofValue (pruneDocument root) = Document.ofValue root := by
  simp only [Document.ofValue,readRoot_pruneDocument]

/-- Every key of an accepted text that has no place at the top level or in a service is noticed. The
keys that have none further down are not: without them the text is read as the same document, and the
same is noticed. -/
theorem droppedKeys_of_read {text : String} {d : Document} {notices : List Notice}
    (read : Document.read text = .ok (d,notices)) :
    ∃ entries services : List (Value × Value), Value.read text = .ok (.mapping entries) ∧
      lastUnder? "services" entries = some (.mapping services) ∧
      (∀ e ∈ entries, ∀ n, topNotice? e.1 = some n → n ∈ notices) ∧
      (∀ e ∈ services, ∃ name settings, e.1.text? = some name ∧ e.2 = .mapping settings ∧
        ∀ f ∈ settings, ∀ n, settingNotice? f.1 = some n → .inService name n ∈ notices) ∧
      Document.ofValue (pruneDocument (.mapping entries)) = .ok (d,notices) := by
  unfold Document.read at read
  split at read
  case h_2 => cases read
  next root given =>
    obtain ⟨value,clean,_,rfl⟩ := ofValue_eq_ok.mp read
    obtain ⟨entries,services,rfl,whole,nonempty,_,clean⟩ := readServices_of_readRoot value clean
    obtain ⟨_,_,told⟩ := readRoot_of_services whole nonempty
    refine ⟨entries,services,given,lastUnder?_of_services whole,?_,?_,?_⟩
    · intro e member n dropped
      rw [told,Reading.notices_filterMap,List.mem_append,List.mem_flatMap]
      exact .inl ⟨e,member,by simp [notices_readTopEntry dropped]⟩
    · intro e member
      simp only [readServices,Reading.problems_bind,List.append_eq_nil_iff,
        Reading.problems_filterMap,List.flatMap_eq_nil_iff] at clean
      obtain ⟨name,settings,text,mapping,noticed⟩ := notices_readServiceEntry (clean.1 e member)
      refine ⟨name,settings,text,mapping,fun f inside n dropped => ?_⟩
      have here := noticed f inside (.inService name n) (by simp [notices_readEntry dropped])
      rw [told]
      exact List.mem_append_right _ (notices_readServices _ services e member _ here)
    · rw [ofValue_pruneDocument]
      exact read

/-- Keys without a place on three levels. -/
def layersText : String := "services:
  web:
    image: a
    build: .
networks:
  n: {mtu: 9}
secrets: {}
"

theorem droppedKeys_of_read_layers :
    let noticed := [.keyDropped "secrets",.inService "web" (.directiveDropped "build")]
    ∃ d entries, Document.read layersText = .ok (d,noticed) ∧
      Value.read layersText = .ok (.mapping entries) ∧
      Document.ofValue (pruneDocument (.mapping entries)) = .ok (d,noticed) := by
  let d : Document :=
    { services := [{ name := "web", image := "a" }]
      networks := Dict.ofList [("n",{ name := "n" })] }
  have read : Document.read layersText =
      .ok (d,[.keyDropped "secrets",.inService "web" (.directiveDropped "build")]) := by
    decide +kernel
  obtain ⟨entries,_,given,_,_,_,pruned⟩ := droppedKeys_of_read read
  exact ⟨d,entries,read,given,pruned⟩

/-- Options of a network's driver. -/
def driverText : String := "services:
  web:
    image: a
networks:
  n:
    driver_opts: {mtu: 9}
"

theorem key_unnoticed_driver :
    Value.read driverText = .ok (.mapping [
      (.string "services",.mapping [(.string "web",.mapping [(.string "image",.string "a")])]),
      (.string "networks",.mapping [(.string "n",.mapping [
        (.string "driver_opts",.mapping [(.string "mtu",.number (.int 9))])])])]) ∧
    isExtra (Form.Network.fields .alone) (.string "driver_opts") = true ∧
    Document.read driverText = .ok
      ({ services := [{ name := "web", image := "a" }]
         networks := Dict.ofList [("n",{ name := "n" })] },[]) :=
  ⟨by decide +kernel,by decide,by decide +kernel⟩

end ComposeToPodman.Compose
