import ComposeToPodman.Proofs.Compose.WellFormed
import ComposeToPodman.Proofs.Yaml.Keys
import Mathlib.Data.List.Forall2

/-! What the reading of a mapping, entry by entry, says of one of its keys. -/
namespace ComposeToPodman.Compose

open Yaml (Value)
open Yaml.Value (Distinct Untagged)

/-- What a mapping has under a name. -/
def under? (name : String) (entries : List (Value × Value)) : Option Value :=
  entries.lookup (.string name)

theorem eq_string_of_text? {key : Value} {name : String} (untagged : ∀ tag v, key ≠ .tagged tag v)
    (text : key.text? = some name) : key = .string name := by
  cases key with
  | string s => exact congrArg _ (Option.some.inj text)
  | tagged tag v => exact absurd rfl (untagged tag v)
  | _ => cases text

/-- Behind an entry there is no other of its name. -/
theorem absent_behind {name : String} {v : Value} {rest : List (Value × Value)}
    (distinct : Distinct ((.string name,v) :: rest)) : ∀ e ∈ rest, e.1 ≠ .string name := by
  intro e member same
  have apart := (List.pairwise_cons.mp distinct).1 e member
  simp [same,Value.same] at apart

theorem under?_eq_some_iff {name : String} {entries : List (Value × Value)} {v : Value}
    (distinct : Distinct entries) : under? name entries = some v ↔ (.string name,v) ∈ entries := by
  unfold under?
  induction entries with
  | nil => simp
  | cons e rest ih =>
    obtain ⟨key,w⟩ := e
    have ih := ih (List.pairwise_cons.mp distinct).2
    by_cases here : key = .string name
    · subst here
      have absent : (.string name,v) ∉ rest := fun member => absent_behind distinct _ member rfl
      simp [absent,eq_comm]
    · have other : (Value.string name == key) = false := by simpa using Ne.symm here
      rw [List.lookup_cons,other]
      simpa [Ne.symm here] using ih

section Fold

variable {σ τ γ : Type} {read : Value × Value → Option τ} {apply : σ → τ → σ} {get : σ → γ}
  {entries : List (Value × Value)}

theorem foldl_filterMap_cons (e : Value × Value) (rest : List (Value × Value)) (s : σ) :
    ((e :: rest).filterMap read).foldl apply s =
      (rest.filterMap read).foldl apply ((read e).elim s (apply s)) := by
  cases given : read e <;> simp [given]

theorem get_elim {e : Value × Value} (other : ∀ t, read e = some t → ∀ s, get (apply s t) = get s)
    (s : σ) : get ((read e).elim s (apply s)) = get s := by
  cases given : read e with
  | none => rfl
  | some t => exact other t given s

theorem get_foldl_of_absent
    (other : ∀ e ∈ entries, ∀ t, read e = some t → ∀ s, get (apply s t) = get s) (s : σ) :
    get ((entries.filterMap read).foldl apply s) = get s := by
  induction entries generalizing s with
  | nil => rfl
  | cons e rest ih =>
    obtain ⟨head,tail⟩ := List.forall_mem_cons.mp other
    rw [foldl_filterMap_cons,ih tail,get_elim head]

/-- If only the entry of one name has a say in a part of the result, the part is what it says. -/
theorem get_foldl (read : Value × Value → Option τ) (apply : σ → τ → σ) (get : σ → γ)
    (name : String) (update : Value → Option γ) (distinct : Distinct entries)
    (other : ∀ e ∈ entries, e.1 ≠ .string name → ∀ t, read e = some t → ∀ s,
      get (apply s t) = get s)
    (own : ∀ v s, get ((read (.string name,v)).elim s (apply s)) = (update v).getD (get s)) (s : σ) :
    get ((entries.filterMap read).foldl apply s) =
      ((under? name entries).bind update).getD (get s) := by
  unfold under?
  induction entries generalizing s with
  | nil => rfl
  | cons e rest ih =>
    obtain ⟨key,v⟩ := e
    obtain ⟨head,tail⟩ := List.forall_mem_cons.mp other
    rw [foldl_filterMap_cons]
    by_cases here : key = .string name
    · -- Nothing behind it has a say any more.
      subst here
      rw [get_foldl_of_absent fun e member => tail e member (absent_behind distinct e member),own,
        List.lookup_cons,beq_self_eq_true]
      rfl
    · have apart : (Value.string name == key) = false := by simpa using Ne.symm here
      rw [ih (List.pairwise_cons.mp distinct).2 tail,get_elim (head here),List.lookup_cons,apart]

end Fold

theorem services_apply_of_other {e : Value × Value} {setting : TopSetting}
    (other : e.1.text? ≠ some "services") (read : (readTopEntry e).value = some setting) (d : Draft) :
    (setting.apply d).services = d.services := by
  unfold readTopEntry at read
  split at read
  next key text =>
    have key : key ≠ "services" := fun same => other (same ▸ text)
    unfold readTopSetting at read
    split at read
    case h_3 => exact absurd rfl key
    case h_6 => split at read <;> cases read
    all_goals
      obtain rfl := Option.some.inj read
      rfl
  next => cases read

theorem services_draftOf {entries : List (Value × Value)} (untagged : Untagged entries)
    (distinct : Distinct entries) :
    (draftOf entries).services = (under? "services" entries).getD .null := by
  have told := get_foldl (fun e => (readTopEntry e).value) TopSetting.apply Draft.services
    "services" some distinct ?_ (fun _ _ => rfl) {}
  · simpa [draftOf] using told
  · intro e member other setting given
    refine services_apply_of_other (fun text => other ?_) given
    exact eq_string_of_text? (untagged e member) text

/-- The same entry, or one of `services` whose value is in a relation to another. -/
inductive EntryApart (R : Value → Value → Prop) : Value × Value → Value × Value → Prop
  | services (key : k.text? = some "services") (related : R v w) : EntryApart R (k,v) (k,w)
  | same (e : Value × Value) : EntryApart R e e

/-- Drafts that are the same but for their services, which are in a relation. -/
def Draft.Apart (R : Value → Value → Prop) (d e : Draft) : Prop :=
  ∃ v, R d.services v ∧ e = { d with services := v }

theorem Draft.Apart.apply {R : Value → Value → Prop} (refl : ∀ v, R v v) {d e : Draft}
    (apart : d.Apart R e) (setting : TopSetting) :
    Draft.Apart R (TopSetting.apply d setting) (TopSetting.apply e setting) := by
  obtain ⟨v,related,rfl⟩ := apart
  cases setting with
  | services w => exact ⟨w,refl w,rfl⟩
  | version _ | name _ | networks _ | volumes _ => exact ⟨v,related,rfl⟩

theorem readTopEntry_services {k : Value} (key : k.text? = some "services") (v : Value) :
    readTopEntry (k,v) = pure (some (.services v)) := by
  rw [readTopEntry,key]
  rfl

/-- Step by step: an entry tells the same, and drafts stay the same but for their services. -/
theorem readTopEntry_apart {R : Value → Value → Prop} (refl : ∀ v, R v v)
    {entries others : List (Value × Value)}
    (each : List.Forall₂ (EntryApart R) entries others) :
    (Reading.filterMap readTopEntry entries).notices =
        (Reading.filterMap readTopEntry others).notices ∧
      (Reading.filterMap readTopEntry entries).problems =
        (Reading.filterMap readTopEntry others).problems ∧
      ∀ d e : Draft, d.Apart R e →
        Draft.Apart R ((Reading.filterMap readTopEntry entries).value.foldl TopSetting.apply d)
          ((Reading.filterMap readTopEntry others).value.foldl TopSetting.apply e) := by
  simp only [Reading.notices_filterMap,Reading.problems_filterMap,Reading.value_filterMap]
  induction each with
  | nil => exact ⟨rfl,rfl,fun _ _ apart => apart⟩
  | @cons first _ _ _ head _ ih =>
    obtain ⟨notices,problems,drafts⟩ := ih
    simp only [List.flatMap_cons,foldl_filterMap_cons,notices,problems]
    cases head with
    | services key related =>
      simp only [readTopEntry_services key]
      refine ⟨rfl,rfl,fun d e before => drafts _ _ ?_⟩
      obtain ⟨_,_,rfl⟩ := before
      exact ⟨_,related,rfl⟩
    | same =>
      refine ⟨rfl,rfl,fun d e before => drafts _ _ ?_⟩
      cases (readTopEntry first).value with
      | none => exact before
      | some setting => exact before.apply refl setting

theorem readServiceEntry_related {S : Reading (Option Service) → Reading (Option Service) → Prop}
    (refl : ∀ r, S r r) (volumes : Dict Volume) {e f : Value × Value} (key : e.1 = f.1)
    (values : ∀ name, S (readService volumes name e.2) (readService volumes name f.2)) :
    S (readServiceEntry volumes e) (readServiceEntry volumes f) := by
  unfold readServiceEntry
  rw [← key]
  split
  next name _ =>
    split
    next => exact values name
    next => exact refl _
  next => exact refl _

/-- The service of a name, as its settings tell it. -/
def serviceOf (volumes : Dict Volume) (name : String) (settings : List (Value × Value)) : Service :=
  (Reading.filterMap (readEntry name volumes) settings).value.foldl Setting.apply { name }

/-- The key under which a setting is written. -/
def Setting.key : Setting → String
  | image _ => "image"
  | ports _ => "ports"
  | mounts _ => "volumes"
  | environment _ => "environment"
  | labels _ => "labels"
  | restart _ => "restart"
  | networkMode _ => "network_mode"
  | networks _ => "networks"
  | privileged _ => "privileged"
  | command _ => "command"
  | entrypoint _ => "entrypoint"
  | dependsOn _ => "depends_on"

theorem Setting.image_apply {setting : Setting} (other : setting.key ≠ "image") (s : Service) :
    (setting.apply s).image = s.image := by
  cases setting <;> first | rfl | exact absurd rfl other

theorem Setting.dependsOn_apply {setting : Setting} (other : setting.key ≠ "depends_on")
    (s : Service) : (setting.apply s).dependsOn = s.dependsOn := by
  cases setting <;> first | rfl | exact absurd rfl other

theorem key_of_readSetting {service key : String} {volumes : Dict Volume} {value : Value}
    {setting : Setting} (read : (readSetting service volumes key value).value = some setting) :
    setting.key = key := by
  unfold readSetting at read
  split at read
  next =>
    obtain rfl := Option.some.inj read
    rfl
  case h_6 | h_7 =>
    obtain ⟨token,parsed⟩ := value_tokenSetting read
    obtain ⟨_,_,rfl⟩ := Option.map_eq_some_iff.mp parsed
    rfl
  case h_10 | h_11 =>
    obtain ⟨words,rfl⟩ := value_wordsSetting read
    rfl
  case h_13 => cases read
  all_goals
    obtain ⟨form,_,rfl⟩ := value_decodeSetting read
    rfl

theorem text_of_readEntry {service : String} {volumes : Dict Volume} {e : Value × Value}
    {setting : Setting} (read : (readEntry service volumes e).value = some setting) :
    e.1.text? = some setting.key := by
  unfold readEntry at read
  split at read
  next key text => exact key_of_readSetting read ▸ text
  next => cases read

theorem key_of_readEntry {service : String} {volumes : Dict Volume} {e : Value × Value}
    {setting : Setting} (untagged : ∀ tag v, e.1 ≠ .tagged tag v)
    (read : (readEntry service volumes e).value = some setting) : e.1 = .string setting.key :=
  eq_string_of_text? untagged (text_of_readEntry read)

/-- The names that a form of `depends_on` gives. -/
def Form.Dependencies.names : Form.Dependencies → List String
  | .list names => names
  | .map conditions => conditions.keys

theorem value_readDependencies (service : String) (form : Form.Dependencies) :
    (readDependencies service form).value = form.names := by
  cases form with
  | list names => rfl
  | map conditions =>
    refine Reading.value_filterMap_eq_map fun e _ => ?_
    dsimp only
    split <;> rfl

section Settings

variable {settings : List (Value × Value)} {volumes : Dict Volume}

theorem name_serviceOf (volumes : Dict Volume) (name : String) (settings : List (Value × Value)) :
    (serviceOf volumes name settings).name = name := name_foldl_apply _ _

theorem image_serviceOf (untagged : Untagged settings) (distinct : Distinct settings)
    (name : String) : (serviceOf volumes name settings).image =
      (((under? "image" settings).bind scalarText?).map Text.trim).getD "" := by
  let update (v : Value) : Option String := some (((scalarText? v).map Text.trim).getD "")
  have told := get_foldl (fun e => (readEntry name volumes e).value) Setting.apply Service.image
    "image" update distinct ?_ (fun _ _ => rfl) { name }
  · rw [serviceOf,Reading.value_filterMap,told]
    cases under? "image" settings with
    | none => rfl
    | some v => simp [update]
  · intro e member other setting given s
    refine setting.image_apply (fun same => other ?_) s
    rw [key_of_readEntry (untagged e member) given,same]

theorem dependsOn_serviceOf (untagged : Untagged settings) (distinct : Distinct settings)
    (name : String) : (serviceOf volumes name settings).dependsOn =
      ((under? "depends_on" settings).bind fun v =>
        (Form.Dependencies.ofValue v).toOption.map Form.Dependencies.names).getD [] := by
  have told := get_foldl (fun e => (readEntry name volumes e).value) Setting.apply
    Service.dependsOn "depends_on"
    (fun v => (Form.Dependencies.ofValue v).toOption.map Form.Dependencies.names) distinct ?_ ?_
    { name }
  · rw [serviceOf,Reading.value_filterMap,told]
  · intro e member other setting given s
    refine setting.dependsOn_apply (fun same => other ?_) s
    rw [key_of_readEntry (untagged e member) given,same]
  · intro v s
    change Service.dependsOn ((decodeSetting name "depends_on" (Form.Dependencies.ofValue v) fun
      form => .dependsOn <$> readDependencies name form).value.elim s (Setting.apply s)) = _
    cases Form.Dependencies.ofValue v with
    | error cause => rfl
    | ok form => exact value_readDependencies name form

end Settings

end ComposeToPodman.Compose
