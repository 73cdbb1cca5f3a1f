import ComposeToPodman.Proofs.Compose.KeyOrder
import ComposeToPodman.Proofs.Compose.Problems
import ComposeToPodman.Proofs.Compose.ServiceNames

/-! What a document has of the sections of its file. Of several sections of one name, which differ in
the tags of their keys, the last one counts. -/
namespace ComposeToPodman.Compose

open Yaml (Value)

/-- A part of the result on which only entries of one name have a say is what the last one says. -/
theorem get_foldl_last {σ τ γ : Type} {read : Value × Value → Option τ} {name : String}
    {entries : List (Value × Value)} {v : Value} {told : γ} (apply : σ → τ → σ) (get : σ → γ)
    (last : lastUnder? name entries = some v)
    (other : ∀ e t, e.1.text? ≠ some name → read e = some t → ∀ s, get (apply s t) = get s)
    (own : ∀ key s, key.text? = some name → get ((read (key,v)).elim s (apply s)) = told) (s : σ) :
    get ((entries.filterMap read).foldl apply s) = told := by
  induction entries using List.reverseRecOn with
  | nil => cases last
  | append_singleton entries e ih =>
    have step : ((entries ++ [e]).filterMap read).foldl apply s =
        (read e).elim ((entries.filterMap read).foldl apply s)
          (apply ((entries.filterMap read).foldl apply s)) := by
      cases given : read e <;> simp [given]
    rw [step]
    by_cases here : e.1.text? = some name
    · rw [lastUnder?_append_of_eq here] at last
      obtain rfl := Option.some.inj last
      exact own e.1 _ here
    · rw [lastUnder?_append_of_ne here] at last
      rw [get_elim fun t given => other e t here given,ih last]

/-- A file declares a resource under a key of a section. -/
def DeclaredUnder (title : String) (read : Value → Yaml.Decode.Result α)
    (entries : List (Value × Value)) (key : String) (form : Option α) : Prop :=
  ∃ v forms, lastUnder? title entries = some v ∧
    Yaml.Decode.dict .alone (Yaml.Decode.optional read) v = .ok forms ∧ forms.get? key = some form

theorem get?_readResources {title kind : String} {read : Value → Yaml.Decode.Result α} {bare : α}
    {make : String → α → β} {v : Value} {forms : Dict (Option α)} {key : String} {form : Option α}
    (decoded : Yaml.Decode.dict .alone (Yaml.Decode.optional read) v = .ok forms)
    (clean : (readResources title kind read bare make v).problems = [])
    (declared : forms.get? key = some form) :
    (readResources title kind read bare make v).value.get? key =
      some (make key (form.getD bare)) := by
  have named : ∀ e ∈ forms.entries, isName e.1 = true := by
    rw [problems_readResources decoded] at clean
    simpa [Dict.keys] using clean
  have whole : (readResources title kind read bare make v).value =
      forms.mapEntries fun e => make e.1 (e.2.getD bare) := by
    rw [← Dict.ofList_map,readResources,decoded]
    dsimp only
    rw [Reading.value_map,
      Reading.value_filterMap_eq_map fun e member => by simp [named e member]; rfl]
  rw [whole,Dict.get?_eq_some_iff]
  exact List.mem_map_of_mem (Dict.get?_eq_some_iff.mp declared)

/-- What is declared under a key of a section is what the file says of it. -/
theorem get?_draftOf {title kind : String} {read : Value → Yaml.Decode.Result α} {bare : α}
    {make : String → α → β} {entries : List (Value × Value)} {key : String} {form : Option α}
    (get : Draft → Dict β) (setting : Dict β → TopSetting)
    (titled : ∀ v, readTopSetting title v =
      (some ∘ setting) <$> readResources title kind read bare make v)
    (own : ∀ d declared, get (TopSetting.apply d (setting declared)) = declared)
    (other : ∀ d (t : TopSetting), t.key ≠ title → get (TopSetting.apply d t) = get d)
    (clean : (Reading.filterMap readTopEntry entries).problems = [])
    (declared : DeclaredUnder title read entries key form) :
    (get (draftOf entries)).get? key = some (make key (form.getD bare)) := by
  obtain ⟨v,forms,last,decoded,declared⟩ := declared
  have entry (k : Value) (text : k.text? = some title) : readTopEntry (k,v) =
      (some ∘ setting) <$> readResources title kind read bare make v := by
    rw [readTopEntry,text]
    exact titled v
  have told : get (draftOf entries) = (readResources title kind read bare make v).value := by
    rw [draftOf,Reading.value_filterMap]
    refine get_foldl_last TopSetting.apply get last (fun e t apart given d => ?_)
      (fun k d text => by rw [entry k text]; exact own d _) _
    exact other d t fun same => apart (same ▸ text_of_readTopEntry given)
  rw [told]
  refine get?_readResources decoded ?_ declared
  obtain ⟨k,text,member⟩ := mem_of_lastUnder? last
  rw [Reading.problems_filterMap,List.flatMap_eq_nil_iff] at clean
  simpa [entry k text] using clean _ member

section Draft

variable {entries : List (Value × Value)} {key : String}

theorem networks_draftOf (clean : (Reading.filterMap readTopEntry entries).problems = [])
    {form : Option Form.Network}
    (declared : DeclaredUnder "networks" (Form.Network.ofValue .alone) entries key form) :
    (draftOf entries).networks.get? key = some (networkOf key (form.getD {})) := by
  refine get?_draftOf Draft.networks .networks (fun _ => rfl) (fun _ _ => rfl)
    (fun d t apart => ?_) clean declared
  cases t <;> first | rfl | exact absurd rfl apart

theorem volumes_draftOf (clean : (Reading.filterMap readTopEntry entries).problems = [])
    {form : Option Form.Volume}
    (declared : DeclaredUnder "volumes" (Form.Volume.ofValue .alone) entries key form) :
    (draftOf entries).volumes.get? key = some (volumeOf key (form.getD {})) := by
  refine get?_draftOf Draft.volumes .volumes (fun _ => rfl) (fun _ _ => rfl)
    (fun d t apart => ?_) clean declared
  cases t <;> first | rfl | exact absurd rfl apart

end Draft

section Service

variable {settings : List (Value × Value)} {v : Value}

/-- What the last section of a name is decoded to makes the part of a service that it sets. -/
theorem get_serviceOf {γ : Type} {title name : String}
    {decode : Value → Yaml.Decode.Result α} {form : α}
    {volumes : Dict Volume} {read : α → Reading Setting} {told : γ} (get : Service → γ)
    (titled : readSetting name volumes title v = decodeSetting name title (decode v) read)
    (own : ∀ s, get ((read form).value.apply s) = told)
    (other : ∀ s (t : Setting), t.key ≠ title → get (t.apply s) = get s)
    (last : lastUnder? title settings = some v) (decoded : decode v = .ok form) :
    get (serviceOf volumes name settings) = told := by
  rw [serviceOf,Reading.value_filterMap]
  refine get_foldl_last Setting.apply get last (fun e t apart given s => ?_)
    (fun k s text => ?_) _
  · exact other s t fun same => apart (same ▸ text_of_readEntry given)
  · have entry : readEntry name volumes (k,v) = decodeSetting name title (decode v) read := by
      rw [readEntry,text]
      exact titled
    rw [entry,decoded]
    exact own s

theorem environment_serviceOf {form : Form.Environment}
    (last : lastUnder? "environment" settings = some v)
    (decoded : Form.Environment.ofValue v = .ok form) (volumes : Dict Volume) (name : String) :
    (serviceOf volumes name settings).environment = (readEnvironment name form).value := by
  refine get_serviceOf Service.environment rfl (fun _ => rfl) (fun s t apart => ?_) last decoded
  cases t <;> first | rfl | exact absurd rfl apart

theorem labels_serviceOf {form : Form.Labels} (last : lastUnder? "labels" settings = some v)
    (decoded : Form.Labels.ofValue v = .ok form) (volumes : Dict Volume) (name : String) :
    (serviceOf volumes name settings).labels = labelsOf form := by
  refine get_serviceOf Service.labels rfl (fun _ => rfl) (fun s t apart => ?_) last decoded
  cases t <;> first | rfl | exact absurd rfl apart

end Service

/-- A service of a document is read from an entry, and its references are resolved. -/
def WrittenAs (d : Document) (e : Value × Value) (s : Service) : Prop :=
  ∃ name settings, e.1.text? = some name ∧ e.2 = .mapping settings ∧
    s = (resolveService (d.services.map (·.name)) d.networks
      (serviceOf d.volumes name settings)).value

theorem serviceOf_of_readServiceEntry {volumes : Dict Volume} {e : Value × Value} {s : Service}
    (read : (readServiceEntry volumes e).value = some s) :
    ∃ name settings, e.1.text? = some name ∧ e.2 = .mapping settings ∧
      s = serviceOf volumes name settings := by
  unfold readServiceEntry at read
  split at read
  next name text =>
    split at read
    next =>
      unfold readService at read
      split at read
      next settings whole =>
        rw [Reading.value_bind] at read
        dsimp only at read
        split at read
        next => cases read
        next => exact ⟨name,settings,text,whole,(Option.some.inj read).symm⟩
      next => cases read
    next => cases read
  next => cases read

theorem forall₂_filterMap {α β : Type} {f : α → Option β} {R : α → β → Prop} {l : List α}
    (every : ∀ a ∈ l, ∃ b, f a = some b ∧ R a b) : List.Forall₂ R l (l.filterMap f) := by
  induction l with
  | nil => exact .nil
  | cons a rest ih =>
    obtain ⟨head,tail⟩ := List.forall_mem_cons.mp every
    obtain ⟨b,given,related⟩ := head
    rw [List.filterMap_cons_some given]
    exact .cons related (ih tail)

theorem writtenAs_of_readServices {draft : Draft} {services : List (Value × Value)}
    (clean : (readServices draft services).problems = []) :
    List.Forall₂ (WrittenAs (readServices draft services).value) services
      (readServices draft services).value.services := by
  let d := (readServices draft services).value
  have resolved : d.services =
      (services.filterMap fun e => (readServiceEntry draft.volumes e).value).map
        fun s => (resolveService (d.services.map (·.name)) draft.networks s).value := by
    rw [names_readServices draft services]
    simp [d,readServices]
  have whole : List.Forall₂ (WrittenAs d) services
      ((services.filterMap fun e => (readServiceEntry draft.volumes e).value).map
        fun s => (resolveService (d.services.map (·.name)) draft.networks s).value) := by
    refine List.forall₂_map_right_iff.mpr (forall₂_filterMap fun e member => ?_)
    simp only [readServices,Reading.problems_bind,List.append_eq_nil_iff,
      Reading.problems_filterMap,List.flatMap_eq_nil_iff] at clean
    cases told : (readServiceEntry draft.volumes e).value with
    | none => exact absurd (clean.1 e member) (problems_of_readServiceEntry told)
    | some s =>
      obtain ⟨name,settings,text,written,rfl⟩ := serviceOf_of_readServiceEntry told
      exact ⟨_,rfl,name,settings,text,written,rfl⟩
  rwa [← resolved] at whole

/-- What a document is read from: the last sections of its file. -/
theorem sections_of_read {text : String} {d : Document} {notices : List Notice}
    (read : Document.read text = .ok (d,notices)) :
    ∃ entries services : List (Value × Value), Value.read text = .ok (.mapping entries) ∧
      lastUnder? "services" entries = some (.mapping services) ∧
      List.Forall₂ (WrittenAs d) services d.services ∧
      d.networks = (draftOf entries).networks ∧ d.volumes = (draftOf entries).volumes ∧
      (Reading.filterMap readTopEntry entries).problems = [] := by
  obtain ⟨root,given,read⟩ := read_eq_ok.mp read
  obtain ⟨value,clean,_⟩ := ofValue_eq_ok.mp read
  obtain ⟨entries,services,rfl,whole,nonempty,rfl,cleanServices⟩ :=
    readServices_of_readRoot value clean
  obtain ⟨_,problems,_⟩ := readRoot_of_services whole nonempty
  rw [problems,List.append_eq_nil_iff] at clean
  exact ⟨entries,services,given,lastUnder?_of_services whole,
    writtenAs_of_readServices cleanServices,rfl,rfl,clean.1⟩

end ComposeToPodman.Compose
