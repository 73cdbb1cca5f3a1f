import ComposeToPodman.Proofs.Compose.Forms
import ComposeToPodman.Proofs.Compose.Mounts
import ComposeToPodman.Proofs.Compose.Ports
import ComposeToPodman.Proofs.Compose.Tokens

/-! A mapping is restored field by field: each field that was written is read without a notice and
restores one part of what it was written from. The fields of a service are those of its settings. -/
namespace ComposeToPodman.Compose

open Target Target.ComposeFile Yaml

section Fields

variable {σ τ : Type} (readEntry : Value × Value → Reading (Option τ)) (apply : σ → τ → σ)

/-- A field is read without a notice and takes one state to another. -/
def Told (s : σ) (f : Field) (t : σ) : Prop :=
  match f with
  | none => t = s
  | some (name,v) =>
    ∃ setting, readEntry (.string name,v) = pure (some setting) ∧ apply s setting = t

inductive AllTold : σ → List Field → σ → Prop
  | nil {s : σ} : AllTold s [] s
  | cons {s t u : σ} {f : Field} {rest : List Field} :
      Told readEntry apply s f t → AllTold t rest u → AllTold s (f :: rest) u

variable {readEntry apply} {s t : σ}

theorem AllTold.read {fs : List Field} (told : AllTold readEntry apply s fs t) :
    ∃ settings, Reading.filterMap readEntry
        (fs.filterMap (·.map fun (name,v) => (Value.string name,v))) = pure settings ∧
      settings.foldl apply s = t := by
  induction told with
  | nil => exact ⟨[],rfl,rfl⟩
  | @cons s _ _ f rest head _ ih =>
    obtain ⟨settings,tail,reached⟩ := ih
    cases f with
    | none =>
      obtain rfl := head
      exact ⟨settings,tail,reached⟩
    | some e =>
      obtain ⟨setting,read,rfl⟩ := head
      refine ⟨setting :: settings,?_,reached⟩
      simp only [List.filterMap_cons,Option.map_some,Reading.filterMap,read,tail]
      rfl

theorem told_field {name : String} {v : Value} {setting : τ}
    (read : readEntry (.string name,v) = pure (some setting)) (sets : apply s setting = t) :
    Told readEntry apply s (field name v) t := ⟨setting,read,sets⟩

theorem told_listField {name : String} {l : List String} {setting : τ}
    (read : readEntry (.string name,.sequence (texts l)) = pure (some setting))
    (sets : apply s setting = t) (unset : l = [] → t = s) :
    Told readEntry apply s (listField name (texts l)) t := by
  unfold listField
  split
  next empty => exact unset (by simpa [texts] using empty)
  next => exact ⟨setting,read,sets⟩

theorem told_dictField {name : String} {d : Dict String} {setting : τ}
    (read : readEntry (.string name,Form.textDict d) = pure (some setting))
    (sets : apply s setting = t) (unset : d = {} → t = s) :
    Told readEntry apply s (dictField name .string d) t := by
  unfold dictField
  split
  next empty => exact unset (Dict.eq_empty_of_isEmpty empty)
  next => exact ⟨setting,read,sets⟩

theorem told_optionalField {name : String} {v : Option β} {f : β → Value} {g : β → τ}
    (read : ∀ b, v = some b → readEntry (.string name,f b) = pure (some (g b)))
    (sets : ∀ b, v = some b → apply s (g b) = t) (unset : v = none → t = s) :
    Told readEntry apply s (optionalField name (v.map f)) t := by
  cases v with
  | none => exact unset rfl
  | some b => exact ⟨g b,read b rfl,sets b rfl⟩

theorem told_flagField {name : String} {b : Bool} {setting : τ}
    (read : readEntry (.string name,.bool true) = pure (some setting))
    (sets : b = true → apply s setting = t) (unset : b = false → t = s) :
    Told readEntry apply s (flagField name b) t := by
  cases b with
  | false => exact unset rfl
  | true => exact ⟨setting,read,sets rfl⟩

end Fields

section Settings

variable (service : String) (volumes : Dict Volume)

theorem readEntry_image {image : String} (trimmed : Text.trim image = image) :
    readEntry service volumes (.string "image",.string image) = pure (some (.image image)) := by
  change pure (some (Setting.image (Text.trim image))) = _
  rw [trimmed]

theorem wordsSetting_texts (key : String) (words : List String)
    (setting : Option (List String) → Setting) :
    wordsSetting service key (.sequence (texts words)) setting =
      pure (some (setting (some words))) := by
  simp [wordsSetting,Form.Command.ofValue_texts,commandWords]

theorem readEntry_command (words : List String) :
    readEntry service volumes (.string "command",.sequence (texts words)) =
      pure (some (.command (some words))) :=
  wordsSetting_texts service _ words _

theorem readEntry_entrypoint (words : List String) :
    readEntry service volumes (.string "entrypoint",.sequence (texts words)) =
      pure (some (.entrypoint (some words))) :=
  wordsSetting_texts service _ words _

theorem list_portTexts (ports : List PortMapping) :
    Decode.list .alone Form.Port.ofValue (.sequence (texts (ports.map portText))) =
      .ok (ports.map fun p => .short (.text (portText p))) := by
  rw [texts,List.map_map]
  exact Decode.list_map .alone fun p _ => Form.Port.ofValue_string (portText p)

theorem list_mountTexts (mounts : List Mount) :
    Decode.list .alone Form.Mount.ofValue (.sequence (texts (mounts.map Mount.short))) =
      .ok (mounts.map fun m => .short m.short) := by
  rw [texts,List.map_map]
  exact Decode.list_map .alone fun m _ => Form.Mount.ofValue_string m.short

theorem readEntry_ports {ports : List PortMapping}
    (portable : ∀ p ∈ ports, p.Portable) (inRange : ∀ p ∈ ports, p.InRange) :
    readEntry service volumes (.string "ports",.sequence (texts (ports.map portText))) =
      pure (some (.ports ports)) := by
  have read : Reading.filterMap (readPort service)
      (ports.map fun p => .short (.text (portText p))) = pure ports :=
    Reading.filterMap_map_eq_pure fun p member =>
      readShortPort_portText (portable p member) (inRange p member) service
  change decodeSetting _ _ _ _ = _
  rw [list_portTexts,decodeSetting,read]
  rfl

theorem readEntry_mounts {mounts : List Mount}
    (portable : ∀ m ∈ mounts, m.Portable volumes) (complete : ∀ m ∈ mounts, m.Complete) :
    readEntry service volumes (.string "volumes",.sequence (texts (mounts.map Mount.short))) =
      pure (some (.mounts mounts)) := by
  have read : Reading.filterMap (readMount service volumes)
      (mounts.map fun m => .short m.short) = pure mounts :=
    Reading.filterMap_map_eq_pure fun m member =>
      readShortMount_short (portable m member) (complete m member) service
  change decodeSetting _ _ _ _ = _
  rw [list_mountTexts,decodeSetting,read]
  rfl

theorem readEntry_environment (values : Dict String) :
    readEntry service volumes (.string "environment",Form.textDict values) =
      pure (some (.environment values)) := by
  have read : readEnvironment service (.map (values.mapEntries fun e => some (.text e.2))) =
      pure values := by
    unfold readEnvironment Dict.mapEntries
    dsimp only
    rw [Reading.filterMap_map_eq_pure fun e _ => ?restored]
    · simp [dictOf]
    · rfl
  change decodeSetting _ _ _ _ = _
  rw [Form.Environment.ofValue_textDict,decodeSetting,read]
  rfl

theorem readEntry_labels (values : Dict String) :
    readEntry service volumes (.string "labels",Form.textDict values) =
      pure (some (.labels values)) := by
  have read : labelsOf (.map (values.mapEntries fun e => .text e.2)) = values := by
    simp [labelsOf,Dict.mapEntries,Form.Scalar.asText,dictOf,Function.comp_def]
  change decodeSetting _ _ _ _ = _
  rw [Form.Labels.ofValue_textDict,decodeSetting,read]
  rfl

theorem readEntry_restart {policy : RestartPolicy} (bounded : policy.Bounded) :
    readEntry service volumes (.string "restart",.string policy.text) =
      pure (some (.restart policy)) := by
  change tokenSetting _ _ _ _ = _
  simp [tokenSetting,scalarText?,RestartPolicy.ofText?_text bounded]

theorem readEntry_networkMode {mode : NetworkMode} (readable : mode.Readable) :
    readEntry service volumes (.string "network_mode",.string mode.text) =
      pure (some (.networkMode mode)) := by
  change tokenSetting _ _ _ _ = _
  simp [tokenSetting,scalarText?,NetworkMode.ofText?_text readable]

theorem readEntry_networks (names : List String) :
    readEntry service volumes (.string "networks",.sequence (texts names)) =
      pure (some (.networks names)) := by
  change decodeSetting _ _ _ _ = _
  rw [Form.Networks.ofValue_texts]
  rfl

theorem readEntry_privileged (b : Bool) :
    readEntry service volumes (.string "privileged",.bool b) = pure (some (.privileged b)) := rfl

theorem readEntry_dependsOn (names : List String) :
    readEntry service volumes (.string "depends_on",.sequence (texts names)) =
      pure (some (.dependsOn names)) := by
  change decodeSetting _ _ _ _ = _
  rw [Form.Dependencies.ofValue_texts]
  rfl

/-! The same as steps: each restores one field of a service that does not have it yet. -/

/-- Reading a field of a service takes one service to another. -/
abbrev Restored : Service → Field → Service → Prop := Told (readEntry service volumes) Setting.apply

variable {service volumes} {s : Service}

theorem restored_entrypoint (unset : s.entrypoint = none) (words : Option (List String)) :
    Restored service volumes s
      (optionalField "entrypoint" (words.map fun words => .sequence (texts words)))
      { s with entrypoint := words } := by
  refine told_optionalField (fun words _ => readEntry_entrypoint service volumes words) ?_ ?_
  · rintro _ rfl
    rfl
  · rintro rfl
    rw [← unset]

theorem restored_command (unset : s.command = none) (words : Option (List String)) :
    Restored service volumes s
      (optionalField "command" (words.map fun words => .sequence (texts words)))
      { s with command := words } := by
  refine told_optionalField (fun words _ => readEntry_command service volumes words) ?_ ?_
  · rintro _ rfl
    rfl
  · rintro rfl
    rw [← unset]

theorem restored_ports (unset : s.ports = []) {ports : List PortMapping}
    (portable : ∀ p ∈ ports, p.Portable) (inRange : ∀ p ∈ ports, p.InRange) :
    Restored service volumes s (listField "ports" (texts (ports.map portText)))
      { s with ports } :=
  told_listField (readEntry_ports service volumes portable inRange) rfl fun empty => by
    rw [List.map_eq_nil_iff.mp empty,← unset]

theorem restored_mounts (unset : s.mounts = []) {mounts : List Mount}
    (portable : ∀ m ∈ mounts, m.Portable volumes) (complete : ∀ m ∈ mounts, m.Complete) :
    Restored service volumes s (listField "volumes" (texts (mounts.map Mount.short)))
      { s with mounts } :=
  told_listField (readEntry_mounts service volumes portable complete) rfl fun empty => by
    rw [List.map_eq_nil_iff.mp empty,← unset]

theorem restored_environment (unset : s.environment = {}) (environment : Dict String) :
    Restored service volumes s (dictField "environment" .string environment)
      { s with environment } :=
  told_dictField (readEntry_environment service volumes environment) rfl fun empty => by
    rw [empty,← unset]

theorem restored_restart (unset : s.restart = none) {restart : Option RestartPolicy}
    (bounded : ∀ r, restart = some r → r.Bounded) :
    Restored service volumes s
      (optionalField "restart" (restart.map fun r => .string r.text)) { s with restart } := by
  refine told_optionalField
    (fun r given => readEntry_restart service volumes (bounded r given)) ?_ ?_
  · rintro _ rfl
    rfl
  · rintro rfl
    rw [← unset]

theorem restored_networkMode (unset : s.networkMode = none) {networkMode : Option NetworkMode}
    (readable : ∀ m, networkMode = some m → m.Readable) :
    Restored service volumes s
      (optionalField "network_mode" (networkMode.map fun m => .string m.text))
      { s with networkMode } := by
  refine told_optionalField
    (fun m given => readEntry_networkMode service volumes (readable m given)) ?_ ?_
  · rintro _ rfl
    rfl
  · rintro rfl
    rw [← unset]

theorem restored_networks (unset : s.networks = []) (networks : List String) :
    Restored service volumes s (listField "networks" (texts networks)) { s with networks } :=
  told_listField (readEntry_networks service volumes networks) rfl fun empty => by
    rw [empty,← unset]

theorem restored_privileged (unset : s.privileged = false) (privileged : Bool) :
    Restored service volumes s (flagField "privileged" privileged) { s with privileged } := by
  refine told_flagField (readEntry_privileged service volumes true) ?_ ?_
  · rintro rfl
    rfl
  · rintro rfl
    rw [← unset]

theorem restored_dependsOn (unset : s.dependsOn = []) (dependsOn : List String) :
    Restored service volumes s (listField "depends_on" (texts dependsOn)) { s with dependsOn } :=
  told_listField (readEntry_dependsOn service volumes dependsOn) rfl fun empty => by
    rw [empty,← unset]

theorem restored_labels (unset : s.labels = {}) (labels : Dict String) :
    Restored service volumes s (dictField "labels" .string labels) { s with labels } :=
  told_dictField (readEntry_labels service volumes labels) rfl fun empty => by
    rw [empty,← unset]

end Settings

end ComposeToPodman.Compose
