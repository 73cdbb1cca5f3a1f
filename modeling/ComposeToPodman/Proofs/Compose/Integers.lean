import ComposeToPodman.Proofs.Binary64
import ComposeToPodman.Proofs.Compose.FormValues
import ComposeToPodman.Proofs.Compose.ListsAndMaps
import ComposeToPodman.Proofs.Compose.Sections
import ComposeToPodman.Proofs.Yaml.Maps

/-! Integers in maps of variables and of labels. An integer of 64 bits with a sign is kept as it is; a
larger one becomes a floating point number before its text is taken. -/
namespace ComposeToPodman.Compose

open Yaml (Value)
open Yaml.Value (Distinct)
open Yaml.Decode

variable {pairs : List (Value × Value)}

/-- A mapping is no list, so it is read as a map. -/
theorem environment_of_mapping {form : Form.Environment}
    (decoded : Form.Environment.ofValue (.mapping pairs) = .ok form) :
    ∃ values, form = .map values ∧
      dict .shape (optional Form.Scalar.ofValue) (.mapping pairs) = .ok values := by
  obtain ⟨values,read,same⟩ := ok_of_map (second_of_firstOf rfl decoded)
  exact ⟨values,same.symm,read⟩

theorem labels_of_mapping {form : Form.Labels}
    (decoded : Form.Labels.ofValue (.mapping pairs) = .ok form) :
    ∃ values, form = .map values ∧ dict .shape Form.Scalar.ofValue (.mapping pairs) = .ok values := by
  obtain ⟨values,read,same⟩ := ok_of_map (second_of_firstOf rfl decoded)
  exact ⟨values,same.symm,read⟩

/-- What an integer of 64 bits is kept as: its own text if it is one with a sign, and otherwise the
text of a multiple of 1000 nearby. -/
structure KeptAs (i : Int) (text : String) : Prop where
  exact_text : i < 2 ^ 63 → text = toString i
  rounded : 2 ^ 63 ≤ i → ∃ n : Nat, text = toString n ∧ 1000 ∣ n ∧ (n : Int) ≤ i + 2048 ∧ i ≤ n + 2048

theorem keptAs_of_ofValue {i : Int} (lower : -2 ^ 63 ≤ i) (upper : i < 2 ^ 64) {v : Form.Scalar}
    (decoded : Form.Scalar.ofValue (.number (.int i)) = .ok v) : KeptAs i v.asText := by
  rw [Form.Scalar.ofValue_int] at decoded
  obtain rfl := Except.ok.inj decoded
  split
  next small => exact ⟨fun _ => rfl,fun large => by omega⟩
  next large =>
    exact ⟨fun small => by omega,fun large => Binary64.plainText_ofInt_of_large large upper⟩

/-- The integers of a section are kept under their keys. -/
def IntegersKept (pairs : List (Value × Value)) (kept : Dict String) : Prop :=
  ∀ name i, (.string name,.number (.int i)) ∈ pairs → -2 ^ 63 ≤ i → i < 2 ^ 64 →
    ∃ text, kept.get? name = some text ∧ KeptAs i text

theorem integersKept_environment {form : Form.Environment} (distinct : Distinct pairs)
    (decoded : Form.Environment.ofValue (.mapping pairs) = .ok form) (service : String) :
    IntegersKept pairs (readEnvironment service form).value := by
  intro name i member lower upper
  obtain ⟨values,rfl,read⟩ := environment_of_mapping decoded
  obtain ⟨value,told,inside⟩ := mem_of_dict (hasTag_of_firstOf decoded) distinct read member
  obtain ⟨v,scalar,rfl⟩ := ok_of_map told
  refine ⟨v.asText,?_,keptAs_of_ofValue lower upper scalar⟩
  rw [readEnvironment_map,Dict.get?_eq_some_iff]
  exact mem_environment_iff.mpr ⟨v,inside,rfl⟩

theorem integersKept_labels {form : Form.Labels} (distinct : Distinct pairs)
    (decoded : Form.Labels.ofValue (.mapping pairs) = .ok form) :
    IntegersKept pairs (labelsOf form) := by
  intro name i member lower upper
  obtain ⟨values,rfl,read⟩ := labels_of_mapping decoded
  obtain ⟨v,scalar,inside⟩ := mem_of_dict (hasTag_of_firstOf decoded) distinct read member
  refine ⟨v.asText,?_,keptAs_of_ofValue lower upper scalar⟩
  rw [Dict.get?_eq_some_iff]
  exact mem_labelsOf_iff.mpr ⟨v,inside,rfl⟩

/-- The integers of the variables and of the labels of a service, as far as the sections that hold
them are read as maps. -/
structure Service.IntegersKept (s : Service) (e : Value × Value) : Prop where
  name : e.1.text? = some s.name
  environment : ∀ settings pairs form, e.2 = .mapping settings →
    lastUnder? "environment" settings = some (.mapping pairs) →
    Form.Environment.ofValue (.mapping pairs) = .ok form → Compose.IntegersKept pairs s.environment
  labels : ∀ settings pairs form, e.2 = .mapping settings →
    lastUnder? "labels" settings = some (.mapping pairs) →
    Form.Labels.ofValue (.mapping pairs) = .ok form → Compose.IntegersKept pairs s.labels

theorem integersKept_of_writtenAs {d : Document} {e : Value × Value} {s : Service}
    (distinct : e.2.DistinctKeys) (written : WrittenAs d e s) : s.IntegersKept e := by
  obtain ⟨key,v⟩ := e
  obtain ⟨name,settings,named,rfl,rfl⟩ := written
  rw [value_resolveService]
  refine ⟨?_,?_,?_⟩
  · exact (name_serviceOf d.volumes name settings).symm ▸ named
  all_goals
    intro _ pairs form same last decoded
    obtain rfl := Value.mapping.inj same
    obtain ⟨_,_,member⟩ := mem_of_lastUnder? last
    have apart : Distinct pairs := (distinct.value member).1
    dsimp only
  · rw [environment_serviceOf last decoded]
    exact integersKept_environment apart decoded name
  · rw [labels_serviceOf last decoded]
    exact integersKept_labels apart decoded

/-- Every service of a document stands under `services`, and of its variables and labels that are
integers of 64 bits those with a sign are kept exactly; the others are rounded. -/
theorem integers_of_read {text : String} {d : Document} {notices : List Notice}
    (read : Document.read text = .ok (d,notices)) :
    ∃ entries services : List (Value × Value), Value.read text = .ok (.mapping entries) ∧
      lastUnder? "services" entries = some (.mapping services) ∧
      List.Forall₂ (fun e s => s.IntegersKept e) services d.services := by
  obtain ⟨entries,services,given,last,written,_⟩ := sections_of_read read
  refine ⟨entries,services,given,last,?_⟩
  have distinct : ∀ e ∈ services, e.2.DistinctKeys := by
    obtain ⟨key,_,whole⟩ := mem_of_lastUnder? last
    exact fun e member => ((Yaml.Value.distinctKeys_of_read given).value whole).value member
  exact ((List.forall₂_and_left _ _).mpr ⟨distinct,written⟩).imp fun _ _ each =>
    integersKept_of_writtenAs each.1 each.2

/-- The least and the greatest integer of 64 bits, and one in between. -/
def limitsText : String := "services:
  web:
    image: a
    environment:
      LEAST: -9223372036854775808
      GREATEST: 18446744073709551615
    labels:
      port: 8080
"

def limitsVariables : List (Value × Value) := [
  (.string "LEAST",.number (.int (-9223372036854775808))),
  (.string "GREATEST",.number (.int 18446744073709551615))]

def limitsLabels : List (Value × Value) := [(.string "port",.number (.int 8080))]

def limitsSettings : List (Value × Value) := [
  (.string "image",.string "a"),(.string "environment",.mapping limitsVariables),
  (.string "labels",.mapping limitsLabels)]

def limits : Service :=
  { name := "web"
    image := "a"
    environment := dictOf [("LEAST","-9223372036854775808"),("GREATEST","18446744073709552000")]
    labels := dictOf [("port","8080")] }

theorem value_read_limits : Value.read limitsText =
    .ok (.mapping [(.string "services",.mapping [(.string "web",.mapping limitsSettings)])]) := by
  decide +kernel

theorem read_limits : Document.read limitsText = .ok ({ services := [limits] },[]) :=
  read_eq_ok.mpr ⟨_,value_read_limits,by decide +kernel⟩

theorem integers_of_read_limits : Document.read limitsText = .ok ({ services := [limits] },[]) ∧
    IntegersKept limitsVariables limits.environment ∧ IntegersKept limitsLabels limits.labels := by
  obtain ⟨entries,services,given,last,each⟩ := integers_of_read read_limits
  obtain rfl := Value.mapping.inj (Except.ok.inj (value_read_limits.symm.trans given))
  obtain rfl := Value.mapping.inj (Option.some.inj last)
  obtain ⟨kept,_⟩ := List.forall₂_cons.mp each
  exact ⟨read_limits,kept.environment _ _ _ rfl rfl rfl,kept.labels _ _ _ rfl rfl rfl⟩

/-- The greatest integer of 64 bits is kept as another one. -/
theorem integer_not_exact_limits :
    Value.read limitsText =
      .ok (.mapping [(.string "services",.mapping [(.string "web",.mapping limitsSettings)])]) ∧
    (.string "GREATEST",.number (.int 18446744073709551615)) ∈ limitsVariables ∧
    Document.read limitsText = .ok ({ services := [limits] },[]) ∧
    limits.environment.get? "GREATEST" = some "18446744073709552000" ∧
    toString (18446744073709551615 : Int) ≠ "18446744073709552000" :=
  ⟨value_read_limits,by decide,read_limits,by decide +kernel,by decide⟩

end ComposeToPodman.Compose
