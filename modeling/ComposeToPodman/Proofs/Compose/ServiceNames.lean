import ComposeToPodman.Proofs.Compose.Entries
import Mathlib.Data.List.Induction
import Mathlib.Data.List.Nodup

/-! Names of services. They are the texts of the keys, and keys of one text may differ in a tag: then
two services have one name. -/
namespace ComposeToPodman.Compose

open Yaml (Value)
open Yaml.Value (Distinct Untagged)

/-- What stands last under a name, whatever the tags of the keys. -/
def lastUnder? (name : String) (entries : List (Value × Value)) : Option Value :=
  ((entries.filter (·.1.text? == some name)).getLast?).map (·.2)

theorem lastUnder?_append_of_ne {name : String} {e : Value × Value} (other : e.1.text? ≠ some name)
    (entries : List (Value × Value)) :
    lastUnder? name (entries ++ [e]) = lastUnder? name entries := by
  simp [lastUnder?,other]

theorem lastUnder?_append_of_eq {name : String} {e : Value × Value} (same : e.1.text? = some name)
    (entries : List (Value × Value)) : lastUnder? name (entries ++ [e]) = some e.2 := by
  simp [lastUnder?,same]

theorem draftOf_append (entries : List (Value × Value)) (e : Value × Value) :
    draftOf (entries ++ [e]) =
      (readTopEntry e).value.elim (draftOf entries) (TopSetting.apply (draftOf entries)) := by
  cases given : (readTopEntry e).value <;> simp [draftOf,given]

/-- Of several entries with the name of the services the last one counts. -/
theorem services_draftOf_eq_lastUnder? (entries : List (Value × Value)) :
    (draftOf entries).services = (lastUnder? "services" entries).getD .null := by
  induction entries using List.reverseRecOn with
  | nil => rfl
  | append_singleton entries e ih =>
    rw [draftOf_append]
    by_cases here : e.1.text? = some "services"
    · have told : (readTopEntry e).value = some (.services e.2) := by
        unfold readTopEntry
        rw [here]
        rfl
      rw [told,lastUnder?_append_of_eq here]
      rfl
    · rw [lastUnder?_append_of_ne here,← ih]
      cases told : (readTopEntry e).value with
      | none => rfl
      | some setting => exact services_apply_of_other here told (draftOf entries)

theorem lastUnder?_of_services {entries services : List (Value × Value)}
    (whole : (draftOf entries).services = .mapping services) :
    lastUnder? "services" entries = some (.mapping services) := by
  rw [services_draftOf_eq_lastUnder?] at whole
  cases last : lastUnder? "services" entries with
  | none =>
    rw [last] at whole
    cases whole
  | some v =>
    rw [last] at whole
    exact congrArg some whole

theorem text_of_readServiceEntry {volumes : Dict Volume} {e : Value × Value} {s : Service}
    (read : (readServiceEntry volumes e).value = some s) : e.1.text? = some s.name := by
  unfold readServiceEntry at read
  split at read
  next name text =>
    split at read
    next =>
      obtain ⟨_,_,named⟩ := sound_of_readService read
      exact named ▸ text
    next => cases read
  next => cases read

/-- The services have the texts of the keys for their names, one after another. -/
theorem names_eq_texts {volumes : Dict Volume} {services : List (Value × Value)}
    (clean : ∀ e ∈ services, (readServiceEntry volumes e).problems = []) :
    (services.filterMap fun e => (readServiceEntry volumes e).value).map (some ·.name) =
      services.map (·.1.text?) := by
  induction services with
  | nil => rfl
  | cons e rest ih =>
    obtain ⟨head,tail⟩ := List.forall_mem_cons.mp clean
    cases told : (readServiceEntry volumes e).value with
    | none => exact absurd head (problems_of_readServiceEntry told)
    | some s => simp [told,text_of_readServiceEntry told,ih tail]

theorem names_of_readServices {draft : Draft} {services : List (Value × Value)}
    (clean : (readServices draft services).problems = []) :
    (readServices draft services).value.services.map (some ·.name) =
      services.map (·.1.text?) := by
  simp only [readServices,Reading.problems_bind,List.append_eq_nil_iff,
    Reading.problems_filterMap,List.flatMap_eq_nil_iff] at clean
  rw [← names_eq_texts clean.1]
  simpa [Function.comp_def] using congrArg (List.map some) (names_readServices draft services)

theorem nodup_names_iff {d : Document} {services : List (Value × Value)}
    (names : d.services.map (some ·.name) = services.map (·.1.text?)) :
    (d.services.map (·.name)).Nodup ↔
      services.Pairwise fun e later => e.1.text? ≠ later.1.text? := by
  have wrapped : (d.services.map (·.name)).map some = services.map (·.1.text?) := by
    simpa [Function.comp_def] using names
  rw [← List.nodup_map_iff fun _ _ => Option.some.inj,wrapped]
  exact List.pairwise_map

/-- Keys without tags differ in their texts. -/
theorem pairwise_text_of_untagged {entries : List (Value × Value)} (untagged : Untagged entries)
    (distinct : Distinct entries) (named : ∀ e ∈ entries, ∃ name, e.1.text? = some name) :
    entries.Pairwise fun e later => e.1.text? ≠ later.1.text? := by
  refine distinct.imp_of_mem fun {e later} member behind apart same => ?_
  obtain ⟨name,text⟩ := named e member
  have key := eq_string_of_text? (untagged e member) text
  have laterKey := eq_string_of_text? (untagged later behind) (same ▸ text)
  simp [key,laterKey,Value.same] at apart

theorem mem_of_lastUnder? {name : String} {entries : List (Value × Value)} {v : Value}
    (last : lastUnder? name entries = some v) :
    ∃ key, key.text? = some name ∧ (key,v) ∈ entries := by
  obtain ⟨⟨key,w⟩,given,rfl⟩ := Option.map_eq_some_iff.mp last
  obtain ⟨member,named⟩ := List.mem_filter.mp (List.mem_of_getLast? given)
  exact ⟨key,by simpa using named,member⟩

/-- A document has a service for every key of the mapping of its services, with the text of the key
for its name. So two services have one name exactly if two keys have one text, and keys without tags
never have. -/
theorem names_of_read {text : String} {d : Document} {notices : List Notice}
    (read : Document.read text = .ok (d,notices)) :
    ∃ entries services : List (Value × Value), Value.read text = .ok (.mapping entries) ∧
      lastUnder? "services" entries = some (.mapping services) ∧
      d.services.map (some ·.name) = services.map (·.1.text?) ∧
      ((d.services.map (·.name)).Nodup ↔
        services.Pairwise fun e later => e.1.text? ≠ later.1.text?) ∧
      (Untagged services → (d.services.map (·.name)).Nodup) := by
  unfold Document.read at read
  split at read
  case h_2 => cases read
  next root given =>
    obtain ⟨value,clean,_⟩ := ofValue_eq_ok.mp read
    obtain ⟨entries,services,rfl,whole,_,rfl,clean⟩ := readServices_of_readRoot value clean
    have last := lastUnder?_of_services whole
    have names := names_of_readServices clean
    have distinct : Distinct services := by
      obtain ⟨key,_,member⟩ := mem_of_lastUnder? last
      exact ((Yaml.Value.distinctKeys_of_read given).value member).1
    have named : ∀ e ∈ services, ∃ name, e.1.text? = some name := by
      intro e member
      have inside : e.1.text? ∈ services.map (·.1.text?) := List.mem_map_of_mem member
      rw [← names] at inside
      obtain ⟨s,_,same⟩ := List.mem_map.mp inside
      exact ⟨s.name,same.symm⟩
    refine ⟨entries,services,given,last,names,nodup_names_iff names,fun untagged => ?_⟩
    exact (nodup_names_iff names).mpr (pairwise_text_of_untagged untagged distinct named)

/-- Keys with tags and different texts. -/
def pairText : String := "services:
  !x web:
    image: a
  !x api:
    image: b
"

theorem names_of_read_pair : ∃ d notices, Document.read pairText = .ok (d,notices) ∧
    (d.services.map (·.name)).Nodup := by
  let d : Document :=
    { services := [{ name := "web", image := "a" }, { name := "api", image := "b" }] }
  have read : Document.read pairText = .ok (d,[]) := by decide +kernel
  obtain ⟨_,services,_,_,names,distinct,_⟩ := names_of_read read
  have apart : (services.map (·.1.text?)).Pairwise (· ≠ ·) := names ▸ by decide
  exact ⟨d,[],read,distinct.mpr (List.pairwise_map.mp apart)⟩

/-- Keys that differ in a tag only. -/
def twinsText : String := "services:
  web:
    image: a
  !x web:
    image: b
"

theorem names_not_distinct_twins : ∃ d, Document.read twinsText = .ok (d,[]) ∧
    d.services.map (·.name) = ["web","web"] ∧ ¬(d.services.map (·.name)).Nodup := by
  let d : Document :=
    { services := [{ name := "web", image := "a" }, { name := "web", image := "b" }] }
  have read : Document.read twinsText = .ok (d,[]) := by decide +kernel
  exact ⟨d,read,rfl,by decide⟩

end ComposeToPodman.Compose
