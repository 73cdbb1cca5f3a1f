import ComposeToPodman.Proofs.Yaml.Keys
import ComposeToPodman.Proofs.Yaml.Prune

/-! Maps that are decoded from mappings. Without tags every entry is in the map, under its own key. -/
namespace ComposeToPodman.Yaml.Decode

open Value (Distinct)

variable {α : Type} {read : Value → Result α} {pairs : List (Value × Value)}
  {listed : List (String × α)}

theorem forall₂_of_entries (decoded : entries read pairs = .ok listed) :
    List.Forall₂ (fun e x => string e.1 = .ok x.1 ∧ read e.2 = .ok x.2) pairs listed := by
  induction pairs generalizing listed with
  | nil =>
    obtain rfl := Except.ok.inj decoded
    exact .nil
  | cons e rest ih =>
    obtain ⟨k,w⟩ := e
    obtain ⟨key,named,decoded⟩ := ok_of_bind decoded
    obtain ⟨a,valued,decoded⟩ := ok_of_bind decoded
    obtain ⟨others,tail,decoded⟩ := ok_of_bind decoded
    obtain rfl := Except.ok.inj decoded
    exact .cons ⟨named,valued⟩ (ih tail)

theorem eq_of_string {key : Value} {name : String} (plain : hasTag key = false)
    (named : string key = .ok name) : key = .string name := by
  cases key with
  | string s => exact congrArg _ (Except.ok.inj named)
  | tagged tag v => cases plain
  | _ => cases named

/-- Without tags the keys are texts. -/
theorem keys_of_entries (plain : entriesHaveTag pairs = false)
    (decoded : entries read pairs = .ok listed) :
    pairs.map (·.1) = listed.map fun x => .string x.1 := by
  rw [entriesHaveTag_eq_false_iff] at plain
  have each := forall₂_of_entries decoded
  clear decoded
  induction each with
  | nil => rfl
  | cons head _ ih =>
    obtain ⟨first,rest⟩ := List.forall_mem_cons.mp plain
    rw [List.map_cons,List.map_cons,eq_of_string first.1 head.1,ih rest]

theorem nodup_of_entries (plain : entriesHaveTag pairs = false) (distinct : Distinct pairs)
    (decoded : entries read pairs = .ok listed) : (listed.map Prod.fst).Nodup := by
  have keys : (listed.map fun x => Value.string x.1).Pairwise fun k l => k.same l = false :=
    keys_of_entries plain decoded ▸ List.pairwise_map.mpr distinct
  rw [List.pairwise_map] at keys
  refine List.pairwise_map.mpr (keys.imp fun apart same => ?_)
  simp [same,Value.same] at apart

theorem mem_of_entries (decoded : entries read pairs = .ok listed) {name : String} {v : Value}
    (member : (.string name,v) ∈ pairs) : ∃ a, read v = .ok a ∧ (name,a) ∈ listed := by
  have each := forall₂_of_entries decoded
  clear decoded
  induction each with
  | nil => cases member
  | cons head _ ih =>
    cases member with
    | head =>
      obtain ⟨named,valued⟩ := head
      obtain rfl := Except.ok.inj named
      exact ⟨_,valued,List.mem_cons_self⟩
    | tail _ behind =>
      obtain ⟨a,valued,inside⟩ := ih behind
      exact ⟨a,valued,List.mem_cons_of_mem _ inside⟩

theorem read_of_mem_entries (decoded : entries read pairs = .ok listed) {x : String × α}
    (member : x ∈ listed) : ∃ w, read w = .ok x.2 := by
  have each := forall₂_of_entries decoded
  clear decoded
  induction each with
  | nil => cases member
  | @cons e _ _ _ head _ ih =>
    rcases List.mem_cons.mp member with rfl | behind
    · exact ⟨e.2,head.2⟩
    · exact ih behind

theorem read_of_mem_dict {values : Dict α} {v : Value} (decoded : dict .shape read v = .ok values)
    {x : String × α} (member : x ∈ values.entries) : ∃ w, read w = .ok x.2 := by
  unfold dict at decoded
  split at decoded
  next =>
    obtain ⟨listed,told,rfl⟩ := ok_of_map decoded
    exact read_of_mem_entries told (Dict.mem_of_mem_ofList member)
  next wrong => cases wrong
  next => cases decoded

/-- Every entry of a mapping without tags is in the map that it is read as. -/
theorem mem_of_dict {values : Dict α} (plain : hasTag (.mapping pairs) = false)
    (distinct : Distinct pairs) (decoded : dict .shape read (.mapping pairs) = .ok values)
    {name : String} {v : Value} (member : (.string name,v) ∈ pairs) :
    ∃ a, read v = .ok a ∧ (name,a) ∈ values.entries := by
  obtain ⟨listed,told,rfl⟩ : ∃ listed, entries read pairs = .ok listed ∧
    Dict.ofList listed = values := ok_of_map decoded
  obtain ⟨a,valued,inside⟩ := mem_of_entries told member
  exact ⟨a,valued,(Dict.mem_ofList_iff (nodup_of_entries plain distinct told)).mpr inside⟩

end ComposeToPodman.Yaml.Decode
