import ComposeToPodman.Compose.Form.Decode
import ComposeToPodman.Compose.Form.Encode
import ComposeToPodman.Proofs.Yaml.Decode
import ComposeToPodman.Proofs.Yaml.Maps

/-! Records, lists and maps that are written in full and read again. A record in which every field is
named is read field by field, and what each of its fields keeps is kept. -/
namespace ComposeToPodman.Compose.Form

open Yaml Yaml.Decode

variable {α β σ : Type}

@[simp] theorem hasTag_textValue (s : String) : hasTag (textValue s) = false := by
  simp only [textValue,hasTag]

@[simp] theorem hasTag_optionalValue {write : α → Value} (plain : ∀ a, hasTag (write a) = false) :
    (a : Option α) → hasTag (optionalValue write a) = false
  | none => rfl
  | some a => plain a

@[simp] theorem hasTag_listValue {write : α → Value} (plain : ∀ a, hasTag (write a) = false)
    (l : List α) : hasTag (listValue write l) = false := itemsHaveTag_map plain l

@[simp] theorem hasTag_dictValue {write : α → Value} (plain : ∀ a, hasTag (write a) = false)
    (d : Dict α) : hasTag (dictValue write d) = false :=
  entriesHaveTag_map (fun e => plain e.2) d.entries

@[simp] theorem hasTag_recordValue (fs : List (String × Value)) :
    hasTag (recordValue fs) = fs.any (hasTag ·.2) := by
  simp only [recordValue,hasTag]
  induction fs with
  | nil => rfl
  | cons e rest ih => simp [entriesHaveTag,hasTag,ih]

theorem optional_of_ne_null {read : Value → Result α} {v : Value} (present : v ≠ .null) :
    optional read v = some <$> read v := by
  cases v with
  | null => exact absurd rfl present
  | _ => rfl

theorem optional_optionalValue {read : Value → Result α} {write : α → Value} {a : Option α}
    (each : ∀ b ∈ a, write b ≠ .null ∧ read (write b) = .ok b) :
    optional read (optionalValue write a) = .ok a := by
  cases a with
  | none => rfl
  | some b =>
    obtain ⟨present,reads⟩ := each b rfl
    rw [optionalValue,optional_of_ne_null present,reads,map_ok]

theorem list_listValue (m : Mode) {read : Value → Result α} {write : α → Value} {l : List α}
    (each : ∀ a ∈ l, read (write a) = .ok a) : list m read (listValue write l) = .ok l := by
  have whole := list_map m each
  rwa [List.map_id'] at whole

theorem dict_dictValue (m : Mode) {read : Value → Result α} {write : α → Value} {d : Dict α}
    (each : ∀ e ∈ d.entries, read (write e.2) = .ok e.2) :
    dict m read (dictValue write d) = .ok d := by
  have whole := dict_map m each
  have same : d.mapEntries (·.2) = d := Dict.ext (List.map_id' d.entries)
  rwa [same] at whole

theorem read_of_mem_optional {read : Value → Result α} {v : Value} {a : Option α}
    (decoded : optional read v = .ok a) {b : α} (given : b ∈ a) : read v = .ok b := by
  have present : v ≠ .null := by
    rintro rfl
    obtain rfl := Except.ok.inj decoded
    cases given
  rw [optional_of_ne_null present] at decoded
  obtain ⟨c,told,rfl⟩ := ok_of_map decoded
  obtain rfl := Option.mem_some.mp given
  exact told

/-- A record in which all the fields are named is read field by field. -/
theorem record_recordValue (m : Mode) (name : String) {fields : List (RecordField σ)}
    {fs : List (String × Value)} (names : fs.map Prod.fst = fields.map (·.name))
    (distinct : (fields.map (·.name)).Nodup) (s : σ) :
    record m name fields s (recordValue fs) =
      fs.foldlM (fun s e => readField fields s (some e)) s := by
  have same : recordValue fs = Target.mapping (fs.map some) := by
    simp [recordValue,Target.mapping,List.filterMap_map]
  have listed : given (fs.map some) = fields.map (·.name) := by
    simp [given,List.filterMap_map,← names]
  have complete : ∀ f ∈ fields, f.required = true → f.name ∈ given (fs.map some) := by
    intro f member _
    rw [listed]
    exact List.mem_map_of_mem member
  rw [same,record_given m name s complete (listed ▸ distinct),List.foldlM_map]

theorem mem_of_fieldOf {m : Mode} {fields : List (RecordField σ)} {key : Value} {f : RecordField σ}
    (named : fieldOf m fields key = .ok (some f)) : f ∈ fields := by
  unfold fieldOf at named
  split at named
  · exact List.mem_of_find?_eq_some (Except.ok.inj named)
  · exact List.mem_of_getElem? (Except.ok.inj named)
  · cases named

theorem fieldsOf_invariant {m : Mode} {fields : List (RecordField σ)} {holds : σ → Prop}
    (kept : ∀ f ∈ fields, ∀ v s t, holds s → f.read v s = .ok t → holds t)
    {es : List (Value × Value)} {seen seen' : List String} {s t : σ} (first : holds s)
    (decoded : fieldsOf m fields es seen s = .ok (seen',t)) : holds t := by
  induction es generalizing seen s with
  | nil =>
    obtain ⟨-,rfl⟩ := Prod.mk.inj (Except.ok.inj decoded)
    exact first
  | cons e rest ih =>
    obtain ⟨k,v⟩ := e
    obtain ⟨found,named,decoded⟩ := ok_of_bind decoded
    cases found with
    | none => exact ih first decoded
    | some f =>
      dsimp only at decoded
      split at decoded
      · cases decoded
      · obtain ⟨next,read,decoded⟩ := ok_of_bind decoded
        exact ih (kept f (mem_of_fieldOf named) v s next first read) decoded

theorem itemsOf_invariant {name : String} {fields : List (RecordField σ)} {holds : σ → Prop}
    (kept : ∀ f ∈ fields, ∀ v s t, holds s → f.read v s = .ok t → holds t) {items : List Value}
    {s t : σ} (first : holds s) (decoded : itemsOf name fields items s = .ok t) : holds t := by
  induction fields generalizing items s with
  | nil =>
    cases items with
    | nil => exact Except.ok.inj decoded ▸ first
    | cons => cases decoded
  | cons f fields ih =>
    obtain ⟨head,tail⟩ := List.forall_mem_cons.mp kept
    cases items with
    | nil =>
      rw [itemsOf] at decoded
      split at decoded
      next => exact ih tail first decoded
      next => cases decoded
    | cons v items =>
      obtain ⟨next,read,decoded⟩ := ok_of_bind decoded
      exact ih tail (head v s next first read) decoded

/-- What holds of the record without fields, and is kept by each of them, holds of what is read. -/
theorem record_invariant {m : Mode} {name : String} {fields : List (RecordField σ)} {start s : σ}
    {v : Value} {holds : σ → Prop} (first : holds start)
    (kept : ∀ f ∈ fields, ∀ v s t, holds s → f.read v s = .ok t → holds t)
    (decoded : record m name fields start v = .ok s) : holds s := by
  unfold record at decoded
  split at decoded
  case h_3 => exact itemsOf_invariant kept first decoded
  case h_4 => cases decoded
  all_goals
    obtain ⟨⟨seen,t⟩,read,given⟩ := ok_of_bind decoded
    dsimp only at given
    split at given
    next => cases given
    next => exact Except.ok.inj given ▸ fieldsOf_invariant kept first read

end ComposeToPodman.Compose.Form
