import ComposeToPodman.Proofs.Yaml.Decode

/-! Keys that a record has no field for. A value without them is decoded in the same way, so nothing
that is decoded tells whether they were there. -/
namespace ComposeToPodman.Yaml.Decode

variable {α β σ : Type}

/-- Whether a key is a text that is the name of no field. -/
def isExtra (fields : List (RecordField σ)) (key : Value) : Bool :=
  match key.text? with
  | some name => !fields.any (·.name == name)
  | none => false

/-- A mapping without the keys that a record has no field for. -/
def prune (fields : List (RecordField σ)) : Value → Value
  | .mapping es => .mapping (es.filter (!isExtra fields ·.1))
  | v => v

/-- A mapping with its values changed where the key is a text. -/
def onEntries (g : String → Value → Value) : Value → Value
  | .mapping es => .mapping (es.map fun e => (e.1,e.1.text?.elim e.2 (g · e.2)))
  | v => v

def onItems (f : Value → Value) : Value → Value
  | .sequence items => .sequence (items.map f)
  | v => v

/-- Values with tags are no shape, and stay as they are. -/
def unlessTagged (f : Value → Value) (v : Value) : Value := if hasTag v then v else f v

theorem string_of_text? {key : Value} {name : String} (text : key.text? = some name) :
    key.untagged = .string name := by
  unfold Value.text? at text
  split at text
  next s same => rw [same,Option.some.inj text]
  next => cases text

theorem fieldOf_of_text? (m : Mode) (fields : List (RecordField σ)) {key : Value} {name : String}
    (text : key.text? = some name) : fieldOf m fields key = .ok (fields.find? (·.name == name)) := by
  simp [fieldOf,string_of_text? text]

theorem fieldOf_of_isExtra (m : Mode) {fields : List (RecordField σ)} {key : Value}
    (extra : isExtra fields key = true) : fieldOf m fields key = .ok none := by
  unfold isExtra at extra
  split at extra
  next name text =>
    rw [fieldOf_of_text? m fields text]
    exact congrArg Except.ok (by simpa [List.find?_eq_none] using extra)
  next => cases extra

theorem fieldsOf_filter (m : Mode) (fields : List (RecordField σ)) (es : List (Value × Value))
    (seen : List String) (s : σ) :
    fieldsOf m fields (es.filter (!isExtra fields ·.1)) seen s = fieldsOf m fields es seen s := by
  -- By induction on the entries: one that is left out would have been passed over.
  induction es generalizing seen s with
  | nil => rfl
  | cons e rest ih =>
    obtain ⟨k,v⟩ := e
    cases extra : isExtra fields k with
    | true => simp [fieldsOf,extra,fieldOf_of_isExtra m extra,ih]
    | false => simp only [List.filter_cons,extra,Bool.not_false,if_true,fieldsOf,ih]

theorem record_prune (m : Mode) (name : String) (fields : List (RecordField σ)) (start : σ)
    (v : Value) : record m name fields start (prune fields v) = record m name fields start v := by
  cases v with
  | mapping es => simp only [record,prune,Value.untagged,fieldsOf_filter]
  | _ => rfl

/-- A change of the values of fields that none of their readers sees. -/
def FieldsKeep (fields : List (RecordField σ)) (g : String → Value → Value) : Prop :=
  ∀ f ∈ fields, ∀ v s, f.read (g f.name v) s = f.read v s

theorem fieldsOf_onEntries (m : Mode) {fields : List (RecordField σ)} {g : String → Value → Value}
    (keep : FieldsKeep fields g) (es : List (Value × Value)) (seen : List String) (s : σ) :
    fieldsOf m fields (es.map fun e => (e.1,e.1.text?.elim e.2 (g · e.2))) seen s =
      fieldsOf m fields es seen s := by
  -- By induction on the entries: a field with the name of the key reads what it would have read.
  induction es generalizing seen s with
  | nil => rfl
  | cons e rest ih =>
    obtain ⟨k,v⟩ := e
    simp only [List.map_cons,fieldsOf,ih]
    cases text : k.text? with
    | none => rfl
    | some name =>
      simp only [Option.elim_some,fieldOf_of_text? m fields text,ok_bind]
      cases found : fields.find? (·.name == name) with
      | none => rfl
      | some f =>
        have named : f.name = name := by simpa using List.find?_some found
        have same := keep f (List.mem_of_find?_eq_some found) v s
        rw [named] at same
        simp only [same]

theorem record_onEntries (m : Mode) (name : String) {fields : List (RecordField σ)} (start : σ)
    {g : String → Value → Value} (keep : FieldsKeep fields g) (v : Value) :
    record m name fields start (onEntries g v) = record m name fields start v := by
  cases v with
  | mapping es => simp only [record,onEntries,Value.untagged,fieldsOf_onEntries m keep]
  | _ => rfl

theorem entries_onEntries {read : Value → Result α} {g : String → Value → Value}
    (same : ∀ key v, read (g key v) = read v) (es : List (Value × Value)) :
    entries read (es.map fun e => (e.1,e.1.text?.elim e.2 (g · e.2))) = entries read es := by
  induction es with
  | nil => rfl
  | cons e rest ih =>
    obtain ⟨k,v⟩ := e
    simp only [List.map_cons,entries,ih]
    cases text : k.text? with
    | none => rfl
    | some name => simp only [Option.elim_some,same]

theorem dict_onEntries (m : Mode) {read : Value → Result α} {g : String → Value → Value}
    (same : ∀ key v, read (g key v) = read v) (v : Value) :
    dict m read (onEntries g v) = dict m read v := by
  cases v with
  | mapping es => simp only [dict,onEntries,Value.untagged,entries_onEntries same]
  | _ => rfl

theorem list_onItems (m : Mode) {read : Value → Result α} {f : Value → Value}
    (same : ∀ v, read (f v) = read v) (v : Value) : list m read (onItems f v) = list m read v := by
  cases v with
  | sequence items =>
    have each : (items.map f).mapM read = items.mapM read := by
      simp [List.mapM_map,Function.comp_def,same]
    simp only [list,onItems,Value.untagged,each]
  | _ => rfl

/-- A change inside of mappings that brings in no tags. -/
structure Inner (f : Value → Value) : Prop where
  mapping : ∀ v, f v = v ∨ ∃ es es', v = .mapping es ∧ f v = .mapping es'
  plain : ∀ v, hasTag v = false → hasTag (f v) = false

theorem Inner.null_iff {f : Value → Value} (inner : Inner f) (v : Value) :
    f v = .null ↔ v = .null := by
  rcases inner.mapping v with same | ⟨es,es',rfl,changed⟩
  · rw [same]
  · simp [changed]

theorem Inner.comp {f g : Value → Value} (outer : Inner f) (inner : Inner g) : Inner (f ∘ g) := by
  refine ⟨fun v => ?_,fun v plain => outer.plain _ (inner.plain v plain)⟩
  rcases inner.mapping v with same | ⟨es,es',rfl,changed⟩
  · rw [Function.comp_apply,same]
    exact outer.mapping v
  · rw [Function.comp_apply,changed]
    rcases outer.mapping (.mapping es') with same | ⟨_,es'',_,again⟩
    · exact .inr ⟨es,es',rfl,same⟩
    · exact .inr ⟨es,es'',rfl,again⟩

theorem entriesHaveTag_eq_false_iff {es : List (Value × Value)} :
    entriesHaveTag es = false ↔ ∀ e ∈ es, hasTag e.1 = false ∧ hasTag e.2 = false := by
  induction es with
  | nil => simp [entriesHaveTag]
  | cons e rest ih => simp [entriesHaveTag,ih]

theorem inner_prune (fields : List (RecordField σ)) : Inner (prune fields) where
  mapping v := by
    cases v with
    | mapping es => exact .inr ⟨es,_,rfl,rfl⟩
    | _ => exact .inl rfl
  plain v plain := by
    cases v with
    | mapping es =>
      have each := entriesHaveTag_eq_false_iff.mp plain
      exact entriesHaveTag_eq_false_iff.mpr fun e member => each e (List.mem_of_mem_filter member)
    | _ => exact plain

theorem inner_onEntries {g : String → Value → Value}
    (keep : ∀ key v, hasTag v = false → hasTag (g key v) = false) : Inner (onEntries g) where
  mapping v := by
    cases v with
    | mapping es => exact .inr ⟨es,_,rfl,rfl⟩
    | _ => exact .inl rfl
  plain v plain := by
    cases v with
    | mapping es =>
      have each := entriesHaveTag_eq_false_iff.mp plain
      refine entriesHaveTag_eq_false_iff.mpr fun e member => ?_
      obtain ⟨⟨k,w⟩,inside,rfl⟩ := List.mem_map.mp member
      obtain ⟨key,value⟩ := each _ inside
      refine ⟨key,?_⟩
      dsimp only
      cases k.text? with
      | none => exact value
      | some name => exact keep name w value
    | _ => exact plain

theorem inner_unlessTagged {f : Value → Value} (inner : Inner f) : Inner (unlessTagged f) where
  mapping v := by
    unfold unlessTagged
    split
    next => exact .inl rfl
    next => exact inner.mapping v
  plain v plain := by
    rw [unlessTagged,plain]
    exact inner.plain v plain

theorem onEntries_eq_null_iff {g : String → Value → Value} (v : Value) :
    onEntries g v = .null ↔ v = .null := by
  cases v <;> simp [onEntries]

/-- Null stays null, and nothing else becomes null. -/
theorem optional_congr {read : Value → Result α} {f : Value → Value}
    (null : ∀ v, f v = .null ↔ v = .null) (same : ∀ v, read (f v) = read v) (v : Value) :
    optional read (f v) = optional read v := by
  by_cases empty : v = .null
  · rw [(null v).mpr empty,empty]
  · have full : f v ≠ .null := fun none => empty ((null v).mp none)
    have read_of (w : Value) (full : w ≠ .null) : optional read w = some <$> read w := by
      unfold optional
      split
      next => exact absurd rfl full
      next => rfl
    rw [read_of _ full,read_of _ empty,same]

/-- No mapping has the shape. -/
def NoMapping (shape : Value → Result α) : Prop :=
  ∀ es, (shape (.mapping es)).toOption = none

theorem toOption_map (f : α → β) (e : Result α) : (f <$> e).toOption = e.toOption.map f := by
  cases e <;> rfl

theorem NoMapping.map {shape : Value → Result α} (other : NoMapping shape) (f : α → β) :
    NoMapping fun v => f <$> shape v := fun es => by rw [toOption_map,other es,Option.map_none]

theorem NoMapping.inner {shape : Value → Result α} (other : NoMapping shape) {f : Value → Value}
    (inner : Inner f) (v : Value) : (shape (f v)).toOption = (shape v).toOption := by
  rcases inner.mapping v with same | ⟨es,es',rfl,changed⟩
  · rw [same]
  · rw [changed,other es,other es']

theorem firstOf_unlessTagged (choice : String) {shapes : List (Value → Result α)}
    {f : Value → Value} (inner : Inner f)
    (same : ∀ shape ∈ shapes, ∀ v, (shape (f v)).toOption = (shape v).toOption) (v : Value) :
    firstOf choice shapes (unlessTagged f v) = firstOf choice shapes v := by
  cases tag : hasTag v with
  | true => simp [unlessTagged,tag]
  | false =>
    have outcomes : (shapes.map fun shape => (shape (f v)).toOption) =
        shapes.map fun shape => (shape v).toOption :=
      List.map_congr_left fun shape member => same shape member v
    have fits := congrArg (List.findSome? id) outcomes
    rw [List.findSome?_map,List.findSome?_map] at fits
    simp only [Function.comp_def,id_eq] at fits
    simp [unlessTagged,firstOf,tag,inner.plain v tag,fits]

end ComposeToPodman.Yaml.Decode
