import ComposeToPodman.Proofs.Dict
import ComposeToPodman.Target.Output
import ComposeToPodman.Yaml.Decode
import Mathlib.Data.List.Forall2

/-! Decoding what was built element by element: lists, maps, and records of optional fields. -/
namespace ComposeToPodman.Yaml.Decode

variable {α β σ : Type}

@[simp] theorem ok_bind (a : α) (f : α → Result β) : (Except.ok a >>= f) = f a := rfl
@[simp] theorem error_bind (e : DecodeError) (f : α → Result β) :
    (Except.error e >>= f) = Except.error e := rfl
@[simp] theorem map_ok (f : α → β) (a : α) : f <$> (Except.ok a : Result α) = .ok (f a) := rfl
@[simp] theorem map_error (f : α → β) (e : DecodeError) :
    f <$> (Except.error e : Result α) = .error e := rfl

@[simp] theorem string_string (s : String) : string (.string s) = .ok s := rfl

theorem mapM_map {read : Value → Result β} {f : α → Value} {g : α → β} {l : List α}
    (each : ∀ a ∈ l, read (f a) = .ok (g a)) : (l.map f).mapM read = .ok (l.map g) := by
  induction l with
  | nil => rfl
  | cons a rest ih =>
    have tail := ih fun b member => each b (List.mem_cons_of_mem _ member)
    rw [List.map_cons,List.mapM_cons,each a List.mem_cons_self,tail]
    rfl

theorem list_map (m : Mode) {read : Value → Result β} {f : α → Value} {g : α → β} {l : List α}
    (each : ∀ a ∈ l, read (f a) = .ok (g a)) :
    list m read (.sequence (l.map f)) = .ok (l.map g) := mapM_map each

theorem entries_map {read : Value → Result β} {f : String × α → Value} {g : String × α → β}
    {l : List (String × α)} (each : ∀ e ∈ l, read (f e) = .ok (g e)) :
    entries read (l.map fun e => (.string e.1,f e)) = .ok (l.map fun e => (e.1,g e)) := by
  induction l with
  | nil => rfl
  | cons e rest ih =>
    have tail := ih fun e' member => each e' (List.mem_cons_of_mem _ member)
    rw [List.map_cons,entries,string_string,each e List.mem_cons_self,tail]
    rfl

/-- The values of a map are read one by one, and the keys stay. -/
theorem dict_map (m : Mode) {read : Value → Result β} {f : String × α → Value}
    {g : String × α → β} {d : Dict α} (each : ∀ e ∈ d.entries, read (f e) = .ok (g e)) :
    dict m read (.mapping (d.entries.map fun e => (.string e.1,f e))) = .ok (d.mapEntries g) := by
  have whole := entries_map each
  change Dict.ofList <$> _ = _
  rw [whole,← Dict.ofList_map]
  rfl

theorem ok_of_bind {r : Result α} {f : α → Result β} {b : β} (given : (r >>= f) = .ok b) :
    ∃ a, r = .ok a ∧ f a = .ok b := by
  cases r with
  | ok a => exact ⟨a,rfl,given⟩
  | error => cases given

theorem ok_of_map {r : Result α} {f : α → β} {b : β} (given : f <$> r = .ok b) :
    ∃ a, r = .ok a ∧ f a = b := by
  cases r with
  | ok a => exact ⟨a,rfl,Except.ok.inj given⟩
  | error => cases given

theorem itemsHaveTag_map {f : α → Value} (plain : ∀ a, hasTag (f a) = false) (l : List α) :
    itemsHaveTag (l.map f) = false := by
  induction l with
  | nil => rfl
  | cons a rest ih => simp [itemsHaveTag,plain,ih]

theorem entriesHaveTag_map {f : String × α → Value} (plain : ∀ e, hasTag (f e) = false)
    (l : List (String × α)) : entriesHaveTag (l.map fun e => (.string e.1,f e)) = false := by
  induction l with
  | nil => rfl
  | cons e rest ih => simp [entriesHaveTag,hasTag,plain,ih]

theorem firstOf_first {choice : String} {shape : Value → Result α} {others : List (Value → Result α)}
    {v : Value} {a : α} (plain : hasTag v = false) (fits : shape v = .ok a) :
    firstOf choice (shape :: others) v = .ok a := by
  simp [firstOf,plain,fits,Except.toOption]

theorem firstOf_later {choice : String} {shape : Value → Result α} {others : List (Value → Result α)}
    {v : Value} {cause : DecodeError} (other : shape v = .error cause) :
    firstOf choice (shape :: others) v = firstOf choice others v := by
  simp [firstOf,other,Except.toOption]

theorem hasTag_of_firstOf {choice : String} {shapes : List (Value → Result α)} {v : Value} {a : α}
    (decoded : firstOf choice shapes v = .ok a) : hasTag v = false := by
  cases tag : hasTag v with
  | false => rfl
  | true => simp [firstOf,tag] at decoded

theorem second_of_firstOf {choice : String} {first second : Value → Result α} {v : Value} {a : α}
    {cause : DecodeError} (other : first v = .error cause)
    (decoded : firstOf choice [first,second] v = .ok a) : second v = .ok a := by
  have plain := hasTag_of_firstOf decoded
  rw [firstOf_later other] at decoded
  cases given : second v with
  | ok b => rwa [firstOf_first plain given] at decoded
  | error cause =>
    rw [firstOf_later given] at decoded
    simp [firstOf,plain] at decoded

open Target

/-- A record read from one optional field. -/
def readField (fields : List (RecordField σ)) (s : σ) : Field → Result σ
  | none => .ok s
  | some (name,v) =>
    match fields.find? (·.name == name) with
    | some f => f.read v s
    | none => .ok s

/-- The names that are given among optional fields. -/
def given (fs : List Field) : List String := fs.filterMap (·.map Prod.fst)

/-- If a field is given, it has this name. -/
def Named (name : String) (f : Field) : Prop := ∀ e, f = some e → e.1 = name

theorem named_field (name : String) (v : Value) : Named name (field name v) := by
  rintro _ ⟨⟩
  rfl

theorem named_optionalField (name : String) (v : Option Value) :
    Named name (optionalField name v) := by
  intro e given
  obtain ⟨_,_,rfl⟩ := Option.map_eq_some_iff.mp given
  rfl

/-- Fields of different names are given once each. -/
theorem given_nodup {names : List String} {fs : List Field} (named : List.Forall₂ Named names fs)
    (distinct : names.Nodup) : (given fs).Nodup := by
  have sublist : (given fs).Sublist names := by
    induction named with
    | nil => exact .slnil
    | @cons name f _ _ named _ ih =>
      have rest := ih (List.nodup_cons.mp distinct).2
      cases f with
      | none => exact .cons _ rest
      | some e =>
        obtain rfl := named e rfl
        exact .cons_cons _ rest
  exact distinct.sublist sublist

/-- The fields of the record among those that are given. -/
def recognized (fields : List (RecordField σ)) (fs : List Field) : List String :=
  (given fs).filter fun name => (fields.find? (·.name == name)).isSome

theorem fieldsOf_mapping (m : Mode) (fields : List (RecordField σ)) {fs : List Field}
    {seen : List String} (s : σ) (fresh : ∀ name ∈ given fs, name ∉ seen)
    (distinct : (given fs).Nodup) :
    fieldsOf m fields (fs.filterMap (·.map fun (name,v) => (.string name,v))) seen s =
      ((recognized fields fs).reverse ++ seen,·) <$> fs.foldlM (readField fields) s := by
  -- By induction on the fields: none of those to come has been seen.
  induction fs generalizing seen s with
  | nil => rfl
  | cons f rest ih =>
    cases f with
    | none => exact ih s fresh distinct
    | some e =>
      obtain ⟨name,v⟩ := e
      have distinct : name ∉ given rest ∧ (given rest).Nodup := List.nodup_cons.mp distinct
      have unseen : name ∉ seen := fresh name List.mem_cons_self
      have later : ∀ other ∈ given rest, other ∉ seen := fun other member =>
        fresh other (List.mem_cons_of_mem _ member)
      have first : given (some (name,v) :: rest) = name :: given rest := rfl
      cases found : fields.find? (·.name == name) with
      | none =>
        have whole := ih s later distinct.2
        simpa [fieldsOf,fieldOf,Value.untagged,readField,recognized,first,found] using whole
      | some g =>
        have same : g.name = name := by simpa using List.find?_some found
        cases outcome : g.read v s with
        | error cause =>
          simp [fieldsOf,fieldOf,Value.untagged,readField,found,same,unseen,outcome]
        | ok t =>
          have later : ∀ other ∈ given rest, other ∉ name :: seen := fun other member seen =>
            (List.mem_cons.mp seen).elim (fun same => distinct.1 (same ▸ member))
              (later other member)
          have whole := ih t later distinct.2
          simpa [fieldsOf,fieldOf,Value.untagged,readField,recognized,first,found,same,unseen,outcome]
            using whole

/-- A record with all its required fields is read field by field. -/
theorem record_given (m : Mode) (name : String) {fields : List (RecordField σ)} {fs : List Field}
    (s : σ) (complete : ∀ f ∈ fields, f.required = true → f.name ∈ given fs)
    (distinct : (given fs).Nodup) :
    record m name fields s (mapping fs) = fs.foldlM (readField fields) s := by
  have whole := fieldsOf_mapping m fields s (fun _ _ => List.not_mem_nil) distinct
  have nothing : fields.find? (fun f =>
      f.required && !((recognized fields fs).reverse ++ []).contains f.name) = none := by
    refine List.find?_eq_none.mpr fun f member missing => ?_
    have known : (fields.find? (·.name == f.name)).isSome :=
      List.find?_isSome.mpr ⟨f,member,beq_self_eq_true _⟩
    simp only [Bool.and_eq_true] at missing
    have inside := complete f member missing.1
    simp [recognized,inside,known] at missing
  simp only [record,mapping,Value.untagged,whole]
  cases fs.foldlM (readField fields) s with
  | error cause => rfl
  | ok t =>
    rw [map_ok,ok_bind]
    dsimp only
    rw [nothing]
    rfl

/-- A record without required fields may leave out any of them. -/
theorem record_mapping (m : Mode) (name : String) {fields : List (RecordField σ)} {fs : List Field}
    (s : σ) (optional : fields.any (·.required) = false) (distinct : (given fs).Nodup) :
    record m name fields s (mapping fs) = fs.foldlM (readField fields) s := by
  rw [List.any_eq_false] at optional
  exact record_given m name s (fun f member required => absurd required (optional f member)) distinct

end ComposeToPodman.Yaml.Decode
