import ComposeToPodman.Proofs.Yaml.Decode

/-! Choices between shapes. Where the shapes are of different kinds, no value is of two of them, and it
does not matter in which order they are tried. -/
namespace ComposeToPodman.Yaml

/-- What a value is under its tags. -/
inductive Kind
  | null
  | flag
  | number
  | text
  | sequence
  | mapping
deriving DecidableEq, Repr

def Value.kind : Value → Kind
  | .null => .null
  | .bool _ => .flag
  | .number _ => .number
  | .string _ => .text
  | .sequence _ => .sequence
  | .mapping _ => .mapping
  | .tagged _ v => v.kind

theorem Value.kind_untagged : (v : Value) → v.untagged.kind = v.kind
  | .tagged _ v => kind_untagged v
  | .null | .bool _ | .number _ | .string _ | .sequence _ | .mapping _ => rfl

theorem Value.kind_of_untagged {v u : Value} (same : v.untagged = u) : v.kind = u.kind := by
  rw [← same,kind_untagged]

namespace Decode

variable {α β : Type} {choice : String} {shapes others : List (Value → Result α)} {v : Value} {a : α}

/-- Whatever is read is of one of these kinds. -/
def OfKinds (kinds : List Kind) (read : Value → Result α) : Prop :=
  ∀ v a, read v = .ok a → v.kind ∈ kinds

theorem OfKinds.map {kinds : List Kind} {read : Value → Result α} (kept : OfKinds kinds read)
    (f : α → β) : OfKinds kinds fun v => f <$> read v := by
  intro v b decoded
  obtain ⟨a,told,-⟩ := ok_of_map decoded
  exact kept v a told

theorem ofKinds_string : OfKinds [.text] string := by
  intro v s decoded
  cases same : v.untagged with
  | string => exact List.mem_singleton.mpr (Value.kind_of_untagged same)
  | _ => simp [string,same] at decoded

theorem ofKinds_bool : OfKinds [.flag] bool := by
  intro v b decoded
  cases same : v.untagged with
  | bool => exact List.mem_singleton.mpr (Value.kind_of_untagged same)
  | _ => simp [bool,same] at decoded

theorem ofKinds_list (read : Value → Result α) : OfKinds [.sequence] (list .shape read) := by
  intro v l decoded
  cases same : v.untagged with
  | sequence => exact List.mem_singleton.mpr (Value.kind_of_untagged same)
  | _ => simp [list,same] at decoded

theorem ofKinds_dict (read : Value → Result α) : OfKinds [.mapping] (dict .shape read) := by
  intro v d decoded
  cases same : v.untagged with
  | mapping => exact List.mem_singleton.mpr (Value.kind_of_untagged same)
  | _ => simp [dict,same] at decoded

/-- A record may also be given as a sequence. -/
theorem ofKinds_record (name : String) (fields : List (RecordField α)) (start : α) :
    OfKinds [.mapping,.sequence] (record .shape name fields start) := by
  intro v s decoded
  cases same : v.untagged with
  | mapping => exact List.mem_cons.mpr (.inl (Value.kind_of_untagged same))
  | sequence =>
    exact List.mem_cons_of_mem _ (List.mem_singleton.mpr (Value.kind_of_untagged same))
  | _ => simp [record,same] at decoded

/-- No value is of two of the shapes. -/
def Exclusive (shapes : List (Value → Result α)) : Prop :=
  shapes.Pairwise fun f g => ∀ v a b, f v = .ok a → g v ≠ .ok b

theorem exclusive_pair {f g : Value → Result α} {kinds further : List Kind}
    (first : OfKinds kinds f) (second : OfKinds further g) (apart : ∀ k ∈ kinds, k ∉ further) :
    Exclusive [f,g] := by
  refine List.pairwise_pair.mpr fun v a b one two => ?_
  exact apart v.kind (first v a one) (second v b two)

theorem Exclusive.perm (exclusive : Exclusive shapes) (order : others.Perm shapes) :
    Exclusive others := by
  refine (order.pairwise_iff fun {f g} apart v a b one two => ?_).mpr exclusive
  exact apart v b a two one

theorem exists_of_firstOf (decoded : firstOf choice shapes v = .ok a) :
    ∃ shape ∈ shapes, shape v = .ok a := by
  have plain := hasTag_of_firstOf decoded
  induction shapes with
  | nil => simp [firstOf,plain] at decoded
  | cons shape rest ih =>
    cases fits : shape v with
    | ok b =>
      rw [firstOf_first plain fits] at decoded
      exact ⟨shape,List.mem_cons_self,fits.trans decoded⟩
    | error cause =>
      rw [firstOf_later fits] at decoded
      obtain ⟨other,member,reads⟩ := ih decoded
      exact ⟨other,List.mem_cons_of_mem _ member,reads⟩

theorem reads_of_firstOf_pair {f g : Value → Result α} (decoded : firstOf choice [f,g] v = .ok a) :
    f v = .ok a ∨ g v = .ok a := by
  obtain ⟨shape,member,reads⟩ := exists_of_firstOf decoded
  rcases List.mem_pair.mp member with rfl | rfl
  · exact .inl reads
  · exact .inr reads

/-- Of shapes that exclude each other, any one may be the first that fits. -/
theorem firstOf_of_mem (exclusive : Exclusive shapes) (plain : hasTag v = false)
    {shape : Value → Result α} (member : shape ∈ shapes) (reads : shape v = .ok a) :
    firstOf choice shapes v = .ok a := by
  induction shapes with
  | nil => cases member
  | cons first rest ih =>
    obtain ⟨apart,exclusive⟩ := List.pairwise_cons.mp exclusive
    cases member with
    | head => exact firstOf_first plain reads
    | tail _ behind =>
      cases fits : first v with
      | ok b => exact absurd reads (apart shape behind v b a fits)
      | error cause =>
        rw [firstOf_later fits]
        exact ih exclusive behind

theorem error_of_firstOf {cause : DecodeError} (failed : firstOf choice shapes v = .error cause) :
    cause = if hasTag v then .taggedShape else .noShape choice := by
  unfold firstOf at failed
  split at failed
  next tagged =>
    rw [if_pos tagged]
    exact (Except.error.inj failed).symm
  next plain =>
    rw [if_neg plain]
    split at failed
    next => cases failed
    next => exact (Except.error.inj failed).symm

/-- The order of shapes that exclude each other does not count. -/
theorem firstOf_perm (exclusive : Exclusive shapes) (order : others.Perm shapes) (v : Value) :
    firstOf choice others v = firstOf choice shapes v := by
  cases decoded : firstOf choice shapes v with
  | ok a =>
    obtain ⟨shape,member,reads⟩ := exists_of_firstOf decoded
    exact firstOf_of_mem (exclusive.perm order) (hasTag_of_firstOf decoded)
      (order.mem_iff.mpr member) reads
  | error cause =>
    cases told : firstOf choice others v with
    | ok a =>
      obtain ⟨shape,member,reads⟩ := exists_of_firstOf told
      have found : firstOf choice shapes v = .ok a :=
        firstOf_of_mem exclusive (hasTag_of_firstOf told) (order.mem_iff.mp member) reads
      cases found.symm.trans decoded
    | error cause' => rw [error_of_firstOf decoded,error_of_firstOf told]

/-- A reader that tries these shapes. No value is of two of them, so that it may try them in any
order. -/
structure Unambiguous (choice : String) (shapes : List (Value → Result α))
    (read : Value → Result α) : Prop where
  tries : read = firstOf choice shapes
  exclusive : Exclusive shapes
  anyOrder : ∀ others, others.Perm shapes → firstOf choice others = read

/-- What one of the shapes reads is read. -/
theorem Unambiguous.reads {read : Value → Result α} (choices : Unambiguous choice shapes read)
    (plain : hasTag v = false) {shape : Value → Result α} (member : shape ∈ shapes)
    (told : shape v = .ok a) : read v = .ok a := by
  rw [choices.tries]
  exact firstOf_of_mem choices.exclusive plain member told

theorem unambiguous_pair {read f g : Value → Result α} {kinds further : List Kind}
    (tries : read = firstOf choice [f,g]) (first : OfKinds kinds f) (second : OfKinds further g)
    (apart : ∀ k ∈ kinds, k ∉ further) : Unambiguous choice [f,g] read := by
  have exclusive := exclusive_pair first second apart
  exact ⟨tries,exclusive,fun _ order => tries ▸ funext (firstOf_perm exclusive order)⟩

end Decode

end ComposeToPodman.Yaml
