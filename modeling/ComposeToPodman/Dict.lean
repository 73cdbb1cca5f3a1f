/-! Maps from texts, in the order of their keys. The order is that of code points, which is also the
order of the keys' bytes in UTF-8. -/
namespace ComposeToPodman

/-- A map as its entries, ascending by key: two maps with the same entries are equal. -/
structure Dict (α : Type) where
  entries : List (String × α)
  sorted : entries.Pairwise fun a b => a.1 < b.1

namespace Dict

variable {α β : Type}

@[ext] theorem ext {d e : Dict α} (h : d.entries = e.entries) : d = e := by
  cases d; cases e; cases h; rfl

instance [DecidableEq α] : DecidableEq (Dict α) := fun d e =>
  decidable_of_iff (d.entries = e.entries) ⟨ext, fun h => h ▸ rfl⟩

instance [Repr α] : Repr (Dict α) := ⟨fun d n => reprPrec d.entries n⟩

def empty : Dict α := ⟨[], .nil⟩

instance : Inhabited (Dict α) := ⟨empty⟩
instance : EmptyCollection (Dict α) := ⟨empty⟩

def insertEntry (k : String) (a : α) : List (String × α) → List (String × α)
  | [] => [(k, a)]
  | (k', a') :: rest =>
    if k < k' then (k, a) :: (k', a') :: rest
    else if k' < k then (k', a') :: insertEntry k a rest
    else (k, a) :: rest

theorem mem_insertEntry {k : String} {a : α} {l : List (String × α)} {e : String × α}
    (h : e ∈ insertEntry k a l) : e = (k, a) ∨ e ∈ l := by
  induction l with
  | nil => simpa [insertEntry] using h
  | cons head rest ih =>
    obtain ⟨k', a'⟩ := head
    rw [insertEntry] at h
    split at h
    · simpa using h
    split at h
    · rcases List.mem_cons.1 h with h | h
      · exact .inr (h ▸ List.mem_cons_self)
      · exact (ih h).imp_right (List.mem_cons_of_mem _)
    · exact (List.mem_cons.1 h).imp_right (List.mem_cons_of_mem _)

theorem sorted_insertEntry (k : String) (a : α) {l : List (String × α)}
    (h : l.Pairwise fun a b => a.1 < b.1) :
    (insertEntry k a l).Pairwise fun a b => a.1 < b.1 := by
  induction h with
  | nil => simp [insertEntry]
  | @cons head rest below _ ih =>
    obtain ⟨k', a'⟩ := head
    rw [insertEntry]
    split
    next lt =>
      refine .cons (fun e he => ?_) (.cons below ‹_›)
      rcases List.mem_cons.1 he with rfl | he
      · exact lt
      · exact String.lt_trans lt (below e he)
    split
    next gt =>
      refine .cons (fun e he => ?_) ih
      rcases mem_insertEntry he with rfl | he
      · exact gt
      · exact below e he
    next notLt notGt =>
      have same : k = k' := String.le_antisymm (String.not_lt.1 notGt) (String.not_lt.1 notLt)
      exact .cons (fun e he => same ▸ below e he) ‹_›

/-- The value of a key takes the place of the one it had. -/
def insert (d : Dict α) (k : String) (a : α) : Dict α :=
  ⟨insertEntry k a d.entries, sorted_insertEntry k a d.sorted⟩

def get? (d : Dict α) (k : String) : Option α := d.entries.lookup k

def contains (d : Dict α) (k : String) : Bool := d.entries.any (·.1 == k)

def keys (d : Dict α) : List String := d.entries.map (·.1)

def isEmpty (d : Dict α) : Bool := d.entries.isEmpty

def size (d : Dict α) : Nat := d.entries.length

/-- Later entries win. -/
def ofList (entries : List (String × α)) : Dict α :=
  entries.foldl (fun d e => d.insert e.1 e.2) empty

@[simp] theorem entries_empty : (empty : Dict α).entries = [] := rfl

@[simp] theorem get?_empty (k : String) : (empty : Dict α).get? k = none := rfl

end Dict

/-- A set of texts, ascending. -/
abbrev TextSet := Dict Unit

namespace TextSet

def insert (s : TextSet) (t : String) : TextSet := Dict.insert s t ()

def toList (s : TextSet) : List String := s.keys

def ofList (texts : List String) : TextSet := texts.foldl insert Dict.empty

end TextSet

end ComposeToPodman
