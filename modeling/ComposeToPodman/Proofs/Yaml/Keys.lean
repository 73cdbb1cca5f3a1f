import ComposeToPodman.Yaml.Value.Read

/-! Keys of mappings. Whatever is read from a text has no mapping with a key twice. -/
namespace ComposeToPodman.Yaml.Value

mutual

/-- Every mapping in a value is as `P` says of its entries. -/
def EveryMapping (P : List (Value × Value) → Prop) : Value → Prop
  | .sequence items => EveryItem P items
  | .mapping entries => P entries ∧ EveryEntry P entries
  | .tagged _ v => EveryMapping P v
  | _ => True

def EveryItem (P : List (Value × Value) → Prop) : List Value → Prop
  | [] => True
  | v :: rest => EveryMapping P v ∧ EveryItem P rest

def EveryEntry (P : List (Value × Value) → Prop) : List (Value × Value) → Prop
  | [] => True
  | (k, v) :: rest => (EveryMapping P k ∧ EveryMapping P v) ∧ EveryEntry P rest

end

/-- No entry of a mapping has the key of another. -/
def Distinct (entries : List (Value × Value)) : Prop :=
  entries.Pairwise fun e later => e.1.same later.1 = false

/-- No key of a mapping has a tag. -/
def Untagged (entries : List (Value × Value)) : Prop :=
  ∀ e ∈ entries, ∀ tag v, e.1 ≠ .tagged tag v

/-- No mapping in a value has a key twice. -/
def DistinctKeys : Value → Prop := EveryMapping Distinct

/-- No mapping in a value has a key with a tag. -/
def UntaggedKeys : Value → Prop := EveryMapping Untagged

variable {P : List (Value × Value) → Prop}

theorem everyItem_iff {items : List Value} :
    EveryItem P items ↔ ∀ v ∈ items, EveryMapping P v := by
  induction items with
  | nil => simp [EveryItem]
  | cons v rest ih => simp [EveryItem,ih]

theorem everyEntry_iff {entries : List (Value × Value)} :
    EveryEntry P entries ↔ ∀ e ∈ entries, EveryMapping P e.1 ∧ EveryMapping P e.2 := by
  induction entries with
  | nil => simp [EveryEntry]
  | cons e rest ih => simp [EveryEntry,ih]

theorem EveryMapping.value {entries : List (Value × Value)}
    (every : EveryMapping P (.mapping entries)) {k v : Value} (member : (k,v) ∈ entries) :
    EveryMapping P v :=
  (everyEntry_iff.mp every.2 (k,v) member).2

theorem everyMapping_wrap {tag : Option String} {v : Value} (every : EveryMapping P v) :
    EveryMapping P (wrap tag v) := by
  cases tag <;> exact every

/-- Whatever a reader gives is as `Q` says. -/
def Yields (r : Reader α) (Q : α → Prop) : Prop :=
  ∀ before a after, r.run before = .ok (a,after) → Q a

namespace Yields

theorem of_pure {a : α} {Q : α → Prop} (holds : Q a) : Yields (pure a) Q := by
  intro before b after ran
  cases ran
  exact holds

theorem of_throw (e : ReadError) (Q : α → Prop) : Yields (throw e : Reader α) Q := by
  intro before b after ran
  cases ran

theorem bind {r : Reader α} {f : α → Reader β} {Q : α → Prop} {R : β → Prop} (first : Yields r Q)
    (next : ∀ a, Q a → Yields (f a) R) : Yields (r >>= f) R := by
  intro before b after ran
  rw [StateT.run_bind] at ran
  cases outcome : r.run before with
  | error e =>
    rw [outcome] at ran
    cases ran
  | ok given =>
    rw [outcome] at ran
    exact next given.1 (first before given.1 given.2 outcome) given.2 b after ran

theorem any (r : Reader α) : Yields r fun _ => True := fun _ _ _ _ => trivial

theorem map {r : Reader α} {f : α → β} {Q : β → Prop} (given : Yields r fun a => Q (f a)) :
    Yields (f <$> r) Q := by
  rw [map_eq_pure_bind]
  exact given.bind fun a holds => of_pure holds

end Yields

variable {s : Source} {read : Path → Reader Value}

theorem distinct_items (distinct : ∀ path, Yields (read path) DistinctKeys) (path : Path)
    (fuel index : Nat) {found : List Value} (before : ∀ v ∈ found, v.DistinctKeys) :
    Yields (items s read path fuel index found) fun items => ∀ v ∈ items, v.DistinctKeys := by
  have reversed : ∀ v ∈ found.reverse, v.DistinctKeys := by simpa using before
  -- By induction on the bound: what has been found is in order, and what is read is put to it.
  induction fuel generalizing index found with
  | zero => exact .of_pure reversed
  | succ fuel ih =>
    rw [items]
    refine (Yields.any _).bind fun first _ => ?_
    split
    next => exact (Yields.any _).bind fun _ _ => .of_pure reversed
    next =>
      refine (distinct _).bind fun v given => ?_
      have grown : ∀ w ∈ v :: found, w.DistinctKeys := List.forall_mem_cons.mpr ⟨given,before⟩
      exact ih (index + 1) grown (by simpa [or_comm] using grown)

theorem distinct_entries (distinct : ∀ path, Yields (read path) DistinctKeys) (path : Path)
    (mark : Mark) (fuel : Nat) {found : List (Value × Value)}
    (before : DistinctKeys (.mapping found.reverse)) :
    Yields (entries s read path mark fuel found) fun es => DistinctKeys (.mapping es) := by
  induction fuel generalizing found with
  | zero => exact .of_pure before
  | succ fuel ih =>
    rw [entries]
    refine (Yields.any _).bind fun ⟨first,_⟩ _ => ?_
    dsimp only
    split
    next => exact (Yields.any _).bind fun _ _ => .of_pure before
    next =>
      refine (distinct _).bind fun key keyGiven => ?_
      split
      next => exact (Yields.of_throw _ fun _ => False).bind fun _ => False.elim
      next fresh =>
        have apart : ∀ k v, (k,v) ∈ found → k.same key = false := by simpa using fresh
        refine (distinct _).bind fun v given => ih ⟨?_,?_⟩
        · rw [List.reverse_cons]
          refine List.pairwise_append.mpr ⟨before.1,List.pairwise_singleton _ _,?_⟩
          intro e member later last
          obtain rfl := List.mem_singleton.mp last
          exact apart e.1 e.2 (List.mem_reverse.mp member)
        · refine everyEntry_iff.mpr fun e member => ?_
          rw [List.reverse_cons,List.mem_append,List.mem_singleton] at member
          rcases member with old | rfl
          · exact everyEntry_iff.mp before.2 e old
          · exact ⟨keyGiven,given⟩

theorem distinct_ofPlain {text : String} {p : Plain} {v : Value} (given : ofPlain text p = .ok v) :
    v.DistinctKeys := by
  cases p <;> cases given <;> trivial

theorem distinct_ofCoreTag? {text tag : String} {v : Value}
    (given : ofCoreTag? text tag = some (.ok v)) : v.DistinctKeys := by
  unfold ofCoreTag? at given
  split at given
  case h_2 =>
    have given := Option.some.inj given
    split at given
    next => exact distinct_ofPlain given
    next => cases given
  case h_5 => cases given
  all_goals
    have given := Option.some.inj given
    split at given <;> cases given
    trivial

/-- A scalar has no keys. -/
theorem distinct_ofScalar {tag : Option Octets} {text : String} {plain : Bool} {v : Value}
    (given : ofScalar tag text plain = .ok v) : v.DistinctKeys := by
  unfold ofScalar at given
  split at given
  next =>
    split at given
    next => exact distinct_ofPlain given
    next =>
      cases given
      trivial
  next =>
    cases meant : (tag.bind Octets.text?).bind (ofCoreTag? text) with
    | none =>
      rw [meant] at given
      cases given
      trivial
    | some outcome =>
      rw [meant] at given
      obtain ⟨name,_,core⟩ := Option.bind_eq_some_iff.mp meant
      exact distinct_ofCoreTag? (core.trans (congrArg some given))

theorem Yields.of_place {outcome : Except Invalid α} {Q : α → Prop} (path : Path) (mark : Mark)
    (holds : ∀ a, outcome = .ok a → Q a) : Yields (place path mark outcome) Q := by
  cases outcome with
  | ok a => exact .of_pure (holds a rfl)
  | error cause => exact .of_throw _ _

theorem distinct_ofEvent {read : Option (Path → Reader Value)}
    (distinct : ∀ r, read = some r → ∀ path, Yields (r path) DistinctKeys) (path : Path)
    (mark : Mark) (event : Event Nat) : Yields (ofEvent s read path mark event) DistinctKeys := by
  have wrapped {r : Reader Value} (tag : Option String) (given : Yields r DistinctKeys) :
      Yields (wrap tag <$> r) DistinctKeys :=
    .map fun before v after ran => everyMapping_wrap (given before v after ran)
  unfold ofEvent
  split
  next => exact wrapped _ (.of_place path mark fun _ => distinct_ofScalar)
  next =>
    split
    next => exact .of_throw _ _
    next r =>
      refine wrapped _ (.map fun before items after ran => ?_)
      exact everyItem_iff.mpr
        (distinct_items (distinct r rfl) path _ 0 (List.forall_mem_nil _) before items after ran)
  next =>
    split
    next => exact .of_throw _ _
    next r =>
      refine wrapped _ (.map ?_)
      exact distinct_entries (distinct r rfl) path mark _ ⟨.nil,trivial⟩
  next => exact .of_pure trivial

theorem distinct_ofNode {read : Option (Path → Reader Value)}
    (distinct : ∀ r, read = some r → ∀ path, Yields (r path) DistinctKeys) (path : Path) :
    Yields (ofNode s read path) DistinctKeys := by
  unfold ofNode
  refine (Yields.any _).bind fun ⟨event,mark⟩ _ => (Yields.any _).bind fun _ _ => ?_
  dsimp only
  split
  next =>
    refine (Yields.any _).bind fun _ _ => (Yields.any _).bind fun _ _ => ?_
    refine (Yields.any _).bind fun _ _ => ?_
    split
    next => exact (Yields.of_throw _ fun _ => False).bind fun _ => False.elim
    next =>
      split
      next => exact .of_pure trivial
      next =>
        refine (Yields.any _).bind fun _ _ => ?_
        refine (distinct_ofEvent distinct path _ _).bind fun v given => ?_
        exact (Yields.any _).bind fun _ _ => .of_pure given
  next => exact distinct_ofEvent distinct path mark _

theorem distinct_ofSource (depth : Nat) (path : Path) :
    Yields (ofSource s depth path) DistinctKeys := by
  -- By induction on the depth: the parts of a collection are read with one level less.
  induction depth generalizing path with
  | zero => exact distinct_ofNode (by simp) path
  | succ depth ih =>
    refine distinct_ofNode (fun r same => ?_) path
    obtain rfl := Option.some.inj same
    exact ih

/-- No mapping of a value that is read has a key twice. -/
theorem distinctKeys_of_read {text : String} {v : Value} (given : Value.read text = .ok v) :
    v.DistinctKeys := by
  let source := Source.ofEvents (Events.ofTokens (.ofText text))
  have distinct := distinct_ofSource (s := source) maxDepth [] {}
  unfold Value.read at given
  dsimp only at given
  cases ran : (ofSource source maxDepth []).run {} with
  | error cause =>
    rw [ran] at given
    cases given
  | ok outcome =>
    obtain ⟨w,after⟩ := outcome
    rw [ran] at given
    dsimp only [bind,Except.bind] at given
    split at given
    next => cases given
    next =>
      split at given
      next => cases given
      next =>
        obtain rfl := Except.ok.inj given
        exact distinct w after ran

end ComposeToPodman.Yaml.Value
