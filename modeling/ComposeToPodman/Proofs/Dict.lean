import ComposeToPodman.Dict

/-! Building a map from entries that ascend gives these entries, and whatever is built holds nothing
but what was put in. The order in which it is put in does not count. -/
namespace ComposeToPodman

namespace Dict

variable {α β : Type}

theorem insertEntry_append {k : String} {a : α} {l : List (String × α)}
    (below : ∀ e ∈ l, e.1 < k) : insertEntry k a l = l ++ [(k,a)] := by
  induction l with
  | nil => rfl
  | cons e rest ih =>
    have lt : e.1 < k := below e List.mem_cons_self
    have notLt : ¬k < e.1 := fun gt => String.lt_irrefl _ (String.lt_trans lt gt)
    rw [insertEntry,if_neg notLt,if_pos lt,
      ih fun e member => below e (List.mem_cons_of_mem _ member)]
    rfl

theorem entries_foldl_insert (l : List (String × α)) (d : Dict α)
    (sorted : (d.entries ++ l).Pairwise fun a b => a.1 < b.1) :
    (l.foldl (fun d e => d.insert e.1 e.2) d).entries = d.entries ++ l := by
  -- By induction on the entries: each of them is above all that came before.
  induction l generalizing d with
  | nil => simp
  | cons e rest ih =>
    have below : ∀ e' ∈ d.entries, e'.1 < e.1 := fun e' member =>
      (List.pairwise_append.mp sorted).2.2 e' member e List.mem_cons_self
    have grown : (d.insert e.1 e.2).entries = d.entries ++ [e] := insertEntry_append below
    rw [List.foldl_cons,ih _ (by rw [grown]; simpa using sorted),grown]
    simp

theorem mem_insertEntry_self (k : String) (a : α) (l : List (String × α)) :
    (k,a) ∈ insertEntry k a l := by
  induction l with
  | nil => simp [insertEntry]
  | cons e rest ih =>
    rw [insertEntry]
    split
    · exact List.mem_cons_self
    split
    · exact List.mem_cons_of_mem _ ih
    · exact List.mem_cons_self

theorem entries_ofList {l : List (String × α)} (sorted : l.Pairwise fun a b => a.1 < b.1) :
    (ofList l).entries = l := entries_foldl_insert l empty (by simpa using sorted)

@[simp] theorem ofList_entries (d : Dict α) : ofList d.entries = d :=
  Dict.ext (entries_ofList d.sorted)

/-- Other values under the same keys. -/
def mapEntries (f : String × α → β) (d : Dict α) : Dict β :=
  ⟨d.entries.map fun e => (e.1,f e),List.pairwise_map.mpr d.sorted⟩

theorem ofList_map (f : String × α → β) (d : Dict α) :
    ofList (d.entries.map fun e => (e.1,f e)) = d.mapEntries f :=
  Dict.ext (entries_ofList (d.mapEntries f).sorted)

theorem mem_of_mem_foldl_insert {l : List (String × α)} {d : Dict α} {e : String × α}
    (member : e ∈ (l.foldl (fun d e => d.insert e.1 e.2) d).entries) : e ∈ d.entries ∨ e ∈ l := by
  induction l generalizing d with
  | nil => exact .inl member
  | cons head rest ih =>
    rcases ih member with old | new
    · rcases mem_insertEntry old with rfl | old
      · exact .inr List.mem_cons_self
      · exact .inl old
    · exact .inr (List.mem_cons_of_mem _ new)

theorem mem_of_mem_ofList {l : List (String × α)} {e : String × α}
    (member : e ∈ (ofList l).entries) : e ∈ l := by
  rcases mem_of_mem_foldl_insert member with impossible | inside
  · cases impossible
  · exact inside

theorem contains_iff {d : Dict α} {k : String} : d.contains k = true ↔ k ∈ d.keys := by
  simp [contains,keys]

theorem get?_eq_some_iff {d : Dict α} {k : String} {a : α} :
    d.get? k = some a ↔ (k,a) ∈ d.entries := by
  obtain ⟨l,sorted⟩ := d
  change l.lookup k = some a ↔ (k,a) ∈ l
  induction sorted with
  | nil => simp
  | @cons e rest below _ ih =>
    obtain ⟨key,b⟩ := e
    by_cases here : k = key
    · subst here
      have absent : (k,a) ∉ rest := fun member => String.lt_irrefl k (below (k,a) member)
      simp [absent,eq_comm]
    · have other : (k == key) = false := by simpa using here
      simpa [List.lookup_cons,other,here] using ih

theorem get?_of_contains {d : Dict α} {k : String} (contains : d.contains k = true) :
    ∃ a, d.get? k = some a := by
  obtain ⟨e,member,rfl⟩ := List.mem_map.mp (contains_iff.mp contains)
  exact ⟨e.2,get?_eq_some_iff.mpr member⟩

theorem mem_keys_iff {d : Dict α} {k : String} : k ∈ d.keys ↔ (d.get? k).isSome := by
  rw [Option.isSome_iff_exists]
  constructor
  · exact fun member => get?_of_contains (contains_iff.mpr member)
  · rintro ⟨a,found⟩
    exact List.mem_map_of_mem (get?_eq_some_iff.mp found)

theorem eq_empty_of_isEmpty {d : Dict α} (empty : d.isEmpty = true) : d = {} :=
  Dict.ext (List.isEmpty_iff.mp empty)

/-- Inserting takes away what stood under the key, and nothing else. -/
theorem mem_insertEntry_iff {k : String} {a : α} {l : List (String × α)} {e : String × α}
    (sorted : l.Pairwise fun a b => a.1 < b.1) :
    e ∈ insertEntry k a l ↔ e = (k,a) ∨ e ∈ l ∧ e.1 ≠ k := by
  have apart {s t : String} (lt : s < t) : s ≠ t := fun same => String.lt_irrefl t (same ▸ lt)
  induction sorted with
  | nil => simp [insertEntry]
  | @cons head rest below _ ih =>
    obtain ⟨k',a'⟩ := head
    rw [insertEntry]
    split
    next lt =>
      have others : ∀ e ∈ (k',a') :: rest, e.1 ≠ k := by
        intro e member
        rcases List.mem_cons.mp member with rfl | later
        · exact (apart lt).symm
        · exact (apart (String.lt_trans lt (below e later))).symm
      rw [List.mem_cons,and_iff_left_of_imp (others e)]
    split
    next gt =>
      have other : e = (k',a') → e.1 ≠ k := fun same => same ▸ apart gt
      rw [List.mem_cons,List.mem_cons,or_and_right,and_iff_left_of_imp other,or_left_comm]
      exact or_congr_right ih
    next notLt notGt =>
      obtain rfl : k = k' := String.le_antisymm (String.not_lt.1 notGt) (String.not_lt.1 notLt)
      have others : ∀ e ∈ rest, e.1 ≠ k := fun e later => (apart (below e later)).symm
      have gone : ¬(e = (k,a') ∧ e.1 ≠ k) := by
        rintro ⟨rfl,other⟩
        exact other rfl
      rw [List.mem_cons,List.mem_cons,or_and_right,and_iff_left_of_imp (others e),or_iff_right gone]

theorem get?_insert (d : Dict α) (k : String) (a : α) (key : String) :
    (d.insert k a).get? key = if key = k then some a else d.get? key := by
  refine Option.ext fun b => ?_
  have inserted : (key,b) ∈ (d.insert k a).entries ↔
      (key,b) = (k,a) ∨ (key,b) ∈ d.entries ∧ key ≠ k :=
    mem_insertEntry_iff d.sorted
  rw [get?_eq_some_iff,inserted]
  split
  next here => simp [here,eq_comm]
  next other => simp [other,get?_eq_some_iff]

theorem mem_foldl_insert_iff {l : List (String × α)} (distinct : (l.map Prod.fst).Nodup)
    {d : Dict α} {e : String × α} :
    e ∈ (l.foldl (fun d e => d.insert e.1 e.2) d).entries ↔
      e ∈ l ∨ e ∈ d.entries ∧ e.1 ∉ l.map Prod.fst := by
  -- By induction on the entries: those to come have other keys.
  induction l generalizing d with
  | nil => simp
  | cons head rest ih =>
    obtain ⟨absent,distinct⟩ := List.nodup_cons.mp distinct
    rw [List.foldl_cons,ih distinct]
    have inserted : e ∈ (d.insert head.1 head.2).entries ↔ e = head ∨ e ∈ d.entries ∧ e.1 ≠ head.1 :=
      mem_insertEntry_iff d.sorted
    rw [inserted,List.mem_cons,List.map_cons,List.mem_cons,not_or]
    constructor
    · rintro (later | ⟨rfl | ⟨old,other⟩,unlisted⟩)
      · exact .inl (.inr later)
      · exact .inl (.inl rfl)
      · exact .inr ⟨old,other,unlisted⟩
    · rintro ((rfl | later) | ⟨old,other,unlisted⟩)
      · exact .inr ⟨.inl rfl,absent⟩
      · exact .inl later
      · exact .inr ⟨.inr ⟨old,other⟩,unlisted⟩

/-- Entries with different keys are all kept. -/
theorem mem_ofList_iff {l : List (String × α)} (distinct : (l.map Prod.fst).Nodup)
    {e : String × α} : e ∈ (ofList l).entries ↔ e ∈ l := by
  simp [ofList,mem_foldl_insert_iff distinct]

theorem nodup_keys (d : Dict α) : d.keys.Nodup := by
  refine List.pairwise_map.mpr (d.sorted.imp ?_)
  intro a b lt same
  exact String.lt_irrefl b.1 (same ▸ lt)

/-- The entries of a map, in whatever order, tell which map it is. -/
theorem eq_of_mem_iff {d e : Dict α} (same : ∀ x, x ∈ d.entries ↔ x ∈ e.entries) : d = e := by
  have nodup (d : Dict α) : d.entries.Nodup :=
    List.Pairwise.of_map Prod.fst (fun _ _ other same => other (congrArg _ same)) d.nodup_keys
  have perm := (List.perm_ext_iff_of_nodup (nodup d) (nodup e)).mpr same
  refine ext (perm.eq_of_pairwise (fun a b _ _ first second => ?_) d.sorted e.sorted)
  exact absurd (String.lt_trans first second) (String.lt_irrefl _)

/-- The order in which entries with different keys are put in does not count. -/
theorem ofList_perm {l m : List (String × α)} (distinct : (l.map Prod.fst).Nodup)
    (perm : l.Perm m) : ofList l = ofList m := by
  refine eq_of_mem_iff fun e => ?_
  rw [mem_ofList_iff distinct,mem_ofList_iff ((perm.map _).nodup_iff.mp distinct),perm.mem_iff]

end Dict

namespace TextSet

theorem ofList_eq (texts : List String) : ofList texts = Dict.ofList (texts.map (·,())) := by
  rw [ofList,Dict.ofList,List.foldl_map]
  rfl

theorem entries_eq (s : TextSet) : s.entries = s.toList.map (·,()) := by
  simp [toList,Dict.keys,Function.comp_def]

@[simp] theorem ofList_toList (s : TextSet) : ofList s.toList = s := by
  rw [ofList_eq,← entries_eq,Dict.ofList_entries]

theorem mem_of_mem_ofList {texts : List String} {t : String} (member : t ∈ (ofList texts).toList) :
    t ∈ texts := by
  obtain ⟨e,inside,rfl⟩ := List.mem_map.mp member
  rw [ofList_eq] at inside
  obtain ⟨t,listed,rfl⟩ := List.mem_map.mp (Dict.mem_of_mem_ofList inside)
  exact listed

theorem mem_insert_self (s : TextSet) (t : String) : t ∈ (s.insert t).toList :=
  List.mem_map_of_mem (Dict.mem_insertEntry_self t () s.entries)

theorem mem_of_mem_insert {s : TextSet} {t u : String} (member : u ∈ (s.insert t).toList) :
    u = t ∨ u ∈ s.toList := by
  obtain ⟨e,inside,rfl⟩ := List.mem_map.mp member
  rcases Dict.mem_insertEntry inside with rfl | old
  · exact .inl rfl
  · exact .inr (List.mem_map_of_mem old)

theorem mem_insert_iff {s : TextSet} {t u : String} :
    u ∈ (s.insert t).toList ↔ u = t ∨ u ∈ s.toList := by
  refine ⟨mem_of_mem_insert,?_⟩
  rintro (rfl | old)
  · exact mem_insert_self s u
  by_cases same : u = t
  · exact same ▸ mem_insert_self s t
  · obtain ⟨e,inside,rfl⟩ := List.mem_map.mp old
    exact List.mem_map_of_mem ((Dict.mem_insertEntry_iff s.sorted).mpr (.inr ⟨inside,same⟩))

theorem mem_foldl_insert_iff {texts : List String} {s : TextSet} {t : String} :
    t ∈ (texts.foldl insert s).toList ↔ t ∈ texts ∨ t ∈ s.toList := by
  induction texts generalizing s with
  | nil => simp
  | cons head rest ih => rw [List.foldl_cons,ih,mem_insert_iff,List.mem_cons,or_left_comm,or_assoc]

theorem mem_ofList_iff {texts : List String} {t : String} :
    t ∈ (ofList texts).toList ↔ t ∈ texts := by
  rw [ofList,mem_foldl_insert_iff]
  simp [toList,Dict.keys]

/-- Neither the order nor the repetition of texts counts in their set. -/
theorem ofList_congr {texts others : List String} (same : ∀ t, t ∈ texts ↔ t ∈ others) :
    ofList texts = ofList others := by
  refine Dict.eq_of_mem_iff fun e => ?_
  have listed (l : List String) : e ∈ (ofList l).entries ↔ e.1 ∈ l := by
    rw [← mem_ofList_iff,entries_eq,List.mem_map]
    exact ⟨fun ⟨t,member,told⟩ => told ▸ member,fun member => ⟨e.1,member,rfl⟩⟩
  rw [listed,listed,same]

end TextSet

end ComposeToPodman
