import ComposeToPodman.Proofs.Target.LabelShape
import Mathlib.Algebra.Group.Nat.Defs
import Mathlib.Data.Finset.Card
import Mathlib.Data.Finset.Dedup

/-! The search for a label that is not taken, one candidate after another. It ends after at most one
step more than labels are taken, and every candidate on its way is a label. -/
namespace ComposeToPodman.Target.Label

/-- What a label with a number ends in. -/
def suffix (number : Nat) : String := "-" ++ toString number

/-- A search that is at candidate `i` ends at candidate `k`. It goes on where a candidate is taken;
the number of the next one has to be of 31 bits, and its suffix no longer than a label. -/
inductive Search (base : String) (taken : String → Prop) : Nat → Nat → Prop
  | found : ¬taken (candidate base k) → Search base taken k k
  | next : taken (candidate base i) → i + 2 < 2 ^ 31 → (suffix (i + 2)).length ≤ 63 →
      Search base taken (i + 1) k → Search base taken i k

section Steps

variable {base : String} {taken : String → Prop} {i k : Nat}

theorem Search.ends (search : Search base taken i k) :
    i ≤ k ∧ ¬taken (candidate base k) ∧ ∀ j, i ≤ j → j < k → taken (candidate base j) := by
  induction search with
  | found free => exact ⟨Nat.le_refl _,free,fun j start below => absurd below (by omega)⟩
  | @next i k used _ _ _ ih =>
    obtain ⟨order,free,before⟩ := ih
    refine ⟨by omega,free,fun j start below => ?_⟩
    rcases Nat.eq_or_lt_of_le start with rfl | later
    · exact used
    · exact before j later below

theorem Search.end_unique {l : Nat} (search : Search base taken i k)
    (again : Search base taken i l) : l = k := by
  obtain ⟨order,free,before⟩ := search.ends
  obtain ⟨order',free',before'⟩ := again.ends
  rcases Nat.lt_trichotomy l k with less | same | more
  · exact absurd (before l order' less) free'
  · exact same
  · exact absurd (before' k order more) free

end Steps

theorem toList_suffix (number : Nat) : (suffix number).toList = '-' :: Nat.toDigits 10 number := by
  simp [suffix]

theorem length_suffix_le {number : Nat} (counted : number < 2 ^ 31) :
    (suffix number).length ≤ 11 := by
  have digits : (Nat.toDigits 10 number).length ≤ 10 :=
    (Nat.length_toDigits_le_iff (by decide) (by decide)).mpr (by omega)
  rw [← String.length_toList,toList_suffix,List.length_cons]
  omega

theorem search_of_taken {base : String} {taken : String → Prop} {i k : Nat} (order : i ≤ k)
    (free : ¬taken (candidate base k))
    (before : ∀ j, i ≤ j → j < k → taken (candidate base j)) (counted : k < 2 ^ 31 - 1) :
    Search base taken i k := by
  -- By induction downwards, from the candidate that is free.
  induction order using Nat.decreasingInduction with
  | self => exact .found free
  | of_succ i below ih =>
    have small : i + 2 < 2 ^ 31 := by omega
    have fits := length_suffix_le small
    have rest := ih fun j start => before j (by omega)
    exact .next (before i (Nat.le_refl i) below) small (by omega) rest

/-- Two labels joined by a hyphen. -/
theorem Normal.join {first second : List Char} (left : Normal first) (right : Normal second)
    (size : first.length + second.length ≤ 62) : Normal (first ++ '-' :: second) := by
  have first_nonempty : first ≠ [] := List.ne_nil_of_length_pos left.size.1
  have second_nonempty : second ≠ [] := List.ne_nil_of_length_pos right.size.1
  refine normal_of_ends ⟨by simp; omega,by simp; omega⟩ ?_ ?_ ?_ ?_
  · intro c member
    rcases List.mem_append.mp member with inside | inside
    · exact left.plain c inside
    rcases List.mem_cons.mp inside with hyphen | inside
    · exact .inl hyphen
    · exact right.plain c inside
  · refine List.isChain_append.mpr ⟨left.apart,List.isChain_cons.mpr ⟨?_,right.apart⟩,?_⟩
    · exact fun c starts both => (right.front c starts).ne_hyphen both.2
    · exact fun c ends _ _ both => (left.back c ends).ne_hyphen both.1
  · rw [List.head?_append_of_ne_nil _ first_nonempty]
    exact fun starts => (left.front '-' starts).ne_hyphen rfl
  · rw [← List.singleton_append,← List.append_assoc,
      List.getLast?_append_of_ne_nil _ second_nonempty]
    exact fun ends => (right.back '-' ends).ne_hyphen rfl

/-- What is left of a label that is cut short, without a hyphen where it was cut. -/
theorem Normal.cut {label : List Char} (normal : Normal label) {n : Nat} (room : 0 < n) :
    Normal (dropLast (label.take n)) := by
  have beginning : dropLast (label.take n) <+: label :=
    (prefix_dropLast _).trans (List.take_prefix ..)
  obtain ⟨first,rest,rfl⟩ := List.exists_cons_of_ne_nil (List.ne_nil_of_length_pos normal.size.1)
  have visible : first ≠ '-' := (normal.front first rfl).ne_hyphen
  have kept : dropLast ((first :: rest).take n) ≠ [] := by
    rw [dropLast_eq,ne_eq,List.rdropWhile_eq_nil_iff]
    intro hyphens
    obtain ⟨n,rfl⟩ := Nat.exists_eq_add_of_lt room
    exact visible (by simpa using hyphens first (by simp))
  have start : (dropLast ((first :: rest).take n)).head? = some first := by
    obtain ⟨cut,joined⟩ := beginning
    rw [← List.head?_append_of_ne_nil _ kept,joined,List.head?_cons]
  refine normal_of_ends ⟨List.length_pos_of_ne_nil kept,?_⟩ ?_ ?_ ?_ ?_
  · exact beginning.length_le.trans normal.size.2
  · exact fun c member => normal.plain c (beginning.subset member)
  · exact normal.apart.prefix beginning
  · rw [start]
    simpa using visible
  · exact hyphen_not_mem_getLast?_dropLast _

theorem lowerOrDigit_of_mem_toDigits {number : Nat} {c : Char}
    (member : c ∈ Nat.toDigits 10 number) : LowerOrDigit c := by
  have digit := Nat.isDigit_of_mem_toDigits (by decide) (by decide) member
  exact .inr (by simpa [Char.isDigit,Char.le_def] using digit)

theorem normal_toDigits {number : Nat} (counted : number < 2 ^ 31) :
    Normal (Nat.toDigits 10 number) := by
  have short := length_suffix_le counted
  rw [← String.length_toList,toList_suffix,List.length_cons] at short
  have visible := hyphen_not_mem_toDigits number
  refine normal_of_ends ⟨Nat.length_toDigits_pos,by omega⟩ ?_ ?_ ?_ ?_
  · exact fun c member => .inr (lowerOrDigit_of_mem_toDigits member)
  · refine List.Pairwise.isChain (List.pairwise_of_forall_mem_list ?_)
    exact fun c member _ _ both => visible (both.1 ▸ member)
  · exact fun starts => visible (List.mem_of_head? starts)
  · exact fun ends => visible (List.mem_of_getLast? ends)

theorem toList_candidate_succ (base : String) (i : Nat) :
    (candidate base (i + 1)).toList =
      dropLast (base.toList.take (63 - (suffix (i + 2)).length)) ++ (suffix (i + 2)).toList := by
  simp [candidate,suffix,maxLength]

theorem normal_candidate {base : String} (normal : Normal base.toList) {i : Nat}
    (counted : i < 2 ^ 31 - 1) : Normal (candidate base i).toList := by
  cases i with
  | zero => exact normal
  | succ i =>
    have small : i + 2 < 2 ^ 31 := by omega
    have room := length_suffix_le small
    have stem := (prefix_dropLast
      (base.toList.take (63 - (suffix (i + 2)).length))).length_le.trans (List.length_take_le ..)
    rw [toList_candidate_succ,toList_suffix]
    refine (normal.cut (by omega)).join (normal_toDigits small) ?_
    have whole : (suffix (i + 2)).length = (Nat.toDigits 10 (i + 2)).length + 1 := by
      rw [← String.length_toList,toList_suffix,List.length_cons]
    omega

theorem exists_unique_eq (name : String) (taken : List String) :
    ∃ k, unique name taken = candidate (ofText name) k ∧
      ∀ j < k, candidate (ofText name) j ∈ taken := by
  obtain ⟨label,member,free⟩ := exists_free (ofText name) taken
  simp only [unique]
  cases chosen : ((List.range (taken.length + 2)).map (candidate (ofText name))).find?
      (!taken.contains ·) with
  | none =>
    have := List.find?_eq_none.mp chosen label member
    simp [free] at this
  | some first =>
    obtain ⟨-,k,bound,same,before⟩ := List.find?_eq_some_iff_getElem.mp chosen
    refine ⟨k,by simpa using same.symm,fun j less => ?_⟩
    simpa using before j less

/-- The search ends, in one place only and soon enough, with the label that is chosen: it is free, and
a label. -/
theorem unique_ends_search (name : String) (taken : List String)
    (few : taken.toFinset.card < 2 ^ 31 - 2) :
    ∃ steps ≤ taken.toFinset.card + 1,
      Search (ofText name) (· ∈ taken) 0 steps ∧
      (∀ k, Search (ofText name) (· ∈ taken) 0 k → k = steps) ∧
      unique name taken = candidate (ofText name) steps ∧
      unique name taken ∉ taken ∧ Normal (unique name taken).toList ∧
      (ofText name ∉ taken → unique name taken = ofText name) := by
  obtain ⟨steps,chosen,before⟩ := exists_unique_eq name taken
  have free := unique_not_mem name taken
  have bound : steps ≤ taken.toFinset.card + 1 := by
    rw [List.card_toFinset]
    exact length_le_of_taken fun j less => List.mem_dedup.mpr (before j less)
  have search : Search (ofText name) (· ∈ taken) 0 steps :=
    search_of_taken (Nat.zero_le _) (chosen ▸ free) (fun j _ less => before j less) (by omega)
  refine ⟨steps,bound,search,fun k again => search.end_unique again,chosen,free,?_,fun plain => ?_⟩
  · rw [chosen]
    exact normal_candidate (normal_ofText name) (by omega)
  · have first : Search (ofText name) (· ∈ taken) 0 0 := .found plain
    rw [chosen,first.end_unique search]
    rfl

/-- A label of full length that is its own second candidate. -/
def gateway : String := "gateway-of-the-billing-department-in-the-second-data-centre-a-2"

theorem unique_ends_search_gateway :
    [gateway].toFinset.card < 2 ^ 31 - 2 ∧
      Search (ofText gateway) (· ∈ [gateway]) 0 ([gateway].toFinset.card + 1) ∧
      unique gateway [gateway] = "gateway-of-the-billing-department-in-the-second-data-centre-a-3" ∧
      unique gateway [gateway] ∉ [gateway] ∧ Normal (unique gateway [gateway]).toList := by
  have few : [gateway].toFinset.card < 2 ^ 31 - 2 := by decide
  obtain ⟨steps,bound,search,-,chosen,free,normal,-⟩ := unique_ends_search gateway [gateway] few
  have value : unique gateway [gateway] =
      "gateway-of-the-billing-department-in-the-second-data-centre-a-3" := by decide +kernel
  have other : steps ≠ 0 ∧ steps ≠ 1 := by
    constructor <;> rintro rfl <;> exact absurd (value.symm.trans chosen) (by decide +kernel)
  have last : steps = [gateway].toFinset.card + 1 := by
    simp only [List.toFinset_cons,List.toFinset_nil,insert_empty_eq,Finset.card_singleton]
      at bound ⊢
    omega
  exact ⟨few,last ▸ search,value,free,normal⟩

end ComposeToPodman.Target.Label
