import ComposeToPodman.Proofs.Compose.Names
import ComposeToPodman.Proofs.Text
import ComposeToPodman.Target.Label

/-! Labels start with a letter or a digit and have no characters but those of labels. Labels that are
made unique are not taken yet: candidates with different numbers differ, so there are more of them
than labels that are taken. -/
namespace ComposeToPodman.Target.Label

/-- `[a-z0-9]`. -/
def LowerOrDigit (c : Char) : Prop := 'a' ≤ c ∧ c ≤ 'z' ∨ '0' ≤ c ∧ c ≤ '9'

theorem lowerOrDigit_toLower {c : Char} (alphanumeric : c.isAlphanum = true) :
    LowerOrDigit c.toLower := by
  have kinds := (Compose.isAlphanum_iff c).mp alphanumeric
  unfold LowerOrDigit Char.toLower
  split
  next upper =>
    left
    simp only [Char.le_def,UInt32.le_iff_toNat_le,UInt32.toNat_add] at upper ⊢
    have lower : 65 ≤ c.val.toNat := upper.1
    have higher : c.val.toNat ≤ 90 := upper.2
    change 97 ≤ (c.val.toNat + 32) % 4294967296 ∧ (c.val.toNat + 32) % 4294967296 ≤ 122
    omega
  next other =>
    rcases kinds with lower | upper | digit
    · exact .inl lower
    · exact absurd upper other
    · exact .inr digit

theorem mem_collapse {hyphen : Bool} {s : List Char} {c : Char} (member : c ∈ collapse hyphen s) :
    c = '-' ∨ LowerOrDigit c := by
  induction s generalizing hyphen with
  | nil => cases member
  | cons d rest ih =>
    rw [collapse] at member
    split at member
    next alphanumeric =>
      rcases List.mem_cons.mp member with rfl | later
      · exact .inr (lowerOrDigit_toLower alphanumeric)
      · exact ih later
    next =>
      split at member
      next => exact ih member
      next =>
        rcases List.mem_cons.mp member with rfl | later
        · exact .inl rfl
        · exact ih later

theorem prefix_dropLast (s : List Char) : dropLast s <+: s := by
  have reversed := List.reverse_prefix.mpr (List.dropWhile_suffix (· == '-') (l := s.reverse))
  rwa [List.reverse_reverse] at reversed

theorem prefix_trimmed (s : List Char) : trimmed s <+: s.dropWhile (· == '-') := by
  have cut := List.take_prefix maxLength (dropLast (s.dropWhile (· == '-')))
  exact (prefix_dropLast _).trans (cut.trans (prefix_dropLast _))

/-- A label has characters of labels only, and its first one is no hyphen. -/
theorem ofText_shape (s : String) : ∃ first rest, (ofText s).toList = first :: rest ∧
    LowerOrDigit first ∧ ∀ c ∈ rest, c = '-' ∨ LowerOrDigit c := by
  unfold ofText
  split
  next => exact ⟨'x',[],rfl,.inl (by decide),List.forall_mem_nil _⟩
  next label nonempty =>
    obtain ⟨first,rest,whole⟩ := List.exists_cons_of_ne_nil nonempty
    rw [String.toList_ofList,whole]
    have beginning := whole ▸ prefix_trimmed (collapse false s.toList)
    have labelled : ∀ c ∈ first :: rest, c = '-' ∨ LowerOrDigit c := fun c member =>
      mem_collapse (List.dropWhile_sublist _ |>.subset (beginning.subset member))
    have front : first ≠ '-' := by
      obtain ⟨cut,joined⟩ := beginning
      have head := List.head?_dropWhile_not (· == '-') (collapse false s.toList)
      rw [← joined] at head
      simpa using head
    rw [List.forall_mem_cons] at labelled
    exact ⟨first,rest,rfl,labelled.1.resolve_left front,labelled.2⟩

theorem hyphen_not_mem_toDigits (n : Nat) : '-' ∉ Nat.toDigits 10 n := fun member =>
  absurd (Nat.isDigit_of_mem_toDigits (by decide) (by decide) member) (by decide)

/-- A numbered candidate ends in a hyphen and its number. -/
theorem toList_candidate (base : String) (n : Nat) :
    ∃ stem, (candidate base (n + 1)).toList = stem ++ '-' :: Nat.toDigits 10 (n + 2) := by
  refine ⟨dropLast (base.toList.take (maxLength - ("-" ++ toString (n + 2)).length)),?_⟩
  simp [candidate]

theorem candidate_injective {base : String} {i j : Nat}
    (same : candidate base (i + 1) = candidate base (j + 1)) : i = j := by
  obtain ⟨stem,first⟩ := toList_candidate base i
  obtain ⟨other,second⟩ := toList_candidate base j
  have texts : stem ++ '-' :: Nat.toDigits 10 (i + 2) = other ++ '-' :: Nat.toDigits 10 (j + 2) := by
    rw [← first,← second,same]
  -- The last hyphen ends the stem, so the reversed texts are cut at the first one.
  have cut (stem : List Char) (n : Nat) :
      Text.cut? '-' (stem ++ '-' :: Nat.toDigits 10 n).reverse =
        some ((Nat.toDigits 10 n).reverse,stem.reverse) := by
    rw [List.reverse_append,List.reverse_cons,List.append_assoc,List.singleton_append]
    exact Text.cut?_append_cons (by simpa using hyphen_not_mem_toDigits n) _
  have cuts := cut stem (i + 2)
  rw [texts,cut other (j + 2)] at cuts
  have digits : Nat.toDigits 10 (j + 2) = Nat.toDigits 10 (i + 2) := by
    simpa using congrArg (Option.map Prod.fst) cuts
  have numbers := congrArg (Nat.ofDigitChars 10 · 0) digits
  simp only [Nat.ofDigitChars_ten_toDigits] at numbers
  omega

/-- Candidates after the first one are distinct, so only the first one can be counted twice. -/
theorem length_le_of_taken {base : String} {taken : List String} {n : Nat}
    (all : ∀ i < n, candidate base i ∈ taken) : n ≤ taken.length + 1 := by
  let numbered := (List.range (n - 1)).map fun i => candidate base (i + 1)
  have distinct : numbered.Nodup := by
    refine List.pairwise_map.mpr (List.nodup_range.imp fun apart same => ?_)
    exact apart (candidate_injective same)
  have inside : numbered ⊆ taken := by
    intro label member
    obtain ⟨i,bound,rfl⟩ := List.mem_map.mp member
    have bound := List.mem_range.mp bound
    exact all (i + 1) (by omega)
  have bound := distinct.length_le_of_subset inside
  simp only [numbered,List.length_map,List.length_range] at bound
  omega

theorem exists_free (base : String) (taken : List String) :
    ∃ label ∈ (List.range (taken.length + 2)).map (candidate base), label ∉ taken := by
  refine Classical.byContradiction fun stuck => ?_
  have all : ∀ n, n < taken.length + 2 → candidate base n ∈ taken := by
    intro n bound
    refine Classical.byContradiction fun free => stuck ⟨_,?_,free⟩
    exact List.mem_map_of_mem (List.mem_range.mpr bound)
  have bound := length_le_of_taken all
  omega

/-- The label that a name gets is new. -/
theorem unique_not_mem (name : String) (taken : List String) : unique name taken ∉ taken := by
  obtain ⟨label,member,free⟩ := exists_free (ofText name) taken
  simp only [unique]
  cases found : ((List.range (taken.length + 2)).map (candidate (ofText name))).find?
      (!taken.contains ·) with
  | none =>
    have := List.find?_eq_none.mp found label member
    simp [free] at this
  | some chosen =>
    have := List.find?_some found
    simpa using this

end ComposeToPodman.Target.Label
