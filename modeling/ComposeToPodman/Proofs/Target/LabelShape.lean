import ComposeToPodman.Proofs.Target.Label
import Mathlib.Data.List.Chain
import Mathlib.Data.List.DropRight

/-! Which texts are labels. What a text is turned into has single hyphens only, inside of it, and a
text of that shape is kept as it is: turning texts into labels is a retraction onto them. -/
namespace ComposeToPodman.Target.Label

/-- A DNS-1123 label: 1 to 63 lower case letters, digits and hyphens, with no hyphen at either
end. -/
structure Valid (label : List Char) : Prop where
  size : 1 ≤ label.length ∧ label.length ≤ 63
  plain : ∀ c ∈ label, c = '-' ∨ LowerOrDigit c
  front : ∀ c ∈ label.head?, LowerOrDigit c
  back : ∀ c ∈ label.getLast?, LowerOrDigit c

/-- Not both of them are hyphens. -/
def Apart (c d : Char) : Prop := ¬(c = '-' ∧ d = '-')

/-- A label without two hyphens next to each other. -/
structure Normal (label : List Char) : Prop extends Valid label where
  apart : label.IsChain Apart

theorem LowerOrDigit.ne_hyphen {c : Char} (lower : LowerOrDigit c) : c ≠ '-' := by
  rintro rfl
  exact absurd lower (by unfold LowerOrDigit; decide)

theorem LowerOrDigit.isAlphanum {c : Char} (lower : LowerOrDigit c) : c.isAlphanum = true :=
  (Compose.isAlphanum_iff c).mpr (lower.imp_right .inr)

theorem LowerOrDigit.toLower_eq {c : Char} (lower : LowerOrDigit c) : c.toLower = c := by
  unfold Char.toLower
  split
  next upper =>
    simp only [LowerOrDigit,Char.le_def,UInt32.le_iff_toNat_le] at lower upper
    change 97 ≤ c.val.toNat ∧ c.val.toNat ≤ 122 ∨ 48 ≤ c.val.toNat ∧ c.val.toNat ≤ 57 at lower
    change 65 ≤ c.val.toNat ∧ c.val.toNat ≤ 90 at upper
    omega
  next => rfl

/-- Characters of labels that are no hyphens are letters and digits. -/
theorem normal_of_ends {s : List Char} (size : 1 ≤ s.length ∧ s.length ≤ 63)
    (plain : ∀ c ∈ s, c = '-' ∨ LowerOrDigit c) (apart : s.IsChain Apart)
    (front : '-' ∉ s.head?) (back : '-' ∉ s.getLast?) : Normal s where
  size := size
  plain := plain
  front c starts :=
    (plain c (List.mem_of_head? starts)).resolve_left fun same => front (same ▸ starts)
  back c ends := (plain c (List.mem_of_getLast? ends)).resolve_left fun same => back (same ▸ ends)
  apart := apart

theorem not_isAlphanum_hyphen : ('-').isAlphanum = false := by decide

theorem dropLast_eq (s : List Char) : dropLast s = s.rdropWhile (· == '-') := rfl

theorem hyphen_not_mem_getLast?_dropLast (s : List Char) : '-' ∉ (dropLast s).getLast? := by
  intro member
  rw [dropLast_eq] at member
  have nonempty : s.rdropWhile (· == '-') ≠ [] := by
    intro empty
    simp [empty] at member
  rw [List.getLast?_eq_some_getLast nonempty] at member
  exact List.rdropWhile_last_not _ s nonempty (by simpa using member)

theorem length_trimmed_le (s : List Char) : (trimmed s).length ≤ 63 :=
  (prefix_dropLast _).length_le.trans (List.length_take_le ..)

theorem trimmed_isInfix (s : List Char) : trimmed s <:+: s :=
  (prefix_trimmed s).isInfix.trans (List.dropWhile_suffix _).isInfix

theorem isChain_collapse (s : List Char) :
    (collapse false s).IsChain Apart ∧ ('-' :: collapse true s).IsChain Apart := by
  -- By induction on the text, after a hyphen and after anything else.
  induction s with
  | nil => exact ⟨.nil,.singleton _⟩
  | cons c rest ih =>
    simp only [collapse]
    split
    next alphanumeric =>
      have visible := (lowerOrDigit_toLower alphanumeric).ne_hyphen
      have whole : (c.toLower :: collapse false rest).IsChain Apart :=
        List.isChain_cons.mpr ⟨fun _ _ both => visible both.1,ih.1⟩
      exact ⟨whole,List.isChain_cons_cons.mpr ⟨fun both => visible both.2,whole⟩⟩
    next => exact ⟨ih.2,ih.2⟩

theorem toList_ofText (s : String) :
    ofText s = "x" ∨ (ofText s).toList = trimmed (collapse false s.toList) := by
  unfold ofText
  split
  next => exact .inl rfl
  next => exact .inr String.toList_ofList

theorem normal_x : Normal "x".toList where
  size := by decide
  plain := by simp [LowerOrDigit]
  front := by simp [LowerOrDigit]
  back := by simp [LowerOrDigit]
  apart := .singleton _

/-- Whatever a text holds, its label has the shape of one. -/
theorem normal_ofText (s : String) : Normal (ofText s).toList := by
  rcases toList_ofText s with short | label
  · rw [short]
    exact normal_x
  obtain ⟨first,rest,whole,front,tail⟩ := ofText_shape s
  refine normal_of_ends ⟨?_,?_⟩ ?_ ?_ ?_ ?_
  · simp [whole]
  · rw [label]
    exact length_trimmed_le _
  · rw [whole]
    exact List.forall_mem_cons.mpr ⟨.inr front,tail⟩
  · obtain ⟨before,behind,collapsed⟩ := trimmed_isInfix (collapse false s.toList)
    have apart := (isChain_collapse s.toList).1
    rw [← collapsed] at apart
    rw [label]
    exact apart.left_of_append.right_of_append
  · simpa [whole] using front.ne_hyphen
  · rw [label]
    exact hyphen_not_mem_getLast?_dropLast _

theorem collapse_eq_self {label : List Char} (plain : ∀ c ∈ label, c = '-' ∨ LowerOrDigit c)
    (apart : label.IsChain Apart) {hyphen : Bool} (front : hyphen = true → '-' ∉ label.head?) :
    collapse hyphen label = label := by
  induction label generalizing hyphen with
  | nil => rfl
  | cons c rest ih =>
    obtain ⟨kind,others⟩ := List.forall_mem_cons.mp plain
    obtain ⟨next,later⟩ := List.isChain_cons.mp apart
    rw [collapse]
    rcases kind with rfl | lower
    · have single : hyphen = false := by simpa using front
      rw [not_isAlphanum_hyphen,single]
      have tail : collapse true rest = rest :=
        ih others later fun _ again => next '-' again ⟨rfl,rfl⟩
      simpa using tail
    · have tail : collapse false rest = rest :=
        ih others later fun absent => absurd absent (by decide)
      rw [if_pos lower.isAlphanum,lower.toLower_eq,tail]

theorem dropLast_eq_self {label : List Char} (back : ∀ c ∈ label.getLast?, LowerOrDigit c) :
    dropLast label = label := by
  refine List.rdropWhile_eq_self_iff.mpr fun nonempty hyphen => ?_
  have last := back _ (List.getLast?_eq_some_getLast nonempty)
  exact last.ne_hyphen (by simpa using hyphen)

theorem trimmed_eq_self {label : List Char} (valid : Valid label) : trimmed label = label := by
  have front : label.dropWhile (· == '-') = label := by
    refine List.dropWhile_eq_self_iff.mpr fun nonempty hyphen => ?_
    have first := valid.front label[0] (by simp [List.head?_eq_getElem?])
    exact first.ne_hyphen (by simpa using hyphen)
  have whole : label.take maxLength = label := List.take_of_length_le valid.size.2
  unfold trimmed
  rw [front,dropLast_eq_self valid.back,whole,dropLast_eq_self valid.back]

theorem ofText_of_normal {s : String} (normal : Normal s.toList) : ofText s = s := by
  have collapsed : collapse false s.toList = s.toList :=
    collapse_eq_self normal.plain normal.apart fun absent => absurd absent (by decide)
  have same : trimmed (collapse false s.toList) = s.toList := by
    rw [collapsed,trimmed_eq_self normal.toValid]
  have nonempty : s.toList ≠ [] := List.ne_nil_of_length_pos normal.size.1
  unfold ofText
  rw [same]
  split
  next empty => exact absurd empty nonempty
  next => exact String.ofList_toList

/-- Every text has a label, a label is its own label, and nothing else is. -/
theorem ofText_retracts (s : String) :
    Normal (ofText s).toList ∧ ofText (ofText s) = ofText s ∧
      (ofText s = s ↔ Normal s.toList) := by
  have normal := normal_ofText s
  exact ⟨normal,ofText_of_normal normal,fun same => same ▸ normal,ofText_of_normal⟩

end ComposeToPodman.Target.Label
