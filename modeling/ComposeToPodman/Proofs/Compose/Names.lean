import ComposeToPodman.Compose.Read.Document

/-! The pattern of the names of services, networks and volumes. -/
namespace ComposeToPodman.Compose

/-- `[a-zA-Z0-9]`. -/
def LetterOrDigit (c : Char) : Prop :=
  'a' ≤ c ∧ c ≤ 'z' ∨ 'A' ≤ c ∧ c ≤ 'Z' ∨ '0' ≤ c ∧ c ≤ '9'

/-- `[a-zA-Z0-9][a-zA-Z0-9_.-]*`. -/
def MatchesName (s : String) : Prop :=
  ∃ first rest, s.toList = first :: rest ∧ LetterOrDigit first ∧
    ∀ c ∈ rest, LetterOrDigit c ∨ c = '_' ∨ c = '.' ∨ c = '-'

theorem isAlpha_iff (c : Char) :
    c.isAlpha = true ↔ 'A' ≤ c ∧ c ≤ 'Z' ∨ 'a' ≤ c ∧ c ≤ 'z' := by
  have upper : c.isUpper = true ↔ 'A' ≤ c ∧ c ≤ 'Z' := decide_eq_true_iff
  have lower : c.isLower = true ↔ 'a' ≤ c ∧ c ≤ 'z' := by
    refine (Bool.and_eq_true _ _).to_iff.trans ?_
    exact and_congr decide_eq_true_iff decide_eq_true_iff
  change (c.isUpper || c.isLower) = true ↔ _
  rw [Bool.or_eq_true,upper,lower]

theorem isAlphanum_iff (c : Char) : c.isAlphanum = true ↔ LetterOrDigit c := by
  have digit : c.isDigit = true ↔ '0' ≤ c ∧ c ≤ '9' := by
    refine (Bool.and_eq_true _ _).to_iff.trans ?_
    exact and_congr decide_eq_true_iff decide_eq_true_iff
  change (c.isAlpha || c.isDigit) = true ↔ _
  rw [Bool.or_eq_true,isAlpha_iff,digit,LetterOrDigit,or_assoc,or_left_comm]

theorem isName_iff (s : String) : isName s = true ↔ MatchesName s := by
  unfold isName MatchesName
  cases s.toList with
  | nil => simp
  | cons first rest =>
    have test : (first.isAlphanum && rest.all fun c =>
          c.isAlphanum || c == '_' || c == '.' || c == '-') = true ↔
        LetterOrDigit first ∧ ∀ c ∈ rest, LetterOrDigit c ∨ c = '_' ∨ c = '.' ∨ c = '-' := by
      simp [isAlphanum_iff,or_assoc]
    rw [test]
    constructor
    · intro shaped
      exact ⟨first,rest,rfl,shaped⟩
    · rintro ⟨_,_,whole,shaped⟩
      obtain ⟨rfl,rfl⟩ := List.cons.inj whole
      exact shaped

/-- Other characters are in no name. -/
theorem not_mem_of_isName {name : String} (named : isName name = true) {c : Char}
    (other : ¬(LetterOrDigit c ∨ c = '_' ∨ c = '.' ∨ c = '-')) : c ∉ name.toList := by
  obtain ⟨first,rest,whole,head,tail⟩ := (isName_iff name).mp named
  rw [whole]
  intro member
  rcases List.mem_cons.mp member with rfl | inside
  · exact other (.inl head)
  · exact other (tail c inside)

instance (s : String) : Decidable (MatchesName s) := decidable_of_iff _ (isName_iff s)

end ComposeToPodman.Compose
