import ComposeToPodman.Compose.Document
import ComposeToPodman.Proofs.Text

/-! Tokens of restart policies and network modes: each is read from its text, and whatever is read
has such a text. -/
namespace ComposeToPodman.Compose

namespace RestartPolicy

/-- The number of retries is one that can be read. -/
def Bounded (p : RestartPolicy) : Prop := ∀ n, p = onFailure (some n) → n ≤ 0xffffffff

theorem trim_retries (n : Nat) :
    Text.trim ("on-failure:" ++ toString n) = "on-failure:" ++ toString n := by
  refine Text.trim_eq_self ?_
  rw [String.toList_append]
  refine Text.Trimmed.append (.of_visible rfl) (.of_all fun c member => ?_) (by decide) ?_
  · rw [Nat.toString_eq_ofList_toDigits,String.toList_ofList] at member
    exact Text.isBlank_eq_false_of_isDecimal
      (Text.isDecimal_of_isDigit (Text.isDigit_of_mem_toDigits member))
  · simp

theorem ofText?_text {p : RestartPolicy} (bounded : p.Bounded) : ofText? p.text = some p := by
  cases p with
  | no | always | unlessStopped => decide
  | onFailure retries =>
    cases retries with
    | none => decide
    | some n =>
      have digits := Text.boundedNatural?_toDigits (bounded n rfl)
      unfold ofText? text
      rw [trim_retries]
      -- The text is longer than each of the fixed tokens.
      split
      case h_6 => simp [Text.afterText?_append,digits]
      all_goals
        next same => simpa using congrArg String.toList same

theorem bounded_of_ofText? {s : String} {p : RestartPolicy} (read : ofText? s = some p) :
    p.Bounded := by
  rintro n rfl
  unfold ofText? at read
  split at read
  case h_6 =>
    obtain ⟨digits,_,read⟩ := Option.bind_eq_some_iff.mp read
    obtain ⟨m,number,same⟩ := Option.bind_eq_some_iff.mp read
    obtain rfl : m = n := by simpa using same
    exact Text.le_of_boundedNatural?_eq_some number
  all_goals simp at read

end RestartPolicy

namespace NetworkMode

/-- A service whose namespace is joined has a name, and the token is one that can be read. -/
structure Readable (m : NetworkMode) : Prop where
  named : ∀ service, m = container service → service ≠ ""
  trimmed : Text.trim m.text = m.text

theorem ofText?_text {m : NetworkMode} (readable : m.Readable) : ofText? m.text = some m := by
  cases m with
  | host | none | bridge => decide
  | container service =>
    have named := readable.named service rfl
    have trimmed := readable.trimmed
    unfold ofText?
    rw [trimmed]
    unfold text
    split
    case h_4 => simp [Text.afterText?_append,named]
    all_goals
      next same => simpa using congrArg String.toList same

theorem readable_of_ofText? {s : String} {m : NetworkMode} (read : ofText? s = some m) :
    m.Readable := by
  unfold ofText? at read
  split at read
  case h_4 =>
    split at read
    case h_2 => cases read
    next name found =>
    split at read
    case isTrue => cases read
    next named =>
    obtain rfl := Option.some.inj read
    have nonempty : name.toList ≠ [] := by simpa using named
    refine ⟨by rintro _ ⟨⟩; simpa using named,Text.trim_eq_self ?_⟩
    -- The token is trimmed, and the name is what it ends in.
    have token := Text.trimmed_trim s
    rw [text,String.toList_append]
    rcases Option.or_eq_some_iff.mp found with long | ⟨_,short⟩
    · rw [← Text.afterText?_eq_some_iff.mp long,String.toList_append] at token
      exact token
    · rw [← Text.afterText?_eq_some_iff.mp short,String.toList_append] at token
      exact token.replace_front nonempty (.of_visible rfl) (by decide)
  all_goals
    obtain rfl := Option.some.inj read
    exact ⟨by simp,by decide⟩

end NetworkMode

end ComposeToPodman.Compose
