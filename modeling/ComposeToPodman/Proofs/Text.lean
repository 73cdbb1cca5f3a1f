import ComposeToPodman.Text.Basic
import Mathlib.Data.List.Basic
import Mathlib.Data.List.TakeWhile

/-! Laws of texts. Cutting a text gives back what was joined, as long as the parts are free of the
separator. Trimming gives texts without blanks at either end, and leaves them alone. A number is read
back from its digits, and a numeral holds nothing that could be taken for punctuation or a blank. -/
namespace ComposeToPodman.Text

theorem cut?_eq_none_iff {sep : Char} {s : List Char} : cut? sep s = none ↔ sep ∉ s := by
  induction s with
  | nil => exact iff_of_true rfl List.not_mem_nil
  | cons c rest ih =>
    rw [cut?,List.mem_cons,not_or]
    split
    next same => simp [same]
    next other => simp [ih,Ne.symm other]

theorem cut?_append_cons {sep : Char} {before : List Char} (absent : sep ∉ before)
    (after : List Char) : cut? sep (before ++ sep :: after) = some (before,after) := by
  induction before with
  | nil => simp [cut?]
  | cons c rest ih =>
    rw [List.mem_cons,not_or] at absent
    simp [cut?,Ne.symm absent.1,ih absent.2]

/-- What is cut are the text before the separator, which does not have it, and the text behind. -/
theorem cut?_eq_some_iff {sep : Char} {s before after : List Char} :
    cut? sep s = some (before,after) ↔ s = before ++ sep :: after ∧ sep ∉ before := by
  refine ⟨fun cut => ?_,?_⟩
  · induction s generalizing before with
    | nil => cases cut
    | cons c rest ih =>
      rw [cut?] at cut
      split at cut
      next same =>
        obtain ⟨rfl,rfl⟩ := Prod.mk.inj (Option.some.inj cut)
        exact ⟨same ▸ rfl,List.not_mem_nil⟩
      next other =>
        obtain ⟨⟨head,tail⟩,inner,same⟩ := Option.map_eq_some_iff.mp cut
        obtain ⟨rfl,rfl⟩ := Prod.mk.inj same
        obtain ⟨whole,absent⟩ := ih inner
        exact ⟨whole ▸ rfl,List.not_mem_cons_of_ne_of_not_mem (Ne.symm other) absent⟩
  · rintro ⟨rfl,absent⟩
    exact cut?_append_cons absent after

/-- A character of a joined text is a separator between two of its parts or stands in one of them. -/
theorem mem_intercalate_iff {sep c : Char} {l : List (List Char)} :
    c ∈ [sep].intercalate l ↔ (c = sep ∧ 1 < l.length) ∨ ∃ part ∈ l, c ∈ part := by
  induction l with
  | nil => simp
  | cons part rest ih =>
    cases rest with
    | nil => simp
    | cons next rest =>
      have long : 1 < (part :: next :: rest).length := by simp
      have parts : (∃ p ∈ part :: next :: rest, c ∈ p) ↔ c ∈ part ∨ ∃ p ∈ next :: rest, c ∈ p :=
        List.exists_mem_cons_iff _ _ _
      rw [List.intercalate_cons_cons,List.append_assoc,List.singleton_append,List.mem_append,
        List.mem_cons,ih,parts,and_iff_left long]
      tauto

theorem mem_splitOn_of_mem (sep : Char) {s : List Char} {c : Char} (member : c ∈ s) :
    c = sep ∨ ∃ part ∈ s.splitOn sep, c ∈ part := by
  have whole : [sep].intercalate (s.splitOn sep) = s := List.intercalate_splitOn sep
  rw [← whole] at member
  exact (mem_intercalate_iff.mp member).imp_left And.left

theorem mem_of_mem_splitOn {sep c : Char} {s part : List Char} (among : part ∈ s.splitOn sep)
    (member : c ∈ part) : c ∈ s := by
  have whole : [sep].intercalate (s.splitOn sep) = s := List.intercalate_splitOn sep
  rw [← whole]
  exact mem_intercalate_iff.mpr (.inr ⟨part,among,member⟩)

theorem not_mem_of_mem_splitOn {sep : Char} {s part : List Char} (among : part ∈ s.splitOn sep) :
    sep ∉ part := by
  induction s generalizing part with
  | nil => simp [List.mem_singleton.mp among]
  | cons c rest ih =>
    rw [List.splitOn_cons_eq_if_modifyHead] at among
    split at among
    next =>
      rcases List.mem_cons.mp among with rfl | among
      · exact List.not_mem_nil
      · exact ih among
    next other =>
      obtain ⟨head,tail,cut⟩ := List.exists_cons_of_ne_nil (List.splitOn_ne_nil sep rest)
      rw [cut,List.modifyHead_cons] at among
      rcases List.mem_cons.mp among with rfl | among
      · have apart : sep ≠ c := fun same => other (by simp [same])
        exact List.not_mem_cons_of_ne_of_not_mem apart (ih (cut ▸ List.mem_cons_self))
      · exact ih (cut ▸ List.mem_cons_of_mem head among)

theorem afterText?_eq_some_iff {beginning s rest : String} :
    afterText? beginning s = some rest ↔ beginning ++ rest = s := by
  rw [afterText?,Option.map_eq_some_iff,← String.toList_inj,String.toList_append]
  simp only [List.isPrefixOf?_eq_some_iff_append_eq]
  constructor
  · rintro ⟨tail,whole,rfl⟩
    rw [String.toList_ofList,whole]
  · intro whole
    exact ⟨rest.toList,whole,String.ofList_toList⟩

theorem afterText?_append (beginning rest : String) :
    afterText? beginning (beginning ++ rest) = some rest := afterText?_eq_some_iff.mpr rfl

/-- Neither the first character nor the last is a blank. -/
structure Trimmed (s : List Char) : Prop where
  head : ∀ c, s.head? = some c → isBlank c = false
  last : ∀ c, s.getLast? = some c → isBlank c = false

theorem isBlank_head_dropWhile {s : List Char} {c : Char}
    (head : (s.dropWhile isBlank).head? = some c) : isBlank c = false := by
  have := List.head?_dropWhile_not isBlank s
  rw [head] at this
  simpa using this

/-- Behind the blanks in front, trimming only cuts off an end. -/
theorem trimChars_append (s : List Char) :
    ∃ cut, trimChars s ++ cut = s.dropWhile isBlank := by
  have := List.reverse_prefix.mpr
    (List.dropWhile_suffix isBlank (l := (s.dropWhile isBlank).reverse))
  rwa [List.reverse_reverse] at this

theorem mem_of_mem_trimChars {s : List Char} {c : Char} (member : c ∈ trimChars s) : c ∈ s := by
  obtain ⟨cut,whole⟩ := trimChars_append s
  have inside : c ∈ s.dropWhile isBlank := whole ▸ List.mem_append_left cut member
  exact (List.dropWhile_sublist isBlank).subset inside

theorem head?_dropWhile_of_trimChars {s : List Char} {c : Char}
    (head : (trimChars s).head? = some c) : (s.dropWhile isBlank).head? = some c := by
  obtain ⟨cut,whole⟩ := trimChars_append s
  rw [← whole,List.head?_append,head]
  rfl

theorem trimmed_trimChars (s : List Char) : Trimmed (trimChars s) := by
  constructor
  · intro c head
    exact isBlank_head_dropWhile (head?_dropWhile_of_trimChars head)
  · intro c last
    rw [trimChars,List.getLast?_reverse] at last
    exact isBlank_head_dropWhile last

theorem dropWhile_isBlank {s : List Char} (head : ∀ c, s.head? = some c → isBlank c = false) :
    s.dropWhile isBlank = s := by
  cases s with
  | nil => rfl
  | cons c rest => simp [head c rfl]

theorem Trimmed.trimChars_eq {s : List Char} (trimmed : Trimmed s) : trimChars s = s := by
  have ends : ∀ c, s.reverse.head? = some c → isBlank c = false := by
    simpa using trimmed.last
  rw [trimChars,dropWhile_isBlank trimmed.head,dropWhile_isBlank ends,List.reverse_reverse]

theorem Trimmed.of_all {s : List Char} (all : ∀ c ∈ s, isBlank c = false) : Trimmed s :=
  ⟨fun c head => all c (List.mem_of_head? head),fun c last => all c (List.mem_of_getLast? last)⟩

theorem Trimmed.of_visible {s : List Char} (visible : s.all (!isBlank ·) = true) : Trimmed s :=
  .of_all (by simpa using visible)

/-- The first character of one text and the last of another. -/
theorem Trimmed.append {s t : List Char} (first : Trimmed s) (second : Trimmed t) (left : s ≠ [])
    (right : t ≠ []) : Trimmed (s ++ t) := by
  constructor
  · intro c head
    obtain ⟨a,rest,rfl⟩ := List.exists_cons_of_ne_nil left
    exact first.head c head
  · intro c last
    exact second.last c (List.getLast?_append_of_ne_nil s right ▸ last)

/-- Another beginning that is no blank can take the place of the one a trimmed text has. -/
theorem Trimmed.replace_front {s t u : List Char} (trimmed : Trimmed (s ++ t)) (right : t ≠ [])
    (front : Trimmed u) (left : u ≠ []) : Trimmed (u ++ t) := by
  constructor
  · intro c head
    obtain ⟨a,rest,rfl⟩ := List.exists_cons_of_ne_nil left
    exact front.head c head
  · intro c last
    exact trimmed.last c (by rwa [List.getLast?_append_of_ne_nil _ right] at last ⊢)

theorem trim_eq_self {s : String} (trimmed : Trimmed s.toList) : trim s = s := by
  rw [trim,trimmed.trimChars_eq,String.ofList_toList]

theorem trimmed_trim (s : String) : Trimmed (trim s).toList := by
  rw [trim,String.toList_ofList]
  exact trimmed_trimChars _

theorem trimmed_of_trim_eq {s : String} (same : trim s = s) : Trimmed s.toList :=
  same ▸ trimmed_trim s

theorem trimChars_eq_nil_iff (s : List Char) : trimChars s = [] ↔ ∀ c ∈ s, isBlank c = true := by
  unfold trimChars
  rw [List.reverse_eq_nil_iff,List.dropWhile_eq_nil_iff]
  constructor
  · intro blank
    rw [← List.dropWhile_eq_nil_iff]
    cases remaining : s.dropWhile isBlank with
    | nil => rfl
    | cons c rest =>
      have visible : isBlank c = false := isBlank_head_dropWhile (congrArg List.head? remaining)
      have blank := blank c (by simp [remaining])
      exact absurd (blank.symm.trans visible) (by simp)
  · intro blank c member
    exact blank c (List.dropWhile_sublist _ |>.subset (List.mem_reverse.mp member))

theorem trim_eq_empty_iff (s : String) : trim s = "" ↔ allBlank s = true := by
  rw [trim,allBlank,List.all_eq_true,← trimChars_eq_nil_iff,← String.toList_inj]
  simp

/-- Up to ten the digits are those of ASCII, and then letters of either case. -/
theorem digitValue_eq_some_iff {base d : Nat} {c : Char} (within : base ≤ 16) :
    digitValue base c = some d ↔ d < base ∧
      (d < 10 ∧ c.toNat = d + 48 ∨ 10 ≤ d ∧ (c.toNat = d + 87 ∨ c.toNat = d + 55)) := by
  have digit : ('0' ≤ c ∧ c ≤ '9') ↔ 48 ≤ c.toNat ∧ c.toNat ≤ 57 := Iff.rfl
  have lower : ('a' ≤ c ∧ c ≤ 'f') ↔ 97 ≤ c.toNat ∧ c.toNat ≤ 102 := Iff.rfl
  have capital : ('A' ≤ c ∧ c ≤ 'F') ↔ 65 ≤ c.toNat ∧ c.toNat ≤ 70 := Iff.rfl
  simp only [digitValue,digit,lower,capital,Option.ite_none_right_eq_some,Option.some.injEq]
  repeat' split
  all_goals omega

/-- The digits of ASCII are decimal digits with the values they have everywhere. -/
theorem digitValue_eq_of_isDigit {c : Char} (digit : c.isDigit = true) :
    digitValue 10 c = some (c.toNat - 48) := by
  have bounds : 48 ≤ c.toNat ∧ c.toNat ≤ 57 := Char.isDigit_iff_toNat.mp digit
  exact (digitValue_eq_some_iff (by decide)).mpr (by omega)

theorem naturalFrom_eq {digits : List Char} (decimal : ∀ c ∈ digits, c.isDigit = true)
    (value : Nat) :
    naturalFrom 10 value digits = some (Nat.ofDigitChars 10 digits value) := by
  induction digits generalizing value with
  | nil => simp [naturalFrom]
  | cons c rest ih =>
    rw [naturalFrom,digitValue_eq_of_isDigit (decimal c List.mem_cons_self),Option.bind_some,
      ih fun d member => decimal d (List.mem_cons_of_mem _ member),Nat.ofDigitChars_cons,
      Nat.mul_comm]
    rfl

theorem isDigit_of_digitValue {c : Char} {d : Nat} (found : digitValue 10 c = some d) :
    c.isDigit = true := by
  have told := (digitValue_eq_some_iff (by decide)).mp found
  have bounds : 48 ≤ c.toNat ∧ c.toNat ≤ 57 := by omega
  exact Char.isDigit_iff_toNat.mpr bounds

theorem isDigit_of_naturalFrom {digits : List Char} {value n : Nat}
    (read : naturalFrom 10 value digits = some n) : ∀ c ∈ digits, c.isDigit = true := by
  induction digits generalizing value with
  | nil => exact List.forall_mem_nil _
  | cons c rest ih =>
    obtain ⟨d,found,read⟩ := Option.bind_eq_some_iff.mp read
    exact List.forall_mem_cons.mpr ⟨isDigit_of_digitValue found,ih read⟩

/-- Only digits of ASCII have a value. -/
theorem natural?_eq_some_iff {digits : List Char} {n : Nat} : natural? 10 digits = some n ↔
    digits ≠ [] ∧ (∀ c ∈ digits, c.isDigit = true) ∧ Nat.ofDigitChars 10 digits 0 = n := by
  cases digits with
  | nil => simp [natural?]
  | cons c rest =>
    rw [natural?.eq_2 _ _ (List.cons_ne_nil c rest)]
    constructor
    · intro read
      have decimal := isDigit_of_naturalFrom read
      rw [naturalFrom_eq decimal] at read
      exact ⟨List.cons_ne_nil c rest,decimal,Option.some.inj read⟩
    · rintro ⟨_,decimal,rfl⟩
      exact naturalFrom_eq decimal 0

theorem isDigit_of_mem_toDigits {n : Nat} {c : Char} (member : c ∈ Nat.toDigits 10 n) :
    c.isDigit = true := Nat.isDigit_of_mem_toDigits (by decide) (by decide) member

theorem natural?_toDigits (n : Nat) : natural? 10 (Nat.toDigits 10 n) = some n := by
  unfold natural?
  split
  next empty => exact absurd empty Nat.toDigits_ne_nil
  next =>
    rw [naturalFrom_eq fun _ => isDigit_of_mem_toDigits,Nat.ofDigitChars_ten_toDigits]

theorem boundedNatural?_toDigits {bound n : Nat} (fits : n ≤ bound) :
    boundedNatural? bound (Nat.toDigits 10 n) = some n := by
  unfold boundedNatural?
  split
  next rest plus =>
    have member : '+' ∈ Nat.toDigits 10 n := plus ▸ List.mem_cons_self
    exact absurd (isDigit_of_mem_toDigits member) (by decide)
  next => simp [natural?_toDigits,fits]

theorem le_of_boundedNatural?_eq_some {bound n : Nat} {digits : List Char}
    (read : boundedNatural? bound digits = some n) : n ≤ bound := by
  simpa using (Option.filter_eq_some_iff.mp read).2

theorem isDecimal_of_isDigit {c : Char} (digit : c.isDigit = true) : isDecimal c = true := by
  obtain ⟨lower,upper⟩ : 48 ≤ c.toNat ∧ c.toNat ≤ 57 := Char.isDigit_iff_toNat.mp digit
  simp only [isDecimal,digitZeros,List.any_cons,Bool.or_eq_true,Bool.and_eq_true,decide_eq_true_eq]
  exact .inl ⟨lower,by omega⟩

/-- Decimal digits lie in runs of ten, the first of ASCII and all others far above it. -/
theorem bounds_of_isDecimal {c : Char} (decimal : isDecimal c = true) :
    48 ≤ c.toNat ∧ (c.toNat ≤ 57 ∨ 0x660 ≤ c.toNat) := by
  obtain ⟨start,member,range⟩ := List.any_eq_true.mp decimal
  simp only [Bool.and_eq_true,decide_eq_true_eq] at range
  have starts : ∀ start ∈ digitZeros, start = 48 ∨ 0x660 ≤ start := by decide
  rcases starts start member with rfl | later <;> omega

theorem isSome_digitValue_iff {c : Char} : (digitValue 16 c).isSome = true ↔
    '0' ≤ c ∧ c ≤ '9' ∨ 'A' ≤ c ∧ c ≤ 'F' ∨ 'a' ≤ c ∧ c ≤ 'f' := by
  change _ ↔ 48 ≤ c.toNat ∧ c.toNat ≤ 57 ∨ 65 ≤ c.toNat ∧ c.toNat ≤ 70 ∨
    97 ≤ c.toNat ∧ c.toNat ≤ 102
  simp only [Option.isSome_iff_exists,digitValue_eq_some_iff (Nat.le_refl 16)]
  constructor
  · rintro ⟨d,told⟩
    omega
  · rintro (digit | capital | lower)
    · exact ⟨c.toNat - 48,by omega⟩
    · exact ⟨c.toNat - 55,by omega⟩
    · exact ⟨c.toNat - 87,by omega⟩

theorem bounds_of_digitValue {c : Char} (digit : (digitValue 16 c).isSome = true) :
    48 ≤ c.toNat ∧ c.toNat ≤ 102 := by
  obtain ⟨d,found⟩ := Option.isSome_iff_exists.mp digit
  have told := (digitValue_eq_some_iff (Nat.le_refl 16)).mp found
  omega

theorem bounds_of_isBlank {c : Char} (blank : isBlank c = true) :
    c.toNat ≤ 32 ∨ c.toNat = 0x85 ∨ c.toNat = 0xa0 ∨ c.toNat = 0x1680 ∨
      (0x2000 ≤ c.toNat ∧ c.toNat ≤ 0x3000) := by
  simp only [isBlank,Bool.or_eq_true,Bool.and_eq_true,beq_iff_eq,decide_eq_true_eq,Char.le_def,
    UInt32.le_iff_toNat_le] at blank
  rcases blank with (((((((((rfl | low) | rfl) | rfl) | rfl) | wide) | rfl) | rfl) | rfl) | rfl) | rfl
  · decide
  · have : c.toNat ≤ 13 := low.2
    omega
  · decide
  · decide
  · decide
  · have lower : 0x2000 ≤ c.toNat := wide.1
    have upper : c.toNat ≤ 0x200a := wide.2
    omega
  all_goals decide

/-- No decimal digit of any script is a blank. -/
theorem isBlank_eq_false_of_isDecimal {c : Char} (decimal : isDecimal c = true) :
    isBlank c = false := by
  obtain ⟨start,member,range⟩ := List.any_eq_true.mp decimal
  simp only [Bool.and_eq_true,decide_eq_true_eq] at range
  have gaps : ∀ start ∈ digitZeros, 32 < start ∧ (start + 10 ≤ 0x85 ∨ 0x85 < start) ∧
      (start + 10 ≤ 0xa0 ∨ 0xa0 < start) ∧ (start + 10 ≤ 0x1680 ∨ 0x1680 < start) ∧
      (start + 10 ≤ 0x2000 ∨ 0x3000 < start) := by decide
  have apart := gaps start member
  cases blank : isBlank c with
  | false => rfl
  | true =>
    have := bounds_of_isBlank blank
    omega

end ComposeToPodman.Text
