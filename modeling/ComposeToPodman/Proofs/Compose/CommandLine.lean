import ComposeToPodman.Compose.CommandLine

/-! Reading a command line, one character after another, and command lines that are put together
from others. Where the first one is complete, a blank behind it keeps the words apart: nothing of the
first one, no character, quote or escape, reaches into the second one. -/
namespace ComposeToPodman.Compose

/-- Where a text ends: within a quote or outside of quotes, and on a backslash that has nothing to
escape or on anything else. -/
structure Place where
  quote : Option Char := none
  escaping : Bool := false
deriving DecidableEq, Repr

namespace Place

def advance : Place → Char → Place
  | ⟨quote,true⟩, _ => ⟨quote,false⟩
  | ⟨quote,false⟩, c =>
    if quote = some c then ⟨none,false⟩
    else if c = '\\' ∧ quote ≠ some '\'' then ⟨quote,true⟩
    else if quote = none ∧ (c = '\'' ∨ c = '"') then ⟨some c,false⟩
    else ⟨quote,false⟩

def atEnd (line : String) : Place := line.toList.foldl advance {}

end Place

namespace Words

variable {w : Words} {c q : Char}

@[simp] theorem read_nil (w : Words) : w.read [] = w := by rw [read.eq_def]

/-- What a character does, with the one behind it where that one is escaped. -/
theorem read_cons (w : Words) (c : Char) (rest : List Char) : w.read (c :: rest) =
    if w.quote = some c then { w with quote := none }.read rest
    else if c = '\\' ∧ w.quote ≠ some '\'' then
      match rest with
      | [] => { w with current := some (w.current.getD []) }
      | next :: rest => (w.add next).read rest
    else if w.quote.isSome then (w.add c).read rest
    else if c = '\'' ∨ c = '"' then
      { w with quote := some c, current := some (w.current.getD []) }.read rest
    else if Text.isBlank c then w.close.read rest
    else (w.add c).read rest :=
  read.eq_def w (c :: rest)

@[simp] theorem close_some (done : List (List Char)) (word : List Char) (quote : Option Char) :
    (⟨done,some word,quote⟩ : Words).close = ⟨word.reverse :: done,none,quote⟩ := rfl

theorem read_closing (within : w.quote = some q) (rest : List Char) :
    w.read (q :: rest) = { w with quote := none }.read rest := by
  rw [read_cons,if_pos within]

/-- Only between single quotes does a backslash stand for itself. -/
theorem read_escape (escapes : w.quote = none ∨ w.quote = some '"') (next : Char) (rest : List Char) :
    w.read ('\\' :: next :: rest) = (w.add next).read rest := by
  rw [read_cons]
  rcases escapes with none | double
  · simp [none]
  · simp [double]

theorem read_quoted (within : w.quote = some q) (other : c ≠ q) (plain : c = '\\' → q = '\'')
    (rest : List Char) : w.read (c :: rest) = (w.add c).read rest := by
  rw [read_cons]
  by_cases slash : c = '\\'
  · simp [within,slash,plain slash]
  · simp [within,slash,Ne.symm other]

theorem read_opening (bare : w.quote = none) (quote : c = '\'' ∨ c = '"') (rest : List Char) :
    w.read (c :: rest) =
      { w with quote := some c, current := some (w.current.getD []) }.read rest := by
  rw [read_cons]
  rcases quote with rfl | rfl <;> simp [bare]

theorem read_blank (bare : w.quote = none) (blank : Text.isBlank c = true) (rest : List Char) :
    w.read (c :: rest) = w.close.read rest := by
  have other (sign : Char) (visible : Text.isBlank sign = false) : c ≠ sign := by
    rintro rfl
    simp [visible] at blank
  rw [read_cons]
  simp [bare,blank,other '\\' rfl,other '\'' rfl,other '"' rfl]

theorem read_letter (bare : w.quote = none) (visible : Text.isBlank c = false) (escape : c ≠ '\\')
    (single : c ≠ '\'') (double : c ≠ '"') (rest : List Char) :
    w.read (c :: rest) = (w.add c).read rest := by
  rw [read_cons]
  simp [bare,visible,escape,single,double]

theorem quote_close (w : Words) : w.close.quote = w.quote := by
  obtain ⟨done,current,quote⟩ := w
  cases current <;> rfl

/-- A text that is complete may be read first and what follows it later. -/
theorem read_append {w : Words} {a : List Char}
    (paired : (a.foldl Place.advance ⟨w.quote,false⟩).escaping = false) (b : List Char) :
    w.read (a ++ b) = (w.read a).read b ∧
      (w.read a).quote = (a.foldl Place.advance ⟨w.quote,false⟩).quote := by
  -- By induction on the text, from wherever it is read: the place is that of the words so far.
  fun_induction Words.read w a with
  | case1 => exact ⟨rfl,rfl⟩
  | case2 w c rest closes ih =>
    rw [List.foldl_cons,Place.advance,if_pos closes] at paired ⊢
    rw [List.cons_append,read_cons,if_pos closes]
    exact ih paired
  | case3 w c other escapes =>
    rw [List.foldl_cons,Place.advance,if_neg other,if_pos escapes] at paired
    cases paired
  | case4 w c other escapes next rest ih =>
    rw [List.foldl_cons,Place.advance,if_neg other,if_pos escapes] at paired ⊢
    rw [List.cons_append,List.cons_append,read_cons,if_neg other,if_pos escapes]
    exact ih paired
  | case5 w c rest other plain inside ih =>
    have quoted : ¬(w.quote = none ∧ (c = '\'' ∨ c = '"')) := by
      rintro ⟨bare,-⟩
      simp [bare] at inside
    rw [List.foldl_cons,Place.advance,if_neg other,if_neg plain,if_neg quoted] at paired ⊢
    rw [List.cons_append,read_cons,if_neg other,if_neg plain,if_pos inside]
    exact ih paired
  | case6 w c rest other plain outside opens ih =>
    have bare : w.quote = none := by simpa using outside
    rw [List.foldl_cons,Place.advance,if_neg other,if_neg plain,if_pos ⟨bare,opens⟩] at paired ⊢
    rw [List.cons_append,read_cons,if_neg other,if_neg plain,if_neg outside,if_pos opens]
    exact ih paired
  | case7 w c rest other plain outside letter blank ih =>
    have unquoted : ¬(w.quote = none ∧ (c = '\'' ∨ c = '"')) := fun opens => letter opens.2
    rw [List.foldl_cons,Place.advance,if_neg other,if_neg plain,if_neg unquoted] at paired ⊢
    rw [List.cons_append,read_cons,if_neg other,if_neg plain,if_neg outside,if_neg letter,
      if_pos blank]
    rw [quote_close] at ih
    exact ih paired
  | case8 w c rest other plain outside letter visible ih =>
    have unquoted : ¬(w.quote = none ∧ (c = '\'' ∨ c = '"')) := fun opens => letter opens.2
    rw [List.foldl_cons,Place.advance,if_neg other,if_neg plain,if_neg unquoted] at paired ⊢
    rw [List.cons_append,read_cons,if_neg other,if_neg plain,if_neg outside,if_neg letter,
      if_neg visible]
    exact ih paired

/-- The same words, with others in front of them. -/
def after (w : Words) (earlier : List (List Char)) : Words := { w with done := w.done ++ earlier }

theorem close_after (w : Words) (earlier : List (List Char)) :
    (w.after earlier).close = w.close.after earlier := by
  obtain ⟨done,current,quote⟩ := w
  cases current <;> rfl

theorem quote_after (w : Words) (earlier : List (List Char)) : (w.after earlier).quote = w.quote :=
  rfl

/-- Words that are finished are not looked at again. -/
theorem read_after (w : Words) (earlier : List (List Char)) (s : List Char) :
    (w.after earlier).read s = (w.read s).after earlier := by
  fun_induction Words.read w s with
  | case1 => exact read_nil _
  | case2 w c rest closes ih =>
    rw [read_cons,quote_after,if_pos closes]
    exact ih
  | case3 w c other escapes =>
    rw [read_cons,quote_after,if_neg other,if_pos escapes]
    rfl
  | case4 w c other escapes next rest ih =>
    rw [read_cons,quote_after,if_neg other,if_pos escapes]
    exact ih
  | case5 w c rest other plain inside ih =>
    rw [read_cons,quote_after,if_neg other,if_neg plain,if_pos inside]
    exact ih
  | case6 w c rest other plain outside opens ih =>
    rw [read_cons,quote_after,if_neg other,if_neg plain,if_neg outside,if_pos opens]
    exact ih
  | case7 w c rest other plain outside letter blank ih =>
    rw [read_cons,quote_after,if_neg other,if_neg plain,if_neg outside,if_neg letter,if_pos blank,
      close_after]
    exact ih
  | case8 w c rest other plain outside letter visible ih =>
    rw [read_cons,quote_after,if_neg other,if_neg plain,if_neg outside,if_neg letter,
      if_neg visible]
    exact ih

/-- Between two words, outside of quotes, nothing but the finished words is left. -/
theorem close_eq_after {w : Words} (outside : w.quote = none) :
    w.close = ({} : Words).after w.close.done := by
  obtain ⟨done,current,quote⟩ := w
  cases current <;> simp_all [close,after]

theorem toList_after (w : Words) (earlier : List (List Char)) :
    (w.after earlier).toList = earlier.reverse.map String.ofList ++ w.toList := by
  unfold toList
  rw [close_after]
  simp [after]

end Words

/-- A blank behind a line that is complete keeps the words of two lines apart. -/
theorem splitCommand_append {a : String} (outside : (Place.atEnd a).quote = none)
    (paired : (Place.atEnd a).escaping = false) {blank : Char} (white : Text.isBlank blank = true)
    (b : String) :
    splitCommand (a ++ String.singleton blank ++ b) = splitCommand a ++ splitCommand b := by
  let first : Words := Words.read {} a.toList
  obtain ⟨joined,quote⟩ := Words.read_append (w := {}) (a := a.toList) paired (blank :: b.toList)
  have bare : first.quote = none := quote.trans outside
  have whole : Words.read {} (a ++ String.singleton blank ++ b).toList =
      (Words.read {} b.toList).after first.close.done := by
    calc Words.read {} (a ++ String.singleton blank ++ b).toList
        = Words.read {} (a.toList ++ blank :: b.toList) := by simp
      _ = first.read (blank :: b.toList) := joined
      _ = first.close.read b.toList := Words.read_blank bare white _
      _ = (({} : Words).after first.close.done).read b.toList := by
        rw [← Words.close_eq_after bare]
      _ = (Words.read {} b.toList).after first.close.done := Words.read_after ..
  unfold splitCommand
  rw [whole,Words.toList_after]
  rfl

/-- An escaped blank and quoted ones on either side, with an ideographic space between the lines. -/
theorem splitCommand_append_shell :
    (Place.atEnd "sh -c 'a  b' c\\ d").quote = none ∧
      (Place.atEnd "sh -c 'a  b' c\\ d").escaping = false ∧ Text.isBlank '\u3000' = true ∧
      splitCommand ("sh -c 'a  b' c\\ d" ++ String.singleton '\u3000' ++ "\"e f\" g") =
        ["sh","-c","a  b","c d"] ++ ["e f","g"] := by
  have outside : (Place.atEnd "sh -c 'a  b' c\\ d").quote = none := by decide +kernel
  have paired : (Place.atEnd "sh -c 'a  b' c\\ d").escaping = false := by decide +kernel
  refine ⟨outside,paired,rfl,(splitCommand_append outside paired rfl _).trans ?_⟩
  decide +kernel

end ComposeToPodman.Compose
