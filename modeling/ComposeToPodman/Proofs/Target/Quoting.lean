import ComposeToPodman.Proofs.Compose.CommandLine
import ComposeToPodman.Target.UnitFile

/-! Command lines of unit files. Splitting one gives back the words that were quoted, as many as there
were and cut where they were, with the signs doubled that systemd would expand. -/
namespace ComposeToPodman.Target.UnitFile

open Compose (Words splitCommand)

/-- A word whose dollar and per cent signs stand for themselves. -/
def doubled (word : String) : String :=
  String.ofList (word.toList.flatMap fun c => if c = '$' ∨ c = '%' then [c,c] else [c])

/-- The text that stands between double quotes for another. -/
def escaped (s : List Char) : List Char :=
  s.flatMap fun c => if c = '\\' ∨ c = '"' then ['\\',c] else [c]

theorem toList_replaceChar (c : Char) (replacement s : String) :
    (Text.replaceChar c replacement s).toList =
      s.toList.flatMap fun a => if a = c then replacement.toList else [a] :=
  String.toList_ofList

theorem toList_doubled (word : String) :
    (doubled word).toList = word.toList.flatMap fun c => if c = '$' ∨ c = '%' then [c,c] else [c] :=
  String.toList_ofList

theorem escapeSpecifiers_dollars (word : String) :
    escapeSpecifiers (Text.replaceChar '$' "$$" word) = doubled word := by
  apply String.toList_injective
  rw [escapeSpecifiers,toList_replaceChar,toList_replaceChar,toList_doubled,List.flatMap_assoc]
  refine congrArg (word.toList.flatMap ·) (funext fun c => ?_)
  by_cases dollar : c = '$'
  · simp [dollar]
  · by_cases percent : c = '%' <;> simp [dollar,percent]

theorem toList_escapes (s : String) :
    (Text.replaceChar '"' "\\\"" (Text.replaceChar '\\' "\\\\" s)).toList = escaped s.toList := by
  rw [toList_replaceChar,toList_replaceChar,escaped,List.flatMap_assoc]
  refine congrArg (s.toList.flatMap ·) (funext fun c => ?_)
  by_cases slash : c = '\\'
  · simp [slash]
  · by_cases double : c = '"' <;> simp [slash,double]

section Reading

variable (done : List (List Char)) (rest : List Char)

theorem read_escaped (s acc : List Char) :
    (⟨done,some acc,some '"'⟩ : Words).read (escaped s ++ '"' :: rest) =
      (⟨done,some (s.reverse ++ acc),none⟩ : Words).read rest := by
  -- By induction on the text: a backslash keeps what it was put before, and everything else stands
  -- for itself until the closing quote.
  induction s generalizing acc with
  | nil => exact Words.read_closing rfl rest
  | cons c s ih =>
    have more : (⟨done,some acc,some '"'⟩ : Words).add c = ⟨done,some (c :: acc),some '"'⟩ := rfl
    rw [List.reverse_cons,List.append_assoc,List.singleton_append,← ih,← more,escaped,
      List.flatMap_cons,← escaped]
    split
    next => exact Words.read_escape (.inr rfl) c _
    next plain =>
      obtain ⟨slash,double⟩ := not_or.mp plain
      exact Words.read_quoted rfl double (fun same => absurd same slash) _

/-- A text without blanks, quotes and backslashes stands for itself. -/
theorem read_plain {s : List Char} (plain : ∀ c ∈ s, needsQuotes c = false) (nonempty : s ≠ [])
    (current : Option (List Char)) :
    (⟨done,current,none⟩ : Words).read (s ++ rest) =
      (⟨done,some (s.reverse ++ current.getD []),none⟩ : Words).read rest := by
  induction s generalizing current with
  | nil => exact absurd rfl nonempty
  | cons c s ih =>
    obtain ⟨head,tail⟩ := List.forall_mem_cons.mp plain
    simp only [needsQuotes,Bool.or_eq_false_iff,beq_eq_false_iff_ne] at head
    obtain ⟨⟨⟨visible,double⟩,single⟩,slash⟩ := head
    rw [List.cons_append,Words.read_letter rfl visible slash single double,Words.add]
    cases s with
    | nil => rfl
    | cons d s =>
      rw [ih tail (List.cons_ne_nil d s)]
      simp

theorem read_quote (value : String) :
    (⟨done,none,none⟩ : Words).read ((quote value).toList ++ rest) =
      (⟨done,some (escapeSpecifiers value).toList.reverse,none⟩ : Words).read rest := by
  unfold quote
  dsimp only
  split
  next =>
    have whole : ("\"" ++ Text.replaceChar '"' "\\\"" (Text.replaceChar '\\' "\\\\"
        (escapeSpecifiers value)) ++ "\"").toList =
          '"' :: (escaped (escapeSpecifiers value).toList ++ ['"']) := by
      simp [toList_escapes]
    rw [whole,List.cons_append,List.append_assoc,List.singleton_append,
      Words.read_opening rfl (.inr rfl),read_escaped]
    simp
  next bare =>
    simp only [Bool.or_eq_true,not_or,List.any_eq_true,not_exists,not_and,Bool.not_eq_true] at bare
    obtain ⟨nonempty,plain⟩ := bare
    rw [read_plain done rest plain (by simpa using nonempty)]
    simp

end Reading

theorem toList_read_quoted (values : List String) (done : List (List Char)) :
    ((⟨done,none,none⟩ : Words).read ([' '].intercalate (values.map (quote · |>.toList)))).toList =
      done.reverse.map String.ofList ++ values.map escapeSpecifiers := by
  -- By induction on the values: a blank ends each of them but the last.
  induction values generalizing done with
  | nil => simp [Words.toList,Words.close]
  | cons value rest ih =>
    cases rest with
    | nil =>
      have read := read_quote done [] value
      rw [List.append_nil,Words.read_nil] at read
      simp [read,Words.toList]
    | cons next rest =>
      rw [List.map_cons,List.map_cons,List.intercalate_cons_cons,List.append_assoc,read_quote,
        List.singleton_append,Words.read_blank rfl rfl,Words.close_some,List.reverse_reverse]
      refine (ih _).trans ?_
      simp

/-- Whatever the words are, be they empty or of blanks, quotes and backslashes: their command line is
split into just these words, each with its dollar and per cent signs doubled. -/
theorem splitCommand_quoteWords (words : List String) :
    splitCommand (quoteWords words) = words.map doubled := by
  let values := words.map (Text.replaceChar '$' "$$")
  have line : (quoteWords words).toList = [' '].intercalate (values.map (quote · |>.toList)) := by
    simp [quoteWords,values,Function.comp_def]
  have read := toList_read_quoted values []
  rw [splitCommand,line,read]
  simp [values,escapeSpecifiers_dollars]

end ComposeToPodman.Target.UnitFile
