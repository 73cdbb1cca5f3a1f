import ComposeToPodman.Proofs.Text
import ComposeToPodman.Target.UnitFile

/-! Unit files, read line by line. A value on one line is read as it was written; a value with a line
break is not, whatever comes after the break. -/
namespace ComposeToPodman.Target

/-- A text without line breaks. -/
def OneLine (s : String) : Prop := '\n' ∉ s.toList

instance (s : String) : Decidable (OneLine s) := inferInstanceAs (Decidable ('\n' ∉ s.toList))

namespace UnitFile

/-- The name in a line of the form `[Name]`. -/
def sectionName? : List Char → Option (List Char)
  | '[' :: rest => if rest.getLast? = some ']' then some rest.dropLast else none
  | _ => none

/-- The entries before the first section, and the sections with their entries. A line that is not
blank opens a section or is an entry, cut at its first equals sign. -/
def readLines : List (List Char) → Option (List (String × String) × List UnitSection)
  | [] => some ([],[])
  | line :: rest => do
    let (entries,sections) ← readLines rest
    if line = [] then return (entries,sections)
    match sectionName? line with
    | some name => return ([],⟨String.ofList name,entries⟩ :: sections)
    | none =>
      let (key,value) ← Text.cut? '=' line
      return ((String.ofList key,String.ofList value) :: entries,sections)

/-- The sections of a text; there is no entry outside of them. -/
def sections? (text : String) : Option (List UnitSection) :=
  match readLines (text.toList.splitOn '\n') with
  | some ([],sections) => some sections
  | _ => none

/-! What is read has no line break in it. -/

theorem oneLine_of_readLines {lines : List (List Char)} {entries : List (String × String)}
    {sections : List UnitSection} (single : ∀ line ∈ lines, '\n' ∉ line)
    (read : readLines lines = some (entries,sections)) :
    (∀ e ∈ entries, OneLine e.2) ∧ ∀ part ∈ sections, ∀ e ∈ part.entries, OneLine e.2 := by
  induction lines generalizing entries sections with
  | nil =>
    obtain ⟨rfl,rfl⟩ := Prod.mk.inj (Option.some.inj read)
    exact ⟨List.forall_mem_nil _,List.forall_mem_nil _⟩
  | cons line rest ih =>
    obtain ⟨here,behind⟩ := List.forall_mem_cons.mp single
    obtain ⟨⟨later,parts⟩,inner,read⟩ := Option.bind_eq_some_iff.mp read
    obtain ⟨first,others⟩ := ih behind inner
    dsimp only at read
    split at read
    next =>
      obtain ⟨rfl,rfl⟩ := Prod.mk.inj (Option.some.inj read)
      exact ⟨first,others⟩
    next =>
      split at read
      next =>
        obtain ⟨rfl,rfl⟩ := Prod.mk.inj (Option.some.inj read)
        exact ⟨List.forall_mem_nil _,List.forall_mem_cons.mpr ⟨first,others⟩⟩
      next =>
        obtain ⟨⟨key,value⟩,cut,read⟩ := Option.bind_eq_some_iff.mp read
        obtain ⟨rfl,rfl⟩ := Prod.mk.inj (Option.some.inj read)
        obtain ⟨rfl,_⟩ := Text.cut?_eq_some_iff.mp cut
        refine ⟨List.forall_mem_cons.mpr ⟨?_,first⟩,others⟩
        simp only [OneLine,String.toList_ofList]
        exact fun inside => here (by simp [inside])

/-- A key that cannot be taken for anything else. -/
structure PlainKey (key : String) : Prop where
  single : OneLine key
  sign : '=' ∉ key.toList
  front : key.toList.head? ≠ some '['

instance (key : String) : Decidable (PlainKey key) :=
  decidable_of_iff (OneLine key ∧ '=' ∉ key.toList ∧ key.toList.head? ≠ some '[')
    ⟨fun ⟨single,sign,front⟩ => ⟨single,sign,front⟩,
      fun plain => ⟨plain.single,plain.sign,plain.front⟩⟩

def entryLine (e : String × String) : List Char := e.1.toList ++ '=' :: e.2.toList

def sectionLine (s : UnitSection) : List Char := '[' :: (s.name.toList ++ [']'])

/-- The lines of a section. -/
def lines (s : UnitSection) : List (List Char) := sectionLine s :: s.entries.map entryLine

theorem readLines_entryLine {e : String × String} (plain : PlainKey e.1) (rest : List (List Char)) :
    readLines (entryLine e :: rest) =
      (readLines rest).map fun (entries,sections) => (e :: entries,sections) := by
  have nonempty : entryLine e ≠ [] := by simp [entryLine]
  have entry : sectionName? (entryLine e) = none := by
    unfold sectionName? entryLine
    split
    next rest line =>
      cases whole : e.1.toList with
      | nil => simp [whole] at line
      | cons c more =>
        rw [whole] at line
        exact absurd (congrArg some (List.cons.inj line).1) (by simpa [whole] using plain.front)
    next => rfl
  have cut : Text.cut? '=' (entryLine e) = some (e.1.toList,e.2.toList) :=
    Text.cut?_append_cons plain.sign _
  rw [readLines]
  cases readLines rest <;> simp [nonempty,entry,cut]

theorem readLines_sectionLine (s : UnitSection) (rest : List (List Char)) :
    readLines (sectionLine s :: rest) =
      (readLines rest).map fun (entries,sections) => ([],⟨s.name,entries⟩ :: sections) := by
  have named : sectionName? (sectionLine s) = some s.name.toList := by
    simp [sectionLine,sectionName?]
  have nonempty : sectionLine s ≠ [] := by simp [sectionLine]
  rw [readLines]
  cases readLines rest <;> simp [nonempty,named]

theorem readLines_blank (rest : List (List Char)) : readLines ([] :: rest) = readLines rest := by
  rw [readLines]
  cases readLines rest <;> simp

theorem readLines_entries {entries : List (String × String)} (plain : ∀ e ∈ entries, PlainKey e.1)
    (rest : List (List Char)) : readLines (entries.map entryLine ++ rest) =
      (readLines rest).map fun (later,sections) => (entries ++ later,sections) := by
  induction entries with
  | nil =>
    rw [List.map_nil,List.nil_append]
    cases readLines rest <;> rfl
  | cons e more ih =>
    obtain ⟨head,tail⟩ := List.forall_mem_cons.mp plain
    rw [List.map_cons,List.cons_append,readLines_entryLine head,ih tail]
    cases readLines rest <;> rfl

theorem readLines_lines {s : UnitSection} (plain : ∀ e ∈ s.entries, PlainKey e.1)
    (rest : List (List Char)) : readLines (lines s ++ rest) =
      (readLines rest).map fun (later,sections) => ([],⟨s.name,s.entries ++ later⟩ :: sections) := by
  rw [lines,List.cons_append,readLines_sectionLine,readLines_entries plain]
  cases readLines rest <;> rfl

/-- A section whose lines cannot be taken for anything else. -/
structure Plain (s : UnitSection) : Prop where
  name : OneLine s.name
  keys : ∀ e ∈ s.entries, PlainKey e.1

theorem toList_render (s : UnitSection) :
    s.render.toList = (lines s).flatMap (· ++ ['\n']) := by
  have more (text : String) (entries : List (String × String)) :
      (entries.foldl (fun text e => text ++ e.1 ++ "=" ++ e.2 ++ "\n") text).toList =
        text.toList ++ (entries.map entryLine).flatMap (· ++ ['\n']) := by
    induction entries generalizing text with
    | nil => simp
    | cons e rest ih => simp [ih,entryLine]
  rw [UnitSection.render]
  refine (more _ s.entries).trans ?_
  simp [lines,sectionLine]

theorem splitOn_flatMap {l : List (List Char)} (single : ∀ line ∈ l, '\n' ∉ line)
    (rest : List Char) :
    (l.flatMap (· ++ ['\n']) ++ rest).splitOn '\n' = l ++ rest.splitOn '\n' := by
  induction l with
  | nil => rfl
  | cons line more ih =>
    obtain ⟨here,behind⟩ := List.forall_mem_cons.mp single
    have head :=
      List.splitOn_append_cons_self_of_not_mem here (more.flatMap (· ++ ['\n']) ++ rest)
    simpa [ih behind] using head

theorem single_lines {s : UnitSection} (plain : Plain s) (values : ∀ e ∈ s.entries, OneLine e.2) :
    ∀ line ∈ lines s, '\n' ∉ line := by
  intro line member
  rcases List.mem_cons.mp member with rfl | entry
  · simpa [sectionLine,OneLine] using plain.name
  · obtain ⟨e,inside,rfl⟩ := List.mem_map.mp entry
    simpa [entryLine,OneLine] using And.intro (plain.keys e inside).single (values e inside)

theorem splitOn_render {s : UnitSection} (plain : Plain s) (values : ∀ e ∈ s.entries, OneLine e.2)
    (rest : List Char) :
    (s.render.toList ++ rest).splitOn '\n' = lines s ++ rest.splitOn '\n' := by
  rw [toList_render,splitOn_flatMap (single_lines plain values)]

theorem readLines_render {sections : List UnitSection} (plain : ∀ s ∈ sections, Plain s)
    (values : ∀ s ∈ sections, ∀ e ∈ s.entries, OneLine e.2) :
    readLines ((UnitFile.render ⟨sections⟩).toList.splitOn '\n') = some ([],sections) := by
  -- By induction on the sections: what is read behind a section does not begin with an entry.
  induction sections with
  | nil => rfl
  | cons s rest ih =>
    obtain ⟨here,behind⟩ := List.forall_mem_cons.mp plain
    obtain ⟨own,others⟩ := List.forall_mem_cons.mp values
    have later := ih behind others
    cases rest with
    | nil =>
      have whole : (UnitFile.render ⟨[s]⟩).toList = s.render.toList ++ [] := by simp [render]
      rw [whole,splitOn_render here own,readLines_lines here.keys]
      simp [readLines]
    | cons t more =>
      have whole : (UnitFile.render ⟨s :: t :: more⟩).toList =
          s.render.toList ++ '\n' :: (UnitFile.render ⟨t :: more⟩).toList := by
        simp [render]
      have blank : ('\n' :: (UnitFile.render ⟨t :: more⟩).toList).splitOn '\n' =
          [] :: (UnitFile.render ⟨t :: more⟩).toList.splitOn '\n' :=
        List.splitOn_append_cons_self_of_not_mem List.not_mem_nil _
      rw [whole,splitOn_render here own,readLines_lines here.keys,blank,readLines_blank,later]
      simp

/-- A unit file is read as it was written exactly if every value is on one line. -/
theorem sections?_render_iff {f : UnitFile} (plain : ∀ s ∈ f.sections, Plain s) :
    sections? f.render = some f.sections ↔ ∀ s ∈ f.sections, ∀ e ∈ s.entries, OneLine e.2 := by
  constructor
  · intro read
    unfold sections? at read
    split at read
    next sections told =>
      obtain rfl := Option.some.inj read
      have single (line : List Char) (among : line ∈ f.render.toList.splitOn '\n') :
          '\n' ∉ line := Text.not_mem_of_mem_splitOn among
      exact (oneLine_of_readLines single told).2
    next => cases read
  · intro values
    rw [sections?,readLines_render plain values]

end UnitFile

end ComposeToPodman.Target
