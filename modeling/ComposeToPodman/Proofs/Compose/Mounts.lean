import ComposeToPodman.Compose.Read.Mounts
import ComposeToPodman.Proofs.Compose.Reading
import ComposeToPodman.Proofs.Dict
import ComposeToPodman.Proofs.Text

/-! Mounts: the short form that is written for one is read as the same mount. -/
namespace ComposeToPodman.Compose

/-- An option that stands between commas as it is. -/
structure PlainOption (o : String) : Prop where
  nonempty : o ≠ ""
  trimmed : Text.trim o = o
  comma : ',' ∉ o.toList
  colon : ':' ∉ o.toList

instance (o : String) : Decidable (PlainOption o) :=
  decidable_of_iff (o ≠ "" ∧ Text.trim o = o ∧ ',' ∉ o.toList ∧ ':' ∉ o.toList)
    ⟨fun ⟨nonempty,trimmed,comma,colon⟩ => ⟨nonempty,trimmed,comma,colon⟩,
      fun plain => ⟨plain.nonempty,plain.trimmed,plain.comma,plain.colon⟩⟩

namespace Mount

/-- A mount that has a short form: colons only separate, and the kind is what the source tells. -/
structure Portable (volumes : Dict Volume) (m : Mount) : Prop where
  source : ':' ∉ m.source.toList
  target : ':' ∉ m.target.toList
  kind : m.kind = .volume ↔ volumes.contains m.source = true ∨ isPathLike m.source.toList = false
  options : ∀ o ∈ m.options.toList, PlainOption o

instance (volumes : Dict Volume) (m : Mount) : Decidable (m.Portable volumes) :=
  decidable_of_iff (':' ∉ m.source.toList ∧ ':' ∉ m.target.toList ∧
      (m.kind = .volume ↔ volumes.contains m.source = true ∨ isPathLike m.source.toList = false) ∧
      ∀ o ∈ m.options.toList, PlainOption o)
    ⟨fun ⟨source,target,kind,options⟩ => ⟨source,target,kind,options⟩,
      fun portable => ⟨portable.source,portable.target,portable.kind,portable.options⟩⟩

structure Complete (m : Mount) : Prop where
  source : m.source ≠ ""
  target : Text.startsWith m.target '/' = true

theorem Portable.kind_eq {volumes : Dict Volume} {m : Mount} (portable : m.Portable volumes) :
    mountKind volumes m.source = m.kind := by
  have told := portable.kind
  unfold mountKind
  cases kind : m.kind <;> simp_all

end Mount

def commaSeparated (options : List String) : List Char :=
  [','].intercalate (options.map String.toList)

theorem mountOptions_commaSeparated {options : List String} (plain : ∀ o ∈ options, PlainOption o)
    (nonempty : options ≠ []) :
    mountOptions (commaSeparated options) = TextSet.ofList options := by
  let texts := options.map String.toList
  have whole : (commaSeparated options).splitOn ',' = texts := by
    refine List.splitOn_intercalate ',' (fun s member => ?_) (by simpa [texts] using nonempty)
    obtain ⟨o,among,rfl⟩ := List.mem_map.mp member
    exact (plain o among).comma
  have trimmed : texts.map Text.trimChars = texts := by
    refine (List.map_congr_left fun s member => ?_).trans (List.map_id _)
    obtain ⟨o,among,rfl⟩ := List.mem_map.mp member
    exact (Text.trimmed_of_trim_eq (plain o among).trimmed).trimChars_eq
  have kept : texts.filter (!·.isEmpty) = texts := by
    refine List.filter_eq_self.mpr fun s member => ?_
    obtain ⟨o,among,rfl⟩ := List.mem_map.mp member
    simpa using (plain o among).nonempty
  have back : texts.map String.ofList = options := by
    simp [texts,Function.comp_def]
  rw [mountOptions,whole,trimmed,kept,back]

theorem colon_not_mem_commaSeparated {options : List String}
    (plain : ∀ o ∈ options, PlainOption o) : ':' ∉ commaSeparated options := fun member => by
  rcases Text.mem_intercalate_iff.mp member with ⟨same,_⟩ | ⟨s,among,inside⟩
  · exact absurd same (by decide)
  · obtain ⟨o,listed,rfl⟩ := List.mem_map.mp among
    exact (plain o listed).colon inside

/-- `source:target[:option,…]`, with the options in whatever order. -/
def shortMountText (source target : String) (options : List String) : String :=
  source ++ ":" ++ target ++ if options.isEmpty then "" else ":" ++ ",".intercalate options

theorem splitOn_shortMountText {source target : String} {options : List String}
    (first : ':' ∉ source.toList) (second : ':' ∉ target.toList)
    (plain : ∀ o ∈ options, PlainOption o) :
    (shortMountText source target options).toList.splitOn ':' =
      source.toList :: target.toList ::
        if options.isEmpty then [] else [commaSeparated options] := by
  by_cases empty : options = []
  · simp [shortMountText,empty,List.splitOn_append_cons_self_of_not_mem first,
      List.splitOn_eq_singleton second]
  · have text : (shortMountText source target options).toList =
        source.toList ++ ':' :: (target.toList ++ ':' :: commaSeparated options) := by
      simp [shortMountText,empty,commaSeparated]
    rw [text,List.splitOn_append_cons_self_of_not_mem first,
      List.splitOn_append_cons_self_of_not_mem second,
      List.splitOn_eq_singleton (colon_not_mem_commaSeparated plain)]
    simp [empty]

theorem readShortMount_text (volumes : Dict Volume) {source target : String} {options : List String}
    (nonempty : source ≠ "") (absolute : Text.startsWith target '/' = true)
    (first : ':' ∉ source.toList) (second : ':' ∉ target.toList)
    (plain : ∀ o ∈ options, PlainOption o) (service : String) :
    readShortMount service volumes (shortMountText source target options) =
      pure (some { source, target, kind := mountKind volumes source,
                   options := TextSet.ofList options }) := by
  have parts := splitOn_shortMountText first second plain
  have head : target.toList.head? = some '/' := by simpa [Text.startsWith] using absolute
  by_cases empty : options = []
  · subst empty
    have unlisted : mountOptions [] = TextSet.ofList [] := by decide
    simp [readShortMount,parts,nonempty,head,unlisted]
  · have read := mountOptions_commaSeparated plain empty
    simp [readShortMount,parts,empty,nonempty,head,read]

theorem readShortMount_short {volumes : Dict Volume} {m : Mount} (portable : m.Portable volumes)
    (complete : m.Complete) (service : String) :
    readShortMount service volumes m.short = pure (some m) := by
  have text : m.short = shortMountText m.source m.target m.options.toList := by
    simp [Mount.short,Mount.optionSuffix,shortMountText,Dict.isEmpty,TextSet.toList,Dict.keys]
  rw [text,readShortMount_text volumes complete.source complete.target portable.source
    portable.target portable.options,portable.kind_eq,TextSet.ofList_toList]

/-! Other mounts are lost: none is read from a short form. -/

theorem mountKind_eq_volume_iff (volumes : Dict Volume) (source : String) :
    mountKind volumes source = .volume ↔
      volumes.contains source = true ∨ isPathLike source.toList = false := by
  unfold mountKind
  split
  next declared => simpa using declared
  next path => simpa using path

theorem plainOption_of_mem_mountOptions {options : List Char} (colon : ':' ∉ options) {o : String}
    (member : o ∈ (mountOptions options).toList) : PlainOption o := by
  obtain ⟨part,kept,rfl⟩ := List.mem_map.mp (TextSet.mem_of_mem_ofList member)
  obtain ⟨among,nonempty⟩ := List.mem_filter.mp kept
  obtain ⟨whole,listed,rfl⟩ := List.mem_map.mp among
  have inWhole (c : Char) (inside : c ∈ Text.trimChars whole) : c ∈ whole :=
    Text.mem_of_mem_trimChars inside
  constructor
  · simpa using nonempty
  · rw [Text.trim,String.toList_ofList,(Text.trimmed_trimChars whole).trimChars_eq]
  · rw [String.toList_ofList]
    exact fun inside => Text.not_mem_of_mem_splitOn listed (inWhole ',' inside)
  · rw [String.toList_ofList]
    exact fun inside => colon (Text.mem_of_mem_splitOn listed (inWhole ':' inside))

theorem portable_of_mem_splitOn {volumes : Dict Volume} {s source target options : List Char}
    (first : source ∈ s.splitOn ':') (second : target ∈ s.splitOn ':')
    (colon : ':' ∉ options) :
    Mount.Portable volumes
      { source := String.ofList source, target := String.ofList target,
        kind := mountKind volumes (String.ofList source), options := mountOptions options } where
  source := by simpa using Text.not_mem_of_mem_splitOn first
  target := by simpa using Text.not_mem_of_mem_splitOn second
  kind := mountKind_eq_volume_iff volumes _
  options _ member := plainOption_of_mem_mountOptions colon member

/-- Every mount that is read from a short form is portable. -/
theorem portable_of_readShortMount {service spec : String} {volumes : Dict Volume} {m : Mount}
    (read : (readShortMount service volumes spec).value = some m) : m.Portable volumes := by
  unfold readShortMount at read
  dsimp only at read
  split at read
  case h_2 source target cut =>
    split at read
    next => cases read
    next =>
      obtain rfl := Option.some.inj read
      exact portable_of_mem_splitOn (s := spec.toList) (by simp [cut]) (by simp [cut]) (by simp)
  case h_3 source target options cut =>
    split at read
    next => cases read
    next =>
      obtain rfl := Option.some.inj read
      have colon : ':' ∉ options := Text.not_mem_of_mem_splitOn (s := spec.toList) (by simp [cut])
      exact portable_of_mem_splitOn (s := spec.toList) (by simp [cut]) (by simp [cut]) colon
  all_goals cases read

/-- What is read from the short form of a mount is the mount exactly if it is portable. -/
theorem readShortMount_short_iff {volumes : Dict Volume} {m : Mount} (complete : m.Complete)
    (service : String) :
    (readShortMount service volumes m.short).value = some m ↔ m.Portable volumes :=
  ⟨portable_of_readShortMount,fun portable => by
    rw [readShortMount_short portable complete]
    rfl⟩

/-! Every mount that is read is complete. -/

theorem complete_of_readShortMount {service spec : String} {volumes : Dict Volume} {m : Mount}
    (read : (readShortMount service volumes spec).value = some m) : m.Complete := by
  unfold readShortMount at read
  dsimp only at read
  split at read
  case h_2 | h_3 =>
    split at read
    next => cases read
    next shaped =>
      obtain rfl := Option.some.inj read
      simp only [Bool.or_eq_true,not_or] at shaped
      exact ⟨by simpa using shaped.1,by simpa [Text.startsWith] using shaped.2⟩
  all_goals cases read

theorem complete_of_readLongMount {service : String} {long : Form.LongMount} {m : Mount}
    (read : (readLongMount service long).value = some m) : m.Complete := by
  unfold readLongMount at read
  split at read
  next => cases read
  split at read
  next => cases read
  next source given =>
    split at read
    next absolute =>
      obtain rfl := Option.some.inj read
      exact ⟨by simpa using (Option.filter_eq_some_iff.mp given).2,absolute⟩
    next => cases read

theorem complete_of_readMount {service : String} {volumes : Dict Volume} {form : Form.Mount}
    {m : Mount} (read : (readMount service volumes form).value = some m) : m.Complete := by
  cases form with
  | short spec => exact complete_of_readShortMount read
  | long mount => exact complete_of_readLongMount read

end ComposeToPodman.Compose
