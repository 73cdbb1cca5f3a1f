import ComposeToPodman.Conversion
import ComposeToPodman.Proofs.Rule.Preserve

/-! Conversions of a document that has been read, and conversions one after another. -/
namespace ComposeToPodman

open Compose Target

/-- A conversion gives what was written for a format. -/
structure Conversion.Tells (t : Conversion) (written : Output) : Prop where
  output : t.output = some written.text
  files : t.files = written.files
  errors : t.errors = written.diagnostics.errors.map Notice.message

theorem convertTo_eq {o : Options} {f : Format} {input : String} {d : Document}
    {notices : List Notice} (read : Document.read input = .ok (d,notices)) :
    convertTo o f input =
      match Rule.run ⟨f,o⟩ Rule.all d with
      | .error failure => .error ⟨failure.error,notices ++ failure.warnings⟩
      | .ok revision =>
        let written := f.output revision.document o
        let diagnostics :=
          Diagnostics.ofWarnings (notices ++ revision.notices) ++ written.diagnostics
        .ok
          { output := some written.text
            warnings := diagnostics.warnings.map Notice.message
            errors := diagnostics.errors.map Notice.message
            files := written.files } := by
  rw [convertTo,read]
  rfl

/-- A document that is read is converted if no namespace is missing, to every format alike. -/
theorem convertTo_of_read {o : Options} {f : Format} {input : String} {d : Document}
    {notices : List Notice} (read : Document.read input = .ok (d,notices))
    (joined : d.services.findSome? (Rule.dangling? d) = none) :
    ∃ t, convertTo o f input = .ok t ∧ t.Tells (f.output (Rule.rewrite ⟨f,o⟩ d) o) := by
  obtain ⟨noticed,ran⟩ := Rule.run_all_of_joined joined ⟨f,o⟩
  rw [convertTo_eq read,ran]
  exact ⟨_,rfl,rfl,rfl,by simp⟩

theorem joined_of_convertTo {o : Options} {f : Format} {input : String} {d : Document}
    {notices : List Notice} {t : Conversion} (read : Document.read input = .ok (d,notices))
    (converted : convertTo o f input = .ok t) :
    d.services.findSome? (Rule.dangling? d) = none := by
  rw [convertTo_eq read] at converted
  split at converted
  next => cases converted
  next w ran => exact Rule.joined_of_run_all ran

theorem tells_of_convertTo {o : Options} {f : Format} {input : String} {d : Document}
    {notices : List Notice} {t : Conversion} (read : Document.read input = .ok (d,notices))
    (converted : convertTo o f input = .ok t) : t.Tells (f.output (Rule.rewrite ⟨f,o⟩ d) o) := by
  obtain ⟨told,same,tells⟩ := convertTo_of_read (o := o) (f := f) read
    (joined_of_convertTo read converted)
  exact Except.ok.inj (same.symm.trans converted) ▸ tells

/-- Converting to a compose file first changes nothing: what is made of the file is what is made of
the input. -/
theorem convertTo_through_composeFile {o : Options} {f : Format} {input : String} {d : Document}
    {notices : List Notice} {t : Conversion} (read : Document.read input = .ok (d,notices))
    (portable : d.Portable) (converted : convertTo o .podmanCompose input = .ok t)
    (readBack : ∀ w, Rule.run ⟨.podmanCompose,o⟩ Rule.all d = .ok w →
      Yaml.Value.read (ComposeFile.documentValue w.document).write =
        .ok (ComposeFile.documentValue w.document)) :
    ∃ text direct again, t.output = some text ∧ convertTo o f input = .ok direct ∧
      convertTo o f text = .ok again ∧ again.output = direct.output ∧
      again.files = direct.files ∧ again.errors = direct.errors ∧
      (f = .podmanCompose → again.output = some text) := by
  let c : Rule.Context := ⟨.podmanCompose,o⟩
  have joined := joined_of_convertTo read converted
  have wellFormed := wellFormed_of_read read
  obtain ⟨noticed,ran⟩ := Rule.run_all_of_joined joined c
  obtain ⟨first,same,told⟩ := convertTo_of_read (o := o) (f := .podmanCompose) read joined
  obtain rfl : first = t := Except.ok.inj (same.symm.trans converted)
  have wellFormed : (Rule.rewrite c d).WellFormed := Rule.wellFormed_rewrite wellFormed
  have portable := Rule.portable_rewrite (c := c) (wellFormed_of_read read) portable
  have readBack := readBack ⟨Rule.rewrite c d,noticed⟩ ran
  dsimp only at readBack
  have reread := read_output wellFormed portable readBack
  have rejoined : (Rule.rewrite c d).services.findSome? (Rule.dangling? (Rule.rewrite c d)) =
      none := by
    rw [Rule.findSome?_dangling?_rewrite,joined]
  obtain ⟨direct,directly,directTold⟩ := convertTo_of_read (o := o) (f := f) read joined
  obtain ⟨again,afterwards,againTold⟩ := convertTo_of_read (o := o) (f := f) reread rejoined
  rw [Rule.rewrite_rewrite] at againTold
  refine ⟨_,direct,again,told.output,directly,afterwards,?_,?_,?_,?_⟩
  · rw [againTold.output,directTold.output]
  · rw [againTold.files,directTold.files]
  · rw [againTold.errors,directTold.errors]
  · rintro rfl
    exact againTold.output

def exclusively : Options := { projectName := some "shop", relabel := .exclusive }

theorem convertTo_through_composeFile_web :
    ∃ t text direct again, convertTo exclusively .podmanCompose webText = .ok t ∧
      t.output = some text ∧ convertTo exclusively .kube webText = .ok direct ∧
      convertTo exclusively .kube text = .ok again ∧ again.output = direct.output ∧
      again.files = direct.files ∧ again.errors = direct.errors := by
  have joined : web.services.findSome? (Rule.dangling? web) = none := by rfl
  have readBack : Yaml.Value.read (ComposeFile.documentValue
      (Rule.rewrite ⟨.podmanCompose,exclusively⟩ web)).write =
      .ok (ComposeFile.documentValue (Rule.rewrite ⟨.podmanCompose,exclusively⟩ web)) := by
    decide +kernel
  obtain ⟨t,converted,_⟩ :=
    convertTo_of_read (o := exclusively) (f := .podmanCompose) read_webText joined
  obtain ⟨text,direct,again,told,directly,afterwards,output,files,errors,_⟩ :=
    convertTo_through_composeFile (f := .kube) read_webText portable_web converted fun w ran => by
      obtain ⟨noticed,rewritten⟩ := Rule.run_all_of_joined joined ⟨.podmanCompose,exclusively⟩
      obtain rfl := Except.ok.inj (ran.symm.trans rewritten)
      dsimp only
      exact readBack
  exact ⟨t,text,direct,again,converted,told,directly,afterwards,output,files,errors⟩

end ComposeToPodman
