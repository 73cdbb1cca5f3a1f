import ComposeToPodman.Program.Run
import ComposeToPodman.Proofs.Compose.Acceptance
import ComposeToPodman.Proofs.Conversion
import ComposeToPodman.Proofs.Rule.Effect

/-! How a conversion ends, and the program with it. The format has no say in whether there is an
output; what fails has no output and tells at least one error, so that the exit status cannot take a
failure for a success. -/
namespace ComposeToPodman

open Compose

/-- A service joins its own network namespace, or that of a service that is not there. -/
def Compose.Document.Strays (d : Document) : Prop :=
  ∃ s ∈ d.services, ∃ target, s.networkMode = some (.container target) ∧
    (target = s.name ∨ ∀ t ∈ d.services, t.name ≠ target)

theorem Compose.Document.hasService_eq_false_iff (d : Document) (name : String) :
    d.hasService name = false ↔ ∀ t ∈ d.services, t.name ≠ name := by
  simp [Document.hasService,Document.service?]

theorem Rule.isSome_dangling?_iff (d : Document) (s : Service) :
    (dangling? d s).isSome = true ↔ ∃ target, s.networkMode = some (.container target) ∧
      (target = s.name ∨ ∀ t ∈ d.services, t.name ≠ target) := by
  unfold dangling?
  split
  next target mode =>
    have absent := d.hasService_eq_false_iff target
    cases found : d.hasService target <;> by_cases own : target = s.name <;> simp_all
  next other =>
    refine ⟨nofun,?_⟩
    rintro ⟨target,mode,_⟩
    exact (other target mode).elim

theorem Rule.isSome_findSome?_dangling?_iff (d : Document) :
    (d.services.findSome? (dangling? d)).isSome = true ↔ d.Strays := by
  simp only [List.findSome?_isSome_iff,isSome_dangling?_iff,Document.Strays]

variable {o : Options} {f : Format} {input : String}

theorem convertTo_of_unread {failure : Failure} (unread : Document.read input = .error failure) :
    convertTo o f input = .error failure := by
  rw [convertTo,unread]
  rfl

/-- Where a service strays, the error is the same for every format. -/
theorem convertTo_of_missing {d : Document} {notices : List Notice} {reference : Dangling}
    (read : Document.read input = .ok (d,notices))
    (missing : d.services.findSome? (Rule.dangling? d) = some reference) :
    ∃ warnings, convertTo o f input = .error ⟨.unresolved reference,warnings⟩ := by
  obtain ⟨noticed,ran⟩ := Rule.run_eq ⟨f,o⟩ Rule.all d
  rw [Rule.missing?_all,missing] at ran
  rw [convertTo_eq read,ran]
  exact ⟨_,rfl⟩

theorem convertTo_cases (o : Options) (input : String) :
    (∃ failure, Document.read input = .error failure ∧ ∀ f, convertTo o f input = .error failure) ∨
    (∃ d notices, Document.read input = .ok (d,notices) ∧ ¬d.Strays ∧
      ∀ f, ∃ t, convertTo o f input = .ok t ∧ t.output ≠ none) ∨
    ∃ d notices reference, Document.read input = .ok (d,notices) ∧ d.Strays ∧
      ∀ f, ∃ warnings, convertTo o f input = .error ⟨.unresolved reference,warnings⟩ := by
  cases read : Document.read input with
  | error failure => exact .inl ⟨failure,rfl,fun f => convertTo_of_unread read⟩
  | ok given =>
    obtain ⟨d,notices⟩ := given
    have strays := Rule.isSome_findSome?_dangling?_iff d
    cases missing : d.services.findSome? (Rule.dangling? d) with
    | none =>
      have straight : ¬d.Strays := by
        rw [← strays,missing]
        exact nofun
      refine .inr (.inl ⟨d,notices,rfl,straight,fun f => ?_⟩)
      obtain ⟨t,converted,tells⟩ := convertTo_of_read (o := o) (f := f) read missing
      exact ⟨t,converted,by simp [tells.output]⟩
    | some reference =>
      have stray : d.Strays := strays.mp (by rw [missing]; rfl)
      exact .inr (.inr ⟨d,notices,reference,rfl,stray,fun f => convertTo_of_missing read missing⟩)

/-- A conversion fails because the input is no document, or because one of its services strays. -/
theorem convertTo_failed_iff : (∃ failure, convertTo o f input = .error failure) ↔
    (∃ failure, Document.read input = .error failure) ∨
      ∃ d notices, Document.read input = .ok (d,notices) ∧ d.Strays := by
  rcases convertTo_cases o input with ⟨failure,unread,failed⟩ | ⟨d,notices,read,straight,converted⟩ |
    ⟨d,notices,reference,read,strays,failed⟩
  · exact ⟨fun _ => .inl ⟨failure,unread⟩,fun _ => ⟨failure,failed f⟩⟩
  · obtain ⟨t,converted,_⟩ := converted f
    rw [read,converted]
    constructor
    · rintro ⟨_,⟨⟩⟩
    · rintro (⟨_,⟨⟩⟩ | ⟨_,_,⟨⟩,strays⟩)
      exact absurd strays straight
  · obtain ⟨warnings,failed⟩ := failed f
    exact ⟨fun _ => .inr ⟨d,notices,read,strays⟩,fun _ => ⟨_,failed⟩⟩

theorem valid_validate_iff :
    (validate input).valid = true ↔ ∃ d notices, Document.read input = .ok (d,notices) := by
  unfold validate
  cases Document.read input with
  | ok given => exact ⟨fun _ => ⟨given.1,given.2,rfl⟩,fun _ => rfl⟩
  | error failure => exact ⟨nofun,nofun⟩

/-- All formats alike give an output, or none does, for one and the same reason. -/
theorem convertTo_alike (o : Options) (input : String) :
    (∀ f, ∃ t, convertTo o f input = .ok t ∧ t.output ≠ none) ∨
      ∃ e, ∀ f, ∃ warnings, convertTo o f input = .error ⟨e,warnings⟩ := by
  rcases convertTo_cases o input with ⟨failure,_,failed⟩ | ⟨_,_,_,_,converted⟩ |
    ⟨_,_,reference,_,_,failed⟩
  · exact .inr ⟨failure.error,fun f => ⟨_,failed f⟩⟩
  · exact .inl converted
  · exact .inr ⟨.unresolved reference,failed⟩

/-- What cannot be read is never without a problem to tell. -/
theorem messages_of_read {failure : Failure} (unread : Document.read input = .error failure) :
    failure.error.messages ≠ [] := by
  unfold Document.read at unread
  split at unread
  next =>
    obtain ⟨problems,rfl,told,_⟩ := problems_of_ofValue unread
    simpa [ConversionError.messages] using told
  next =>
    obtain rfl := Except.error.inj unread
    exact List.cons_ne_nil _ _

theorem messages_of_convertTo {failure : Failure} (failed : convertTo o f input = .error failure) :
    failure.error.messages ≠ [] := by
  rcases convertTo_cases o input with ⟨cause,unread,same⟩ | ⟨_,_,_,_,converted⟩ |
    ⟨_,_,reference,_,_,same⟩
  · obtain rfl := Except.error.inj ((same f).symm.trans failed)
    exact messages_of_read unread
  · obtain ⟨t,converted,_⟩ := converted f
    exact nomatch converted.symm.trans failed
  · obtain ⟨warnings,same⟩ := same f
    obtain rfl := Except.error.inj (same.symm.trans failed)
    exact List.cons_ne_nil _ _

theorem messages_of_convert {selector : Option String} {failure : Failure}
    (failed : convert o selector input = .error failure) : failure.error.messages ≠ [] := by
  unfold convert at failed
  split at failed
  next => exact messages_of_convertTo failed
  next e unselected =>
    obtain rfl := Except.error.inj failed
    unfold Format.select at unselected
    repeat' split at unselected
    all_goals cases unselected
    exact List.cons_ne_nil _ _

theorem output_of_convertTo {t : Conversion} (converted : convertTo o f input = .ok t) :
    t.output ≠ none := by
  rcases convertTo_alike o input with given | ⟨e,failed⟩
  · obtain ⟨u,same,output⟩ := given f
    exact Except.ok.inj (same.symm.trans converted) ▸ output
  · obtain ⟨_,same⟩ := failed f
    exact nomatch same.symm.trans converted

theorem output_of_convert {selector : Option String} {t : Conversion}
    (converted : convert o selector input = .ok t) : t.output ≠ none := by
  unfold convert at converted
  split at converted
  next => exact output_of_convertTo converted
  next => cases converted

/-- A selector that names no format is the error, whatever the input. -/
theorem convert_of_unknown {selector : String} (unknown : ∀ f : Format, selector ≠ f.text) :
    convert o (some selector) input = .error ⟨.unsupportedFormat selector,[]⟩ := by
  have none : Format.ofText? selector = none := by
    unfold Format.ofText?
    split
    next => exact (unknown .podmanCompose rfl).elim
    next => exact (unknown .quadlet rfl).elim
    next => exact (unknown .kube rfl).elim
    next => rfl
  simp [convert,Format.select,none]

end ComposeToPodman

namespace ComposeToPodman.Program

open Compose Target

/-- No directory and no file fails to be written. -/
structure Host.Faultless {σ : Type} (h : Host (StateM σ)) : Prop where
  createDirectory : ∀ path s, ((h.createDirectory path).run s).1 = .ok ()
  writeFile : ∀ path text s, ((h.writeFile path text).run s).1 = .ok ()

variable {σ : Type} {h : Host (StateM σ)}

theorem code_writeFiles (directory : String) (files : List OutputFile) (r : Report) (s : σ) :
    (((writeFiles h directory files r).run s).1.code = 0 → r.code = 0) ∧
      (h.Faultless → ((writeFiles h directory files r).run s).1.code = r.code) := by
  -- By induction on the files: a fault can only make the exit status worse.
  induction files generalizing r s with
  | nil => exact ⟨id,fun _ => rfl⟩
  | cons file rest ih =>
    simp only [writeFiles,StateT.run_bind]
    cases outcome : (h.writeFile (join directory file.name) file.contents).run s with
    | mk result after =>
      cases result with
      | ok _ => exact ih _ after
      | error cause =>
        refine ⟨(nomatch ·),fun faultless => ?_⟩
        have fine := faultless.writeFile (join directory file.name) file.contents s
        rw [outcome] at fine
        cases fine

theorem code_writeAll (directory : String) (files : List OutputFile) (r : Report) (s : σ) :
    (((writeAll h directory files r).run s).1.code = 0 → r.code = 0) ∧
      (h.Faultless → ((writeAll h directory files r).run s).1.code = r.code) := by
  simp only [writeAll,StateT.run_bind]
  cases outcome : (h.createDirectory directory).run s with
  | mk result after =>
    cases result with
    | ok _ => exact code_writeFiles directory files r after
    | error cause =>
      refine ⟨(nomatch ·),fun faultless => ?_⟩
      have fine := faultless.createDirectory directory s
      rw [outcome] at fine
      cases fine

theorem code_runConvert (request : ConvertRequest) (input : String) (s : σ) :
    (((runConvert h request input).run s).1.code = 0 → (conversion request input).errors = []) ∧
      (h.Faultless → (conversion request input).errors = [] →
        ((runConvert h request input).run s).1.code = 0) := by
  unfold runConvert
  dsimp only
  generalize conversion request input = t
  have told : (if t.errors.isEmpty then 0 else 1) = 0 ↔ t.errors = [] := by simp
  split
  next => exact ⟨told.mp,fun _ => told.mpr⟩
  next =>
    split
    next directory _ _ =>
      obtain ⟨worse,same⟩ := code_writeAll (h := h) directory t.files
        { errors := lines (t.warnings.map ("warning: " ++ ·)) ++
            lines (t.errors.map ("error: " ++ ·))
          code := if t.errors.isEmpty then 0 else 1 } s
      exact ⟨fun zero => told.mp (worse zero),fun faultless none =>
        (same faultless).trans (told.mpr none)⟩
    all_goals exact ⟨told.mp,fun _ => told.mpr⟩

theorem output_of_conversion {request : ConvertRequest} {input : String}
    (none : (conversion request input).errors = []) : (conversion request input).output ≠ .none := by
  unfold conversion at none ⊢
  split
  next t converted => exact output_of_convertTo converted
  next failure failed =>
    rw [failed] at none
    exact (messages_of_convertTo failed none).elim

theorem run_convert {request : ConvertRequest} {input : String} {s : σ}
    (given : ((read h request.source).run s).1 = .ok input) :
    ((Request.convert request).run h).run s =
      (runConvert h request input).run ((read h request.source).run s).2 := by
  cases outcome : (read h request.source).run s with
  | mk result after =>
    rw [outcome] at given
    obtain rfl : result = .ok input := given
    simp only [Request.run,withInput,StateT.run_bind,outcome]
    rfl

/-- All formats alike give an output or fail for one reason: the input is no document, or a service
strays, and the latter alone if the input is valid. What fails has no output and an error to tell,
what does not has an output. A selector that names no format is the error whatever the input. So the
exit status is zero exactly if there is an output without errors, files and streams aside. -/
theorem conversion_ends (o : Options) (input : String) :
    ((∀ f, ∃ t, convertTo o f input = .ok t ∧ t.output ≠ none) ∨
      ∃ e, ∀ f, ∃ warnings, convertTo o f input = .error ⟨e,warnings⟩) ∧
    (∀ f, (∃ failure, convertTo o f input = .error failure) ↔
      (∃ failure, Document.read input = .error failure) ∨
        ∃ d notices, Document.read input = .ok (d,notices) ∧ d.Strays) ∧
    ((validate input).valid = true → ∀ f, (∃ failure, convertTo o f input = .error failure) ↔
      ∃ d notices, Document.read input = .ok (d,notices) ∧ d.Strays) ∧
    (∀ selector failure, convert o selector input = .error failure →
      (Conversion.ofFailure failure).output = none ∧
        (Conversion.ofFailure failure).errors ≠ []) ∧
    (∀ selector t, convert o selector input = .ok t → t.output ≠ none) ∧
    (∀ selector, (∀ f : Format, selector ≠ f.text) →
      convert o (some selector) input = .error ⟨.unsupportedFormat selector,[]⟩) ∧
    ∀ (σ : Type) (h : Host (StateM σ)) (s : σ) (request : ConvertRequest), request.options = o →
      ((read h request.source).run s).1 = .ok input →
      let t := conversion request input
      let report := (((Request.convert request).run h).run s).1
      (report.code = 0 → t.output ≠ none ∧ t.errors = []) ∧
        (h.Faultless → (report.code = 0 ↔ t.output ≠ none ∧ t.errors = [])) := by
  refine ⟨convertTo_alike o input,fun f => convertTo_failed_iff,fun valid f => ?_,
    fun selector failure failed => ⟨rfl,messages_of_convert failed⟩,
    fun selector t converted => output_of_convert converted,
    fun selector unknown => convert_of_unknown unknown,?_⟩
  · rw [convertTo_failed_iff]
    refine or_iff_right ?_
    rintro ⟨failure,unread⟩
    obtain ⟨d,notices,read⟩ := valid_validate_iff.mp valid
    exact nomatch unread.symm.trans read
  · rintro σ h s request rfl given
    dsimp only
    rw [run_convert given]
    obtain ⟨only,also⟩ := code_runConvert (h := h) request input ((read h request.source).run s).2
    exact ⟨fun zero => ⟨output_of_conversion (only zero),only zero⟩,fun faultless =>
      ⟨fun zero => ⟨output_of_conversion (only zero),only zero⟩,fun fine => also faultless fine.2⟩⟩

/-- A service that joins a namespace that is not there. -/
def strayText : String := "services:
  web:
    image: web
    network_mode: container:ghost
"

def stray : Document :=
  { services := [{ name := "web", image := "web", networkMode := some (.container "ghost") }] }

/-- It is valid, cannot be converted to any format, and whatever else is asked for, the program does
not end as if it had been. -/
theorem conversion_ends_stray :
    (validate strayText).valid = true ∧
      (∀ f, ∃ failure, convertTo {} f strayText = .error failure) ∧
      ∀ request : ConvertRequest, request.options = {} → request.source = .standardInput →
        (((Request.convert request).run Workspace.host).run
          { standardInput := strayText }).1.code ≠ 0 := by
  have read : Document.read strayText = .ok (stray,[]) := by decide +kernel
  have valid : (validate strayText).valid = true := valid_validate_iff.mpr ⟨stray,[],read⟩
  have strays : stray.Strays :=
    ⟨_,List.mem_cons_self,"ghost",rfl,.inr (by decide)⟩
  obtain ⟨_,_,fails,_,_,_,ends⟩ := conversion_ends {} strayText
  have failed (f : Format) : ∃ failure, convertTo {} f strayText = .error failure :=
    (fails valid f).mpr ⟨stray,[],read,strays⟩
  refine ⟨valid,failed,fun request options source zero => ?_⟩
  have given : ((Program.read Workspace.host request.source).run
      { standardInput := strayText }).1 = .ok strayText := by
    rw [source]
    rfl
  obtain ⟨only,_⟩ :=
    ends Workspace Workspace.host { standardInput := strayText } request options given
  obtain ⟨failure,same⟩ := failed request.format
  have none : (conversion request strayText).output = none := by
    unfold conversion
    rw [options,same]
    rfl
  exact (only zero).1 none

end ComposeToPodman.Program
