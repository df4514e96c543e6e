import PdfResize.Proofs.Command.Agreement
import PdfResize.Proofs.Fit.Faults

/-! A check tells beforehand what a fit of the same file will answer, as far as the sizes of the pages decide that. -/

namespace PdfResize

/-- An error of the tolerance, the target, the file or the size of a page, which is found before anything is fitted. -/
def FitError.isOfCheck : FitError → Bool
  | load _ | invalidGeometry _ _ | missingMediaBox _ => true
  | target (.unknown _) | target (.unusable _) | operation (.tolerance _) => true
  | target (.tooSmall _) | operation _ => false

/-- A response to a failure says why the command failed and nothing else, and no other response has an error. -/
structure Response.IsConsistent (response : Response) : Prop where
  error : response.success = false ↔ response.error.isSome
  data : response.success = false → response.data = none
  outcome : response.success = false → response.outcome = none
  withinTolerance : response.success = false → response.withinTolerance = none
  metrics : response.success = false → response.metrics = none

variable {document : Document} {options : FitOptions} {target : PageSize} {error : FitError}

/-! ### Errors of a check -/

/-- Refused options stop a check as well. -/
theorem FitOptions.isOfCheck_of_validate_error (failed : options.validate = .error error) :
    error.isOfCheck := by
  -- Only a tolerance outside its range is refused.
  unfold validate at failed
  split at failed
  · cases failed
  · cases failed
    rfl

/-- A target that is no usable size stops a check as well. -/
theorem PageSize.isOfCheck_of_validate_error (failed : target.validate = .error error) :
    error.isOfCheck := by
  -- Only a side that is not positive or not finite is refused.
  unfold validate at failed
  split at failed
  · cases failed
  · cases failed
    rfl

/-- A name that stands for no size stops a check as well. -/
theorem PageSize.isOfCheck_of_ofName_error {name : String} (failed : PageSize.ofName name = .error error) :
    error.isOfCheck := by
  -- Only a name that the table lacks is refused.
  unfold ofName at failed
  split at failed
  · cases failed
  · cases failed
    rfl

/-- A target that cannot be resolved stops a check as well. -/
theorem TargetSpec.isOfCheck_of_resolve_error {spec : TargetSpec} (failed : spec.resolve = .error error) :
    error.isOfCheck := by
  -- Only a name can fail to give a size, and any size can fail to be usable.
  have checked : ∀ {size : PageSize}, (do size.validate; return size) = .error error →
      error.isOfCheck := by
    intro size failed
    rcases bind_eq_error_iff.1 failed with unusable | ⟨_, _, other⟩
    · exact PageSize.isOfCheck_of_validate_error unusable
    · cases other
  cases spec with
  | custom size => exact checked failed
  | named name =>
    rcases bind_eq_error_iff.1 failed with unnamed | ⟨size, _, refused⟩
    · exact PageSize.isOfCheck_of_ofName_error unnamed
    · exact checked refused

/-- Bytes that cannot be loaded stop a check as well. -/
theorem Codec.isOfCheck_of_read_error {codec : Codec} {bytes : Bytes}
    (failed : codec.read bytes = .error error) : error.isOfCheck := by
  -- Whatever keeps the bytes from being loaded, it is reported as that.
  unfold Codec.read at failed
  cases loaded : codec.load bytes with
  | ok file =>
    rw [loaded] at failed
    cases failed
  | error cause =>
    rw [loaded] at failed
    cases failed
    rfl

/-- Whatever stops the tolerance test of a document stops a check. -/
theorem Document.isOfCheck_of_isWithin_error (failed : document.isWithin options target = .error error) :
    error.isOfCheck := by
  -- The target is not usable, or a page has no rectangle to measure or no usable size.
  rcases isWithin_eq_error_cases failed with ⟨_, rfl⟩ | unmeasured
  · rfl
  · obtain ⟨_, _, rfl | ⟨_, _, rfl⟩⟩ := exists_page_of_measuredPages_error unmeasured
    · rfl
    · rfl

/-- The refusal to rewrite a page is never the error of a check. -/
theorem FitError.isOfCheck_of_refusedPage? {id : ObjectId} (refused : error.refusedPage? = some id) :
    error.isOfCheck = false := by
  -- Of all errors, only those of an operation name a page that is refused, and a check performs none.
  unfold refusedPage? OperationError.page? at refused
  grind [FitError.isOfCheck]

/-- The command with another job on the same file. -/
def Command.withJob (command : Command) (job : Job) : Command := { command with job }

/-- A command that is given a job has that job. -/
theorem Command.job_withJob (command : Command) (job : Job) : (command.withJob job).job = job := rfl

/-- Failures are consistent. -/
theorem Command.isConsistent_failure (error : FitError) : (failure error).IsConsistent where
  -- A failure sets the error and none of the other fields.
  error := by simp [failure]
  data _ := rfl
  outcome _ := rfl
  withinTolerance _ := rfl
  metrics _ := rfl

/-- A response that succeeds is consistent when it has no error. -/
theorem Response.isConsistent_of_success {response : Response} (done : response.success = true)
    (none : response.error = none) : response.IsConsistent := by
  -- All but the first part is about failures.
  refine ⟨?_, ?_, ?_, ?_, ?_⟩ <;> simp [done, none]

namespace Codec

variable {codec : Codec} {command : Command} {file : File codec.Layout}

/-- What keeps a command from being prepared is found by a check. -/
theorem isOfCheck_of_prepare_error (failed : codec.prepare command = .error error) : error.isOfCheck := by
  -- The options are refused first, then the target and then the file.
  unfold prepare at failed
  rcases bind_eq_error_iff.1 failed with unset | ⟨_, _, left⟩
  · rw [Command.options_eq] at unset
    cases allowed : (FitOptions.ofTolerance command.tolerance).validate with
    | ok _ =>
      rw [allowed] at unset
      cases unset
    | error reason =>
      rw [allowed] at unset
      cases unset
      exact FitOptions.isOfCheck_of_validate_error allowed
  · rcases bind_eq_error_iff.1 left with unresolved | ⟨_, _, left⟩
    · exact TargetSpec.isOfCheck_of_resolve_error unresolved
    · rcases bind_eq_error_iff.1 left with unread | ⟨_, _, other⟩
      · exact isOfCheck_of_read_error unread
      · cases other

/-! ### Responses -/

/-- Every response is consistent, whatever its command is. -/
theorem isConsistent_run (codec : Codec) (command : Command) : (codec.run command).IsConsistent := by
  -- A command fails when it is prepared or when it is carried out, and then all else is left out.
  cases prepared : codec.prepare command with
  | error error =>
    rw [run_of_prepare_error prepared]
    exact Command.isConsistent_failure error
  | ok parts =>
    obtain ⟨options, target, file⟩ := parts
    cases job : command.job with
    | fit =>
      rcases runFit_cases prepared with ⟨error, _, ends⟩ |
        ⟨outcome, fitted, _, ⟨_, ends⟩ | ⟨_, ⟨cause, _, ends⟩ | ⟨bytes, left, _, ends⟩⟩⟩
      · exact run_of_runFit_error job ends ▸ Command.isConsistent_failure error
      · exact run_of_runFit job ends ▸ Response.isConsistent_of_success rfl rfl
      · exact run_of_runFit_error job ends ▸ Command.isConsistent_failure _
      · exact run_of_runFit job ends ▸ Response.isConsistent_of_success rfl rfl
    | check =>
      rw [run_of_check job prepared]
      cases file.document.isWithin options target with
      | error error => exact Command.isConsistent_failure error
      | ok within => exact Response.isConsistent_of_success rfl rfl

/-- A check and a fit both fail with an error of the check, or else the check says whether the file fits. -/
theorem run_check_cases (codec : Codec) (command : Command) :
    (∃ error : FitError, error.isOfCheck ∧
      codec.run (command.withJob .check) = Command.failure error ∧
      codec.run (command.withJob .fit) = Command.failure error) ∨
    ∃ options target file within, (∀ job, codec.prepare (command.withJob job) =
        .ok (options, target, file)) ∧
      file.document.isWithin options target = .ok within ∧
      codec.run (command.withJob .check) =
        command.checkResponse within file.document.pages.length := by
  cases prepared : codec.prepare command with
  | error error =>
    have failed : ∀ job, codec.run (command.withJob job) = Command.failure error :=
      fun job => run_of_prepare_error prepared
    exact .inl ⟨error, isOfCheck_of_prepare_error prepared, failed .check, failed .fit⟩
  | ok parts =>
    obtain ⟨options, target, file⟩ := parts
    -- Preparing takes no notice of the job.
    have each : ∀ job, codec.prepare (command.withJob job) = .ok (options, target, file) :=
      fun _ => prepared
    have checks := run_of_check (command.job_withJob .check) (each .check)
    cases checked : file.document.isWithin options target with
    | error error =>
      -- What keeps the document from being checked is found by the fit as well, before anything else.
      rw [checked] at checks
      have refused : file.fitDocument options target = .error error := by
        rw [File.fitDocument_eq, Document.fit_of_isWithin_error checked]
        rfl
      exact .inl ⟨error, Document.isOfCheck_of_isWithin_error checked, checks,
        run_of_runFit_error (command.job_withJob .fit) (runFit_of_fitDocument_error (each .fit) refused)⟩
    | ok within =>
      rw [checked] at checks
      exact .inr ⟨options, target, file, within, each, checked, checks⟩

/--
The command fails as no check does.

The target is too small, a page refuses an operation or the fitted file cannot be saved.
-/
def FailsBeyondCheck (codec : Codec) (command : Command) : Prop :=
  ∃ error, codec.runFit command = .error error ∧ codec.run command = Command.failure error ∧
    error.isOfCheck = false ∧
    ((∃ size, error = .target (.tooSmall size)) ∨ (∃ id, error.refusedPage? = some id) ∨
      ∃ cause, error = .operation (.save cause))

/-- A file within the tolerance is left alone by a fit. -/
theorem run_fit_of_isWithin (job : command.job = .fit)
    (prepared : codec.prepare command = .ok (options, target, file))
    (within : file.document.isWithin options target = .ok true) :
    codec.run command = command.fitResponse .unchanged none file.document.pages.length := by
  -- A document within the tolerance is answered as it is, so nothing is saved.
  have fits : file.fitDocument options target = .ok (.unchanged, file) := by
    rw [File.fitDocument_eq, Document.fit_of_isWithin within]
    rfl
  exact run_of_runFit job (runFit_of_unchanged prepared fits rfl)

/-- A file outside the tolerance is changed by a fit and saved, or the fit finds what no check looks for. -/
theorem run_fit_of_not_isWithin (job : command.job = .fit)
    (prepared : codec.prepare command = .ok (options, target, file))
    (outside : file.document.isWithin options target = .ok false) :
    (∃ outcome bytes pages, outcome.isChanged ∧
      codec.run command = command.fitResponse outcome (some bytes) pages) ∨
      codec.FailsBeyondCheck command := by
  -- An error of the fit of the document is that of the command.
  have fails {error : FitError} (failed : (file.document.fit options target).1 = .error error) :
      codec.runFit command = .error error := by
    refine runFit_of_fitDocument_error prepared ?_
    rw [File.fitDocument_eq, failed]
    rfl
  rcases Document.fit_of_not_isWithin outside with ⟨outcome, reached, changed⟩ | tooSmall |
    ⟨page, _, error, failed, refused⟩
  · have fits : file.fitDocument options target = .ok (outcome,
        { file with document := (file.document.fit options target).2 }) := by
      rw [File.fitDocument_eq, reached]
      rfl
    -- What is left is to save the changed file.
    cases saved : codec.save { file with document := (file.document.fit options target).2 } with
    | error cause =>
      have ends := runFit_of_save_error prepared fits changed saved
      exact .inr ⟨_, ends, run_of_runFit_error job ends, rfl, .inr (.inr ⟨cause, rfl⟩)⟩
    | ok result =>
      exact .inl ⟨outcome, _, _, changed, run_of_runFit job (runFit_of_save prepared fits changed saved)⟩
  · have ends := fails tooSmall
    exact .inr ⟨_, ends, run_of_runFit_error job ends, rfl, .inl ⟨target, rfl⟩⟩
  · have ends := fails failed
    exact .inr ⟨error, ends, run_of_runFit_error job ends, FitError.isOfCheck_of_refusedPage? refused,
      .inr (.inl ⟨page.id, refused⟩)⟩

/--
Checking a file predicts what fitting it with the same target and tolerance answers.

Where the check fails, the fit fails with the same error. The check finds the file within the tolerance
exactly when the fit succeeds and changes nothing. Where it does not, the fit succeeds with new bytes, or it
fails for a target that is too small, for a page that refuses an operation or because the new file cannot be
saved, and for nothing that a check fails for. Either response has an error exactly when it is one of a failure,
and then it has nothing else.
-/
theorem check_predicts_fit (codec : Codec) (command : Command) :
    ((codec.run (command.withJob .check)).success = false →
      codec.run (command.withJob .fit) = codec.run (command.withJob .check)) ∧
    ((codec.run (command.withJob .check)).success = true ∧
        (codec.run (command.withJob .check)).withinTolerance = some true ↔
      (codec.run (command.withJob .fit)).success = true ∧
        (codec.run (command.withJob .fit)).outcome = some .unchanged ∧
        (codec.run (command.withJob .fit)).data = none) ∧
    ((codec.run (command.withJob .check)).success = true →
      (codec.run (command.withJob .check)).withinTolerance = some true ∨
        (codec.run (command.withJob .check)).withinTolerance = some false) ∧
    ((codec.run (command.withJob .check)).success = true →
      (codec.run (command.withJob .check)).withinTolerance = some false →
      ((codec.run (command.withJob .fit)).success = true ∧ ∃ outcome data,
        (codec.run (command.withJob .fit)).outcome = some outcome ∧ outcome.isChanged ∧
        (codec.run (command.withJob .fit)).data = some data) ∨
      codec.FailsBeyondCheck (command.withJob .fit)) ∧
    ∀ job, (codec.run (command.withJob job)).IsConsistent := by
  -- The parts share one case analysis: what stops the check, and the two answers that it can give.
  rw [← and_assoc, ← and_assoc, ← and_assoc]
  refine ⟨?_, fun job => isConsistent_run codec _⟩
  rcases run_check_cases codec command with ⟨error, _, checks, fits⟩ |
    ⟨options, target, file, within, prepared, checked, checks⟩
  · -- Both fail, and neither response says anything else.
    rw [checks, fits]
    simp [Command.failure]
  · cases within with
    | true =>
      rw [checks, run_fit_of_isWithin rfl (prepared .fit) checked]
      simp [Command.checkResponse, Command.fitResponse]
    | false =>
      rw [checks]
      rcases run_fit_of_not_isWithin rfl (prepared .fit) checked with
        ⟨outcome, bytes, pages, changed, fits⟩ | fails
      · rw [fits]
        cases outcome with
        | unchanged => cases changed
        | scaledUp => simp [Command.checkResponse, Command.fitResponse, Outcome.isChanged]
        | scaledDown factor => simp [Command.checkResponse, Command.fitResponse, Outcome.isChanged]
      · have failed := fails
        obtain ⟨error, _, fits, _⟩ := failed
        rw [fits]
        simp [Command.checkResponse, Command.failure, fails]

/-- A check of the file with a shared page. -/
def checkShared (target : PageSize) (tolerance : Option Single) : Command :=
  ⟨.check, sharedFile, .custom target, tolerance⟩

/--
The four ways that a check and a fit can go together.

Both fail, the file fits already, the fit shrinks it, or the fit would shrink it but the result cannot be saved.
-/
theorem sharedFile_check_predicts_fit :
    ((checkShared ⟨250, 300⟩ (some 1)).run.success = false ∧
      ((checkShared ⟨250, 300⟩ (some 1)).withJob .fit).run = (checkShared ⟨250, 300⟩ (some 1)).run) ∧
    ((checkShared ⟨500, 600⟩ none).run.withinTolerance = some true ∧
      ((checkShared ⟨500, 600⟩ none).withJob .fit).run.outcome = some .unchanged ∧
      ((checkShared ⟨500, 600⟩ none).withJob .fit).run.data = none) ∧
    ((checkShared ⟨250, 300⟩ none).run.withinTolerance = some false ∧
      ∃ outcome data, ((checkShared ⟨250, 300⟩ none).withJob .fit).run.outcome = some outcome ∧
        outcome.isChanged ∧ ((checkShared ⟨250, 300⟩ none).withJob .fit).run.data = some data) ∧
    (readOnly.run (checkShared ⟨250, 300⟩ none)).withinTolerance = some false ∧
      (readOnly.run ((checkShared ⟨250, 300⟩ none).withJob .fit)).success = false ∧
      readOnly.FailsBeyondCheck ((checkShared ⟨250, 300⟩ none).withJob .fit) := by
  -- The four commands are evaluated, and each part of the theorem is applied to the one that it is about.
  have refused : (checkShared ⟨250, 300⟩ (some 1)).run.success = false := by decide +kernel
  have within : (checkShared ⟨500, 600⟩ none).run.success = true ∧
      (checkShared ⟨500, 600⟩ none).run.withinTolerance = some true := by
    decide +kernel
  have outside : (checkShared ⟨250, 300⟩ none).run.success = true ∧
      (checkShared ⟨250, 300⟩ none).run.withinTolerance = some false := by
    decide +kernel
  have shrinks : ((checkShared ⟨250, 300⟩ none).withJob .fit).run.success = true := by decide +kernel
  have unsaved : (readOnly.run (checkShared ⟨250, 300⟩ none)).success = true ∧
      (readOnly.run (checkShared ⟨250, 300⟩ none)).withinTolerance = some false ∧
      (readOnly.run ((checkShared ⟨250, 300⟩ none).withJob .fit)).success = false := by
    decide +kernel
  obtain ⟨_, unchanged, unanswered⟩ :=
    (check_predicts_fit plain (checkShared ⟨500, 600⟩ none)).2.1.1 within
  have same := (check_predicts_fit plain (checkShared ⟨250, 300⟩ (some 1))).1 refused
  obtain ⟨checks, differs, fails⟩ := unsaved
  refine ⟨⟨refused, same⟩, ⟨within.2, unchanged, unanswered⟩, ⟨outside.2, ?_⟩, differs, fails, ?_⟩
  · rcases (check_predicts_fit plain (checkShared ⟨250, 300⟩ none)).2.2.2.1 outside.1 outside.2 with
      ⟨_, changed⟩ | ⟨error, _, failed, _⟩
    · exact changed
    · rw [Command.run, failed] at shrinks
      cases shrinks
  · -- A check saves nothing, so only the fit is kept from its end.
    rcases (check_predicts_fit readOnly (checkShared ⟨250, 300⟩ none)).2.2.2.1 checks differs with
      ⟨done, _⟩ | beyond
    · rw [fails] at done
      cases done
    · exact beyond

end Codec

end PdfResize
