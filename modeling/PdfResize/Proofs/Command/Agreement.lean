import PdfResize.Proofs.Base64
import PdfResize.Proofs.Command.PageCount
import PdfResize.Proofs.Number.Order

/-! Fitting bytes and carrying out a command to fit them come to the same, in what they answer and in what they refuse. -/

namespace PdfResize

/-! ### Options -/

namespace FitOptions

/-- The options with a tolerance, and those by default where none is given. -/
def ofTolerance (tolerance : Option Single) : FitOptions := tolerance.elim {} FitOptions.mk

/-- The options that stand where no tolerance is given are allowed. -/
theorem validate_default : ({} : FitOptions).validate = .ok () := by
  -- The default tolerance is one closed number, so the check is run.
  decide +kernel

/-- A tolerance that is no number, has no end, is below zero or reaches one is refused. -/
theorem validate_of_not_fraction {tolerance : Single}
    (refused : tolerance = .nan ∨ (∃ negative, tolerance = .infinite negative) ∨
      tolerance < 0 ∨ 1 ≤ tolerance) :
    (⟨tolerance⟩ : FitOptions).validate = .error (.operation (.tolerance tolerance)) := by
  have outside : ¬ (tolerance.isFinite ∧ 0 ≤ tolerance ∧ tolerance < 1) := by
    rintro ⟨finite, nonneg, below⟩
    -- Each of the four is outside one of the three bounds.
    rcases refused with rfl | ⟨negative, rfl⟩ | negative | large
    · cases finite
    · cases finite
    · exact Binary.not_lt_of_le nonneg negative
    · exact Binary.not_lt_of_le large below
  exact if_neg outside

end FitOptions

/-- The options of a command are those with its tolerance, if they are allowed. -/
theorem Command.options_eq (command : Command) :
    command.options = (FitOptions.ofTolerance command.tolerance).validate.map fun _ =>
      FitOptions.ofTolerance command.tolerance := by
  unfold Command.options
  cases command.tolerance with
  | none =>
    -- A command does not check the options by default, which are allowed.
    show _ = ({} : FitOptions).validate.map _
    rw [FitOptions.validate_default]
    rfl
  | some tolerance =>
    show (⟨tolerance⟩ : FitOptions).validate.bind _ = (⟨tolerance⟩ : FitOptions).validate.map _
    cases (⟨tolerance⟩ : FitOptions).validate with
    | error error => rfl
    | ok _ => rfl

namespace Codec

variable {codec : Codec} {bytes : Bytes} {file : File codec.Layout} {options : FitOptions}
  {target : PageSize} {spec : TargetSpec} {tolerance : Option Single} {error : FitError}

/-! ### Fitting bytes -/

/-- Options that are refused are refused before the bytes are looked at. -/
theorem fit_of_validate_error (refused : options.validate = .error error) :
    codec.fit bytes target options = .error error := by
  -- The options are looked at before the bytes are.
  simp only [fit, refused, bind, Except.bind]

/-- Bytes that cannot be read are not fitted. -/
theorem fit_of_read_error (allowed : options.validate = .ok ()) (unread : codec.read bytes = .error error) :
    codec.fit bytes target options = .error error := by
  -- Once the options are allowed, the first thing that can fail is the read.
  simp only [fit, allowed, unread, bind, Except.bind]

/-- Bytes that can be read are fitted like the file that they are read as, which is saved where that changes it. -/
theorem fit_of_read (allowed : options.validate = .ok ()) (loaded : codec.read bytes = .ok file) :
    codec.fit bytes target options = do
      let (outcome, fitted) ← file.fitDocument options target
      let (output, _) ← codec.output outcome fitted
      return output := by
  simp only [fit, allowed, loaded, bind, Except.bind]
  cases file.fitDocument options target with
  | error error => rfl
  | ok done =>
    -- New bytes are written where there are any, on either way.
    obtain ⟨outcome, fitted⟩ := done
    cases changed : outcome.isChanged with
    | false => simp [output_of_unchanged, changed, pure, Except.pure]
    | true =>
      simp only [output, changed, if_true, bind, Except.bind]
      cases codec.write fitted with
      | error error => rfl
      | ok written => rfl

/-! ### Commands -/

/-- A command whose options are refused is refused with them, before anything else is looked at. -/
theorem prepare_of_validate_error {command : Command}
    (refused : (FitOptions.ofTolerance command.tolerance).validate = .error error) :
    codec.prepare command = .error error := by
  -- A command turns its tolerance into options first of all.
  unfold prepare
  rw [Command.options_eq, refused]
  rfl

/--
What a response to fitting bytes is, by what fitting them to a size gives.

An error is reported as it is, and new bytes are answered as text and counted.
-/
theorem run_fit_cases (resolved : spec.resolve = .ok target) :
    (∃ error, codec.fit bytes target (.ofTolerance tolerance) = .error error ∧
      codec.run ⟨.fit, bytes, spec, tolerance⟩ = Command.failure error) ∨
    ∃ outcome output pages, codec.fit bytes target (.ofTolerance tolerance) = .ok output ∧
      output.isSome = outcome.isChanged ∧ codec.run ⟨.fit, bytes, spec, tolerance⟩ =
        Command.fitResponse ⟨.fit, bytes, spec, tolerance⟩ outcome output pages := by
  cases allowed : (FitOptions.ofTolerance tolerance).validate with
  | error error =>
    exact .inl ⟨error, fit_of_validate_error allowed,
      run_of_prepare_error (prepare_of_validate_error allowed)⟩
  | ok _ =>
    have chosen : (Command.mk .fit bytes spec tolerance).options = .ok (.ofTolerance tolerance) := by
      rw [Command.options_eq, allowed]
      rfl
    cases loaded : codec.read bytes with
    | error error =>
      refine .inl ⟨error, fit_of_read_error allowed loaded, run_of_prepare_error ?_⟩
      simp only [prepare, chosen, resolved, loaded, bind, Except.bind]
    | ok file =>
      -- Both go on with one file, one target and the same options.
      have prepared := prepare_eq_ok_iff.2 ⟨chosen, resolved, loaded⟩
      rw [fit_of_read allowed loaded]
      rcases runFit_cases prepared with ⟨error, failed, ends⟩ |
        ⟨outcome, fitted, fits, ⟨same, ends⟩ | ⟨changed, ⟨cause, failed, ends⟩ | ⟨out, left, saved, ends⟩⟩⟩
      · rw [failed]
        exact .inl ⟨error, rfl, run_of_runFit_error rfl ends⟩
      · simp only [fits, bind, Except.bind, output_of_unchanged same]
        exact .inr ⟨outcome, none, _, rfl, same.symm, run_of_runFit rfl ends⟩
      · simp only [fits, bind, Except.bind, output_of_save_error changed failed]
        exact .inl ⟨_, rfl, run_of_runFit_error rfl ends⟩
      · simp only [fits, bind, Except.bind, output_of_save changed saved]
        exact .inr ⟨outcome, some out, _, rfl, changed.symm, run_of_runFit rfl ends⟩

/-- A command to fit bytes is carried out exactly when its target names a size that they can be fitted to. -/
theorem run_fit_success_iff : (codec.run ⟨.fit, bytes, spec, tolerance⟩).success = true ↔
    ∃ target output, spec.resolve = .ok target ∧
      codec.fit bytes target (.ofTolerance tolerance) = .ok output := by
  -- Both paths run the same fit on the same document, so each end of one is matched with an end of the
  -- other.
  constructor
  · intro done
    obtain ⟨_, target, _, prepared⟩ := exists_prepared_of_success done
    have resolved : spec.resolve = .ok target := (prepare_eq_ok_iff.1 prepared).2.1
    rcases run_fit_cases resolved with ⟨error, _, answer⟩ | ⟨outcome, output, pages, given, _⟩
    · -- A failure is no success.
      rw [answer] at done
      cases done
    · exact ⟨target, output, resolved, given⟩
  · rintro ⟨target, output, resolved, given⟩
    rcases run_fit_cases resolved with ⟨error, failed, _⟩ | ⟨outcome, again, pages, _, _, answer⟩
    · rw [failed] at given
      cases given
    · rw [answer]
      rfl

/--
Carrying out a command to fit bytes succeeds exactly when its target names a size that the bytes can be fitted to.

A response that succeeds says that nothing was changed where fitting the bytes gives no new ones, and has the
text and the length of the new ones where it does. The same error is reported where fitting fails, be it that the
bytes cannot be loaded, that they cannot be fitted or that the result cannot be saved. A tolerance that is
no fraction from zero to below one is such an error, whatever the bytes are.
-/
theorem run_fit_agrees (codec : Codec) (bytes : Bytes) (spec : TargetSpec) (tolerance : Option Single) :
    ((codec.run ⟨.fit, bytes, spec, tolerance⟩).success = true ↔
      ∃ target output, spec.resolve = .ok target ∧
        codec.fit bytes target (.ofTolerance tolerance) = .ok output) ∧
    (∀ target, spec.resolve = .ok target →
      (∀ error, codec.fit bytes target (.ofTolerance tolerance) = .error error →
        codec.run ⟨.fit, bytes, spec, tolerance⟩ = Command.failure error) ∧
      ((codec.run ⟨.fit, bytes, spec, tolerance⟩).success = true → ∃ outcome metrics,
        (codec.run ⟨.fit, bytes, spec, tolerance⟩).outcome = some outcome ∧
        (codec.run ⟨.fit, bytes, spec, tolerance⟩).metrics = some metrics ∧
        metrics.inputSize = bytes.length ∧
        (codec.fit bytes target (.ofTolerance tolerance) = .ok none ↔
          outcome = .unchanged ∧ (codec.run ⟨.fit, bytes, spec, tolerance⟩).data = none ∧
            metrics.outputSize = metrics.inputSize) ∧
        ∀ fitted, codec.fit bytes target (.ofTolerance tolerance) = .ok (some fitted) ↔
          (outcome = .scaledUp ∨ ∃ factor, outcome = .scaledDown factor) ∧
            (codec.run ⟨.fit, bytes, spec, tolerance⟩).data = some (Base64.encode fitted) ∧
            metrics.outputSize = fitted.length)) ∧
    ∀ refused, tolerance = some refused →
      (refused = .nan ∨ (∃ negative, refused = .infinite negative) ∨ refused < 0 ∨ 1 ≤ refused) →
      codec.run ⟨.fit, bytes, spec, tolerance⟩ = Command.failure (.operation (.tolerance refused)) ∧
      ∀ target, codec.fit bytes target (.ofTolerance tolerance) =
        .error (.operation (.tolerance refused)) := by
  refine ⟨run_fit_success_iff, ?_, ?_⟩
  · intro target resolved
    rcases run_fit_cases resolved with ⟨error, failed, answer⟩ |
      ⟨outcome, output, pages, given, changes, answer⟩
    · rw [failed, answer]
      refine ⟨?_, ?_⟩
      · rintro _ ⟨⟩
        rfl
      · rintro ⟨⟩
    · rw [given, answer]
      refine ⟨?_, fun _ => ⟨outcome, _, rfl, rfl, rfl, ?_⟩⟩
      · rintro _ ⟨⟩
      · -- New bytes are those whose text is answered, as different bytes have different texts.
        cases outcome with
        | unchanged =>
          cases output with
          | none => simp [Command.fitResponse]
          | some fitted => cases changes
        | scaledUp =>
          cases output with
          | none => cases changes
          | some fitted => simp [Command.fitResponse, Base64.encode_inj]
        | scaledDown factor =>
          cases output with
          | none => cases changes
          | some fitted => simp [Command.fitResponse, Base64.encode_inj]
  · rintro refused rfl outside
    -- Both check the options first, so neither the bytes nor the target matter.
    have refusal := FitOptions.validate_of_not_fraction outside
    exact ⟨run_of_prepare_error (prepare_of_validate_error refusal),
      fun _ => fit_of_validate_error refusal⟩

/-- Plain files that can be loaded and fitted, but not saved. -/
def readOnly : Codec := { plain with save := fun _ => .error "read-only" }

/--
A fit to half the size gives bytes and answers their text.

Where they cannot be saved, or the tolerance is refused, both ways fail with one error.
-/
theorem sharedFile_run_fit_agrees :
    TargetSpec.resolve (.custom ⟨250, 300⟩) = .ok ⟨250, 300⟩ ∧
      (Command.run ⟨.fit, sharedFile, .custom ⟨250, 300⟩, none⟩).outcome = some (.scaledDown 0.5) ∧
      (∃ fitted metrics, File.fit sharedFile ⟨250, 300⟩ {} = .ok (some fitted) ∧
        (Command.run ⟨.fit, sharedFile, .custom ⟨250, 300⟩, none⟩).data = some (Base64.encode fitted) ∧
        (Command.run ⟨.fit, sharedFile, .custom ⟨250, 300⟩, none⟩).metrics = some metrics ∧
        metrics.outputSize = fitted.length) ∧
      readOnly.fit sharedFile ⟨250, 300⟩ {} = .error (.operation (.save "read-only")) ∧
      readOnly.run ⟨.fit, sharedFile, .custom ⟨250, 300⟩, none⟩ =
        Command.failure (.operation (.save "read-only")) ∧
      (1 : Single) ≤ 2 ∧
      Command.run ⟨.fit, sharedFile, .custom ⟨250, 300⟩, some 2⟩ =
        Command.failure (.operation (.tolerance 2)) ∧
      File.fit sharedFile ⟨250, 300⟩ ⟨2⟩ = .error (.operation (.tolerance 2)) := by
  have resolved : TargetSpec.resolve (.custom ⟨250, 300⟩) = .ok ⟨250, 300⟩ := by decide +kernel
  have shrinks : (Command.run ⟨.fit, sharedFile, .custom ⟨250, 300⟩, none⟩).outcome =
      some (.scaledDown 0.5) := by
    decide +kernel
  have large : (1 : Single) ≤ 2 := by decide +kernel
  have done : (Command.run ⟨.fit, sharedFile, .custom ⟨250, 300⟩, none⟩).success = true := by
    decide +kernel
  have unsaved : readOnly.fit sharedFile ⟨250, 300⟩ {} = .error (.operation (.save "read-only")) := by
    decide +kernel
  obtain ⟨succeeds, agrees, _⟩ := run_fit_agrees plain sharedFile (.custom ⟨250, 300⟩) none
  obtain ⟨outcome, metrics, reached, counted, _, unchanged, changed⟩ := (agrees _ resolved).2 done
  obtain ⟨_, output, named, given⟩ := succeeds.1 done
  rw [resolved] at named
  cases named
  obtain ⟨_, _, refuses⟩ := run_fit_agrees plain sharedFile (.custom ⟨250, 300⟩) (some 2)
  obtain ⟨refused, failed⟩ := refuses 2 rfl (.inr (.inr (.inr large)))
  obtain ⟨_, fails, _⟩ := run_fit_agrees readOnly sharedFile (.custom ⟨250, 300⟩) none
  have unanswered := (fails _ resolved).1 _ unsaved
  cases output with
  | none =>
    -- The outcome is another one.
    rw [Command.run, reached, (unchanged.1 given).1] at shrinks
    cases shrinks
  | some fitted =>
    obtain ⟨_, text, size⟩ := (changed fitted).1 given
    exact ⟨resolved, shrinks, ⟨fitted, metrics, given, text, counted, size⟩, unsaved, unanswered, large,
      refused, failed _⟩

end Codec

end PdfResize
