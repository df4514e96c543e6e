import PdfResize.Program
import PdfResize.Proofs.Command.Responses
import PdfResize.Proofs.Fit.Pages
import PdfResize.Proofs.Fit.Reaching

/-! A fit keeps the list of pages, so that every way of counting the pages of a file gives the same number. -/

namespace PdfResize

namespace PlainFile

/-- What is written about the layout of a file says nothing about the root of its document. -/
theorem get?_streamTrailer_root (size : Nat) (runs : List (Nat × List Place)) (trailer : Dictionary) :
    (streamTrailer size runs trailer).get? (ascii "Root") = trailer.get? (ascii "Root") := by
  -- The root is none of the seven keys that are set or left out.
  simp [streamTrailer, Dictionary.get?_erase, ascii]

/-- Saving a plain file keeps its objects and its root. -/
theorem save_keeps (file : File Layout) :
    (save file).2.document.objects = file.document.objects ∧
      (save file).2.document.trailer.get? (ascii "Root") = file.document.trailer.get? (ascii "Root") := by
  -- Either form of the file sets only keys of the trailer that are not its root.
  unfold save
  cases file.layout.form with
  | table => exact ⟨rfl, Dictionary.get?_set_other _ (by decide) _⟩
  | stream => exact ⟨rfl, get?_streamTrailer_root _ _ _⟩

end PlainFile

namespace Codec

variable {codec : Codec} {bytes : Bytes} {file : File codec.Layout}

/-- The pages of a file that can be read are those of its document. -/
theorem pageCount_eq (read : codec.read bytes = .ok file) :
    codec.pageCount bytes = .ok file.document.pages.length := by
  -- The count is the number of pages that the walk lists.
  simp only [pageCount, read, bind, Except.bind, pure, Except.pure]

/-- Saving a file leaves the objects of its document, and the root that the trailer names, as they were. -/
def KeepsObjects (codec : Codec) : Prop :=
  ∀ file bytes left, codec.save file = .ok (bytes, left) →
    left.document.objects = file.document.objects ∧
      left.document.trailer.get? (ascii "Root") = file.document.trailer.get? (ascii "Root")

/-- Saving a plain file leaves the objects and the root that were saved. -/
theorem keepsObjects_plain : plain.KeepsObjects := by
  -- A plain save never fails, so the file that it leaves is the one described above.
  rintro file _ _ ⟨rfl, rfl⟩
  exact PlainFile.save_keeps file

/-- What a command that is carried out counts are the pages that its file had before. -/
theorem pageCount_of_run {command : Command} (keeps : codec.KeepsObjects)
    (read : codec.read command.file = .ok file)
    (shrinks : ∀ factor, (codec.run command).outcome = some (.scaledDown factor) →
      file.document.walkEnds ∧ file.document.IsNumbered ∧
        file.document.maxId + 2 * file.document.pages.length < UInt32.size)
    (done : (codec.run command).success = true) :
    ∃ metrics, (codec.run command).metrics = some metrics ∧
      metrics.pageCount = file.document.pages.length := by
  -- A command that is carried out has been prepared, and the cases are its two jobs and the ends of the fit.
  obtain ⟨options, target, again, prepared⟩ := exists_prepared_of_success done
  obtain ⟨_, _, same⟩ := prepare_eq_ok_iff.1 prepared
  cases read.symm.trans same
  cases job : command.job with
  | check =>
    rw [run_of_check job prepared] at done ⊢
    cases within : file.document.isWithin options target with
    | error error =>
      rw [within] at done
      cases done
    | ok fits => exact ⟨_, rfl, rfl⟩
  | fit =>
    rcases runFit_cases prepared with ⟨error, _, failed⟩ |
      ⟨outcome, fitted, fits, ⟨_, ends⟩ | ⟨_, ⟨cause, _, failed⟩ | ⟨bytes, left, saved, ends⟩⟩⟩
    · rw [run_of_runFit_error job failed] at done
      cases done
    · -- The pages are counted in the document that the fit has left.
      rw [run_of_runFit job ends] at shrinks ⊢
      have kept := Document.pages_of_fit_ok (File.fit_of_fitDocument fits)
        fun factor same => shrinks factor (congrArg some same)
      exact ⟨_, rfl, congrArg List.length kept⟩
    · rw [run_of_runFit_error job failed] at done
      cases done
    · -- They are counted after the document has been saved.
      rw [run_of_runFit job ends] at shrinks ⊢
      obtain ⟨objects, root⟩ := keeps fitted bytes left saved
      have kept := Document.pages_of_fit_ok (File.fit_of_fitDocument fits)
        fun factor same => shrinks factor (congrArg some same)
      exact ⟨_, rfl, congrArg List.length ((Document.pages_of_objects objects root).trans kept)⟩

/--
A fit keeps the list of pages with their numbers and ids, whether it succeeds or fails.

Where it adds streams, the walk through the page tree has to have come to its end before. So all commands
that are carried out on a file count the same pages, and they are those of the file, where a fit that
shrinks is under the same conditions and saving a file keeps its objects.
-/
theorem fit_keeps_pages :
    (∀ document : Document, document.IsNumbered →
      document.maxId + 2 * document.pages.length < UInt32.size → ∀ options target,
      ((document.fit options target).2.maxId ≠ document.maxId → document.walkEnds) →
      (document.fit options target).2.pages = document.pages) ∧
    ∀ codec : Codec, codec.KeepsObjects → ∀ bytes file, codec.read bytes = .ok file →
      ∀ command : Command, command.file = bytes → (codec.run command).success = true →
      (∀ factor, (codec.run command).outcome = some (.scaledDown factor) →
        file.document.walkEnds ∧ file.document.IsNumbered ∧
          file.document.maxId + 2 * file.document.pages.length < UInt32.size) →
      ∃ metrics, (codec.run command).metrics = some metrics ∧
        metrics.pageCount = file.document.pages.length ∧
        codec.pageCount bytes = .ok metrics.pageCount := by
  -- The document half is about the walk alone; the other half reads the count off the response.
  constructor
  · intro document numbered room options target ends
    exact Document.pages_of_fit numbered room ends
  · rintro codec keeps bytes file read command rfl done shrinks
    obtain ⟨metrics, there, counted⟩ := pageCount_of_run keeps read shrinks done
    exact ⟨metrics, there, counted, by rw [pageCount_eq read, counted]⟩

/-- A plain file with two pages, one of them under two ids. -/
def sharedFile : Bytes :=
  (PlainFile.save ⟨⟨ascii "1.4", .table⟩, Document.sharedPage⟩).1

/-- A fit to half the size shrinks the file, and what it counts is what the file has. -/
theorem sharedFile_fit_keeps_pages :
    plain.KeepsObjects ∧
    (∃ file, plain.read sharedFile = .ok file ∧ file.document.walkEnds = true ∧
      file.document.IsNumbered ∧
      file.document.maxId + 2 * file.document.pages.length < UInt32.size) ∧
    (Command.run ⟨.fit, sharedFile, .custom ⟨250, 300⟩, none⟩).outcome = some (.scaledDown 0.5) ∧
    (∃ metrics, (Command.run ⟨.fit, sharedFile, .custom ⟨250, 300⟩, none⟩).metrics = some metrics ∧
      File.pageCount sharedFile = .ok metrics.pageCount) ∧
    Document.sharedPage.walkEnds = true ∧
    (Document.sharedPage.fit {} ⟨250, 300⟩).2.pages = Document.sharedPage.pages := by
  -- The runs are evaluated, and the theorem says that the counts of the response and of the file agree.
  have done : (Command.run ⟨.fit, sharedFile, .custom ⟨250, 300⟩, none⟩).success = true := by
    decide +kernel
  have shrinks : (Command.run ⟨.fit, sharedFile, .custom ⟨250, 300⟩, none⟩).outcome =
      some (.scaledDown 0.5) := by
    decide +kernel
  have ends : Document.sharedPage.walkEnds = true := by decide +kernel
  have loads : (plain.read sharedFile).toOption.any fun file =>
      file.document.walkEnds = true ∧ file.document.IsNumbered ∧
        file.document.maxId + 2 * file.document.pages.length < UInt32.size := by
    decide +kernel
  obtain ⟨file, read, checked⟩ := exists_ok_of_any loads
  obtain ⟨walked, numbered, room⟩ := of_decide_eq_true checked
  obtain ⟨metrics, there, _, counted⟩ := fit_keeps_pages.2 plain keepsObjects_plain sharedFile file
    read _ rfl done fun _ _ => ⟨walked, numbered, room⟩
  exact ⟨keepsObjects_plain, ⟨file, read, walked, numbered, room⟩, shrinks, ⟨metrics, there, counted⟩,
    ends, fit_keeps_pages.1 _ Document.isNumbered_sharedPage Document.sharedPage_room {} _ fun _ => ends⟩

/-- A file where the heading of a page gives it a number above all that the cross-reference has. -/
def misnumberedFile : Bytes :=
  ["%PDF-1.4\n",
    "1 0 obj\n<</Pages 2 0 R>>\nendobj\n",
    "2 0 obj\n<</MediaBox[0 0 500 600]", "/Kids[8 0 R 3 0 R]>>\nendobj\n",
    "3 0 obj\n<</Type/Page/Parent 2 0 R>>\nendobj\n",
    "8 0 obj\n<</Type/Page/Parent 2 0 R>>\nendobj\n",
    "xref\n0 5\n", "0000000000 65535 f \n", "0000000009 00000 n \n", "0000000041 00000 n \n",
    "0000000101 00000 n \n", "0000000144 00000 n \n",
    "trailer\n<</Root 1 0 R/Size 5>>\n", "startxref\n187\n%%EOF"].flatMap ascii

/-- The last stream that a fit adds takes the number of a page, which is lost though the fit succeeds. -/
theorem misnumberedFile_loses_page :
    (∃ file, plain.read misnumberedFile = .ok file ∧ file.document.walkEnds = true) ∧
      (Command.run ⟨.fit, misnumberedFile, .custom ⟨250, 300⟩, none⟩).success = true ∧
      (Command.run ⟨.check, misnumberedFile, .custom ⟨250, 300⟩, none⟩).success = true ∧
      (Command.run ⟨.fit, misnumberedFile, .custom ⟨250, 300⟩, none⟩).metrics.map (·.pageCount) = some 1 ∧
      (Command.run ⟨.check, misnumberedFile, .custom ⟨250, 300⟩, none⟩).metrics.map (·.pageCount) = some 2 ∧
      File.pageCount misnumberedFile = .ok 2 := by
  -- Both commands are run, and the two counts differ.
  refine ⟨exists_ok_of_any ?_, ?_⟩
  · decide +kernel
  · decide +kernel

end Codec

end PdfResize
