import PdfResize.Base64
import PdfResize.File.Codec

/-! Commands on a file, and what they answer. -/

namespace PdfResize

/-- A target as a command names it. -/
inductive TargetSpec where
  /-- A paper size by name. -/
  | named (name : String)
  /-- A size by its extents. -/
  | custom (size : PageSize)
deriving DecidableEq

/-- The size that a target names, which has to be one that pages can have. -/
def TargetSpec.resolve (spec : TargetSpec) : Except FitError PageSize := do
  let size ← match spec with
    | named name => PageSize.ofName name
    | custom size => .ok size
  size.validate
  return size

/-- What a command is to do. -/
inductive Job where
  /-- Fit the file and answer it if it changed. -/
  | fit
  /-- Only say whether the file already fits. -/
  | check
deriving DecidableEq

/-- A command on a file. -/
structure Command where
  /-- What is to be done. -/
  job : Job
  /-- The bytes of the file. -/
  file : Bytes
  /-- The size to fit to. -/
  target : TargetSpec
  /-- The tolerance, where it is not the one that options have by default. -/
  tolerance : Option Single

/-- Counts that go with an answer. -/
structure Metrics where
  /-- The number of bytes that the command was given. -/
  inputSize : Nat
  /-- The number of bytes in the file as it is after a fit, zero where nothing was to be fitted. -/
  outputSize : Nat
  /-- The number of pages. -/
  pageCount : Nat
deriving DecidableEq

/-- What a command answers. -/
structure Response where
  /-- The command was carried out. -/
  success : Bool
  /-- The fitted file in Base64, if it is another one than before. -/
  data : Option String
  /-- Why the command was not carried out. -/
  error : Option String
  /-- What a fit did. -/
  outcome : Option Outcome
  /-- Whether the file fits, for a check. -/
  withinTolerance : Option Bool
  /-- Counts that go with the answer. -/
  metrics : Option Metrics
deriving DecidableEq

namespace Command

/-- The options of a command. -/
def options (command : Command) : Except FitError FitOptions :=
  match command.tolerance with
  | some tolerance => FitOptions.withTolerance tolerance
  | none => .ok {}

/-- The response to a command that was not carried out. -/
def failure (error : FitError) : Response :=
  ⟨false, none, some error.message, none, none, none⟩

/-- The response to a fit that was carried out, with its new bytes where it gave any. -/
def fitResponse (command : Command) (outcome : Outcome) (output : Option Bytes) (pageCount : Nat) :
    Response where
  success := true
  data := output.map Base64.encode
  error := none
  outcome := some outcome
  withinTolerance := none
  metrics := some {
    inputSize := command.file.length
    outputSize := (output.getD command.file).length
    pageCount }

/-- The response to a check that was carried out. -/
def checkResponse (command : Command) (within : Bool) (pageCount : Nat) : Response where
  success := true
  data := none
  error := none
  outcome := none
  withinTolerance := some within
  metrics := some { inputSize := command.file.length, outputSize := 0, pageCount }

end Command

namespace Codec

/-- The options, the target and the file of a command, refused in this order. -/
def prepare (codec : Codec) (command : Command) :
    Except FitError (FitOptions × PageSize × File codec.Layout) := do
  let options ← command.options
  let target ← command.target.resolve
  return (options, target, ← codec.read command.file)

/-- The bytes of a fitted file, which is only saved where it has changed, and the file as that leaves it. -/
def output (codec : Codec) (outcome : Outcome) (fitted : File codec.Layout) :
    Except FitError (Option Bytes × File codec.Layout) := do
  if outcome.isChanged then
    let (bytes, left) ← codec.write fitted
    return (some bytes, left)
  else return (none, fitted)

/-- Fit the file of a command. -/
def runFit (codec : Codec) (command : Command) : Except FitError Response := do
  let (options, target, file) ← codec.prepare command
  let (outcome, fitted) ← file.fitDocument options target
  let (output, left) ← codec.output outcome fitted
  return command.fitResponse outcome output left.document.pages.length

/-- Check the file of a command. -/
def runCheck (codec : Codec) (command : Command) : Except FitError Response := do
  let (options, target, file) ← codec.prepare command
  let within ← file.document.isWithin options target
  return command.checkResponse within file.document.pages.length

/-- Carry out a command; an error becomes part of the response. -/
def run (codec : Codec) (command : Command) : Response :=
  let result := match command.job with
    | .fit => codec.runFit command
    | .check => codec.runCheck command
  match result with
  | .ok response => response
  | .error error => Command.failure error

end Codec

end PdfResize
