import PdfResize.Json.Basic
import PdfResize.Program

/-! Options and commands as JSON values, and responses as such. -/

namespace PdfResize

/-- Options as a record of the tolerance, which may be left out. -/
def FitOptions.ofJson? (json : Json) : Option FitOptions :=
  match json.record? ["tolerance"] with
  | some [none] => some {}
  | some [some tolerance] => tolerance.single?.map fun tolerance => ⟨tolerance⟩
  | _ => none

/-- A size as a record of width and height. -/
def PageSize.ofJson? (json : Json) : Option PageSize :=
  match json.record? ["width", "height"] with
  | some [some width, some height] => return ⟨← width.single?, ← height.single?⟩
  | _ => none

/-- A target as a name or else as a size. -/
def TargetSpec.ofJson? : Json → Option TargetSpec
  | .string name => some (.named name)
  | json => (PageSize.ofJson? json).map .custom

namespace Command

/-- What a command is to do, by name. -/
def jobOfName? : String → Option Job
  | "Fit" => some .fit
  | "Check" => some .check
  | _ => none

/-- The name of what a command is to do, and the record of everything else. -/
def splitJob? : Json → Option (String × Json)
  | .object members => do
    let name ← (← (Json.object members).member? "type").string?
    return (name, .object members)
  | .array (.string name :: rest) => some (name, .array rest)
  | _ => none

/-- A command as a record behind the name of what it is to do; the tolerance may be left out or null. -/
def ofJson? (json : Json) : Option Command := do
  let (name, record) ← splitJob? json
  let job ← jobOfName? name
  match ← record.record? ["file", "target", "tolerance"] with
  | [some file, some target, tolerance?] =>
    let tolerance ← match tolerance? with
      | none | some .null => pure none
      | some tolerance => tolerance.single?.map some
    return ⟨job, ← file.bytes?, ← TargetSpec.ofJson? target, tolerance⟩
  | _ => none

end Command

/-- An outcome by name, with the factor where there is one. -/
def Outcome.toJson : Outcome → Json
  | unchanged => .object [("outcome", .string "Unchanged")]
  | scaledDown factor => .object [("outcome", .string "ScaledDown"), ("factor", .real factor)]
  | scaledUp => .object [("outcome", .string "ScaledUp")]

/-- Counts by name. -/
def Metrics.toJson (metrics : Metrics) : Json :=
  .object [
    ("input_size_bytes", .integer metrics.inputSize),
    ("output_size_bytes", .integer metrics.outputSize),
    ("page_count", .integer metrics.pageCount)]

/-- A response with all its parts by name, null where it does not have them. -/
def Response.toJson (response : Response) : Json :=
  .object [
    ("success", .boolean response.success),
    ("data", (response.data.map .string).getD .null),
    ("error", (response.error.map .string).getD .null),
    ("outcome", (response.outcome.map Outcome.toJson).getD .null),
    ("within_tolerance", (response.withinTolerance.map .boolean).getD .null),
    ("metrics", (response.metrics.map Metrics.toJson).getD .null)]

end PdfResize
