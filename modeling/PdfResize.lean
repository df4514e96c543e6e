import PdfResize.Command.Json
import PdfResize.Json.Reader
import PdfResize.Json.Writer
import PdfResize.Proofs.Fit.Framing
import PdfResize.Proofs.Fit.Nesting
import PdfResize.Proofs.Fit.Reaching
import PdfResize.Proofs.Fit.Verdict
import PdfResize.Proofs.Fit.Edits
import PdfResize.Proofs.Fit.Runs
import PdfResize.Proofs.Fit.Orientation
import PdfResize.Proofs.Number.Accuracy
import PdfResize.Proofs.Document.Region
import PdfResize.Proofs.Fit.Factor
import PdfResize.Proofs.Fit.Covering
import PdfResize.Proofs.Fit.Listings
import PdfResize.Proofs.Fit.Stopping
import PdfResize.Proofs.Document.PageTree
import PdfResize.Proofs.Fit.Pages
import PdfResize.Proofs.Fit.Sides
import PdfResize.Proofs.Base64
import PdfResize.Proofs.Command.PageCount
import PdfResize.Proofs.Command.Agreement
import PdfResize.Proofs.Fit.Tightness
import PdfResize.Proofs.Command.Prediction
import PdfResize.Proofs.Document.Pruning
import PdfResize.Proofs.Fit.Remaining
import PdfResize.Proofs.Document.ExactBox
import PdfResize.Proofs.File.Stability
import PdfResize.Proofs.Fit.Faults
import PdfResize.Proofs.Document.Inheriting
import PdfResize.Proofs.Fit.Refusals
import PdfResize.Proofs.Document.Tokens
import PdfResize.Proofs.Document.Splicing
import PdfResize.Proofs.Number.Distance
import PdfResize.Proofs.Document.Ancestry
import PdfResize.Proofs.Document.Replacing
import PdfResize.Proofs.Document.Restating
import PdfResize.Proofs.Fit.Underflow
import PdfResize.Proofs.Number.Exactness
import PdfResize.Proofs.Number.Monotone
import PdfResize.Proofs.Fit.Places
import PdfResize.Proofs.Document.Resizing
import PdfResize.Proofs.Document.Isolating
import PdfResize.Proofs.Fit.Tolerance
