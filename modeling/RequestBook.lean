import RequestBook.Main
import RequestBook.Script.Edit
import RequestBook.Proofs.Draft.Fields
import RequestBook.Proofs.Draft.Outcome
import RequestBook.Proofs.Draft.Undefined
import RequestBook.Proofs.Draft.Url
import RequestBook.Proofs.Grammar.CursorBook
import RequestBook.Proofs.Grammar.Failure
import RequestBook.Proofs.Grammar.Inserted
import RequestBook.Proofs.Grammar.RoundTrip
import RequestBook.Proofs.Grammar.SelfContained
import RequestBook.Proofs.Grammar.Shape
import RequestBook.Proofs.Grammar.StringLiteral
import RequestBook.Proofs.Lint.Clean
import RequestBook.Proofs.Lint.Order
import RequestBook.Proofs.Reended
import RequestBook.Proofs.Scope.Sequel
import RequestBook.Proofs.Script.Changes
import RequestBook.Proofs.Settings.Overlay
