import EntryFilter.Main
import EntryFilter.Predicate.Json
import EntryFilter.Shell.Completion
import EntryFilter.Proofs.Grammar.Composition
import EntryFilter.Proofs.Grammar.WrittenCondition
import EntryFilter.Proofs.Grammar.ErrorPlace
import EntryFilter.Proofs.Meaning.Observation
import EntryFilter.Proofs.Meaning.OperatorLaws
import EntryFilter.Proofs.Grammar.Quotation
import EntryFilter.Proofs.Grammar.WrittenInteger
import EntryFilter.Proofs.Number.Rounding
import EntryFilter.Proofs.Meaning.IntegerEquality
import EntryFilter.Proofs.Document.NullOperands
import EntryFilter.Proofs.Document.Reading
import EntryFilter.Proofs.Document.Injectivity
import EntryFilter.Proofs.Filter.RoundTrip
import EntryFilter.Proofs.Predicate.RoundTrip
import EntryFilter.Proofs.Entry.RoundTrip
import EntryFilter.Proofs.Csv.Entries
import EntryFilter.Proofs.Shell.Run
import EntryFilter.Proofs.Session.Script
import EntryFilter.Proofs.Schema.TypeChange
import EntryFilter.Proofs.Schema.Settled
import EntryFilter.Proofs.Schema.NumericCoercion
import EntryFilter.Proofs.Schema.Migration
import EntryFilter.Proofs.Meaning.Emptiness
import EntryFilter.Proofs.Meaning.RefusedLiteral
import EntryFilter.Proofs.Value.ExactComparison
import EntryFilter.Proofs.Filter.Shape
import EntryFilter.Proofs.Predicate.ShortCircuit
import EntryFilter.Proofs.Compilation.Dependence
import EntryFilter.Proofs.Schema.Declaration
import EntryFilter.Proofs.Shell.Completion
import EntryFilter.Proofs.Value.Forms
import EntryFilter.Proofs.Diagnostic.Alignment
import EntryFilter.Proofs.Grammar.ReservedWords
