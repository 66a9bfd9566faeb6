import TableQuery.Main
import TableQuery.Query.Form
import TableQuery.Proofs.Grammar
import TableQuery.Proofs.Phrases
import TableQuery.Proofs.Dialect
import TableQuery.Proofs.Confinement
import TableQuery.Proofs.Lexing
import TableQuery.Proofs.BuiltQueries
import TableQuery.Proofs.NumberText
import TableQuery.Proofs.JsonText
import TableQuery.Proofs.JsonDocuments
import TableQuery.Proofs.SavedTables
import TableQuery.Proofs.StorableStatements
import TableQuery.Proofs.Sessions
import TableQuery.Proofs.Reports
import TableQuery.Proofs.Invariants
import TableQuery.Proofs.Faults
import TableQuery.Proofs.Stretches
import TableQuery.Proofs.CommentLines
import TableQuery.Proofs.Scripts
import TableQuery.Proofs.SavedStores
import TableQuery.Proofs.StoredTexts
import TableQuery.Proofs.AddedColumns
import TableQuery.Proofs.Cuts
import TableQuery.Proofs.Previews
import TableQuery.Proofs.Stages
import TableQuery.Proofs.SyntaxErrors
import TableQuery.Proofs.Commutation
import TableQuery.Proofs.RowOrder
import TableQuery.Proofs.PhraseSelections
import TableQuery.Proofs.BuiltScripts
import TableQuery.Proofs.ReadDocuments
import TableQuery.Proofs.AssignedIds
import TableQuery.Proofs.SoundStores
import TableQuery.Proofs.ScriptRuns
import TableQuery.Proofs.RoundedComparisons
import TableQuery.Proofs.Containment
import TableQuery.Proofs.BuiltSelections
import TableQuery.Proofs.RepeatedUpdates
import TableQuery.Proofs.PassingColumns
import TableQuery.Proofs.PhraseOrder
import TableQuery.Proofs.SharedIds
import TableQuery.Proofs.KeyedStores
import TableQuery.Proofs.AlignedRows
import TableQuery.Proofs.NumericTexts
import TableQuery.Proofs.QuotedWords
import TableQuery.Proofs.TokenSpans
