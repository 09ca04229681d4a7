import ObjectQuery.Query
import ObjectQuery.Json.Reader
import ObjectQuery.Search.Codec
import ObjectQuery.Proofs.Criteria.Run
import ObjectQuery.Proofs.Parameters.Binding
import ObjectQuery.Proofs.JoinOrder.Placement
import ObjectQuery.Proofs.JoinOrder.Occurrences
import ObjectQuery.Proofs.Query.Bindings
import ObjectQuery.Proofs.Criteria.PlainNames
import ObjectQuery.Proofs.Criteria.Repetition
import ObjectQuery.Proofs.Text.Placeholders
import ObjectQuery.Proofs.Query.Placeholders
import ObjectQuery.Proofs.Condition.Reading
import ObjectQuery.Proofs.Condition.Spelling
import ObjectQuery.Proofs.Condition.Meaning
import ObjectQuery.Proofs.Criteria.Conflicts
import ObjectQuery.Proofs.Query.Conflicts
import ObjectQuery.Proofs.Criteria.Literals
import ObjectQuery.Proofs.Criteria.Mentions
import ObjectQuery.Proofs.Query.Literals
import ObjectQuery.Proofs.Query.Scope
import ObjectQuery.Proofs.Condition.Grafting
import ObjectQuery.Proofs.Criteria.Fragments
import ObjectQuery.Proofs.Query.Pruning
import ObjectQuery.Proofs.Query.Counting
import ObjectQuery.Proofs.Statement.Parents
import ObjectQuery.Proofs.Query.Agreement
import ObjectQuery.Proofs.Parameters.History
import ObjectQuery.Proofs.Criteria.Form
import ObjectQuery.Proofs.Search.Form
import ObjectQuery.Proofs.JoinOrder.Passes
import ObjectQuery.Proofs.Criteria.References
import ObjectQuery.Proofs.Statement.Routes
import ObjectQuery.Proofs.Criteria.CaseFolding
import ObjectQuery.Proofs.Parameters.Naming
import ObjectQuery.Proofs.Parameters.Probing
import ObjectQuery.Proofs.Statement.Sorting
import ObjectQuery.Proofs.Search.Pages
import ObjectQuery.Proofs.Parameters.Sharing
