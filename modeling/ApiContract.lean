import ApiContract.Main
import ApiContract.Proofs.Document.History
import ApiContract.Proofs.Json.Location
import ApiContract.Proofs.Index.Insertion
import ApiContract.Proofs.Index.Reachability
import ApiContract.Proofs.Index.Lookup
import ApiContract.Proofs.Index.TemplateSearch
import ApiContract.Proofs.Index.Bookkeeping
import ApiContract.Proofs.Route.Instance
import ApiContract.Proofs.Registry.Spelling
import ApiContract.Proofs.Summary.Recording
import ApiContract.Proofs.Summary.Merging
import ApiContract.Proofs.Transcript.Replay
import ApiContract.Proofs.Resolver.Unfolding
import ApiContract.Proofs.Resolver.Repetition
import ApiContract.Proofs.Resolver.Agreement
import ApiContract.Proofs.Resolver.Count
import ApiContract.Proofs.Resolver.Inlining
import ApiContract.Proofs.Index.Content
import ApiContract.Proofs.Index.Declarations
import ApiContract.Proofs.Index.Completeness
import ApiContract.Proofs.Index.Tally
import ApiContract.Proofs.Index.Independence
import ApiContract.Proofs.Schema.Allowed
import ApiContract.Proofs.Schema.Effect
import ApiContract.Proofs.Schema.Opening
import ApiContract.Proofs.Schema.Identified
import ApiContract.Proofs.Schema.Dialect
import ApiContract.Proofs.Schema.Compiled
import ApiContract.Proofs.Schema.Keywords
import ApiContract.Proofs.Schema.Loosening
import ApiContract.Proofs.Check.FieldName
import ApiContract.Proofs.Document.Sharing
import ApiContract.Proofs.Registry.Verdict
import ApiContract.Proofs.Json.Stripping
import ApiContract.Proofs.Config.Precedence
import ApiContract.Proofs.Config.ModuleList
import ApiContract.Proofs.Registry.Loading
import ApiContract.Proofs.Summary.Report
import ApiContract.Proofs.Index.MediaType
import ApiContract.Proofs.Document.Presence
import ApiContract.Proofs.Registry.Inspection
import ApiContract.Proofs.Summary.Skips
