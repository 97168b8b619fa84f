import GuardedQuery.Engine.Settings
import GuardedQuery.Error.Report
import GuardedQuery.Log
import GuardedQuery.Settings.Source
import GuardedQuery.Value.Reader
import GuardedQuery.Proofs.Predicate.Acceptance
import GuardedQuery.Proofs.Checks
import GuardedQuery.Proofs.Selection.Rows
import GuardedQuery.Proofs.Presentation.Calls
import GuardedQuery.Proofs.Engine.Reads
import GuardedQuery.Proofs.Plan
import GuardedQuery.Proofs.Scope.Composition
import GuardedQuery.Proofs.Scope.Confinement
import GuardedQuery.Proofs.Path
import GuardedQuery.Proofs.Store.Hops
import GuardedQuery.Proofs.Vetting.Walk
import GuardedQuery.Proofs.Vetting.Paths
import GuardedQuery.Proofs.Predicate.Conditions
import GuardedQuery.Proofs.Presentation.Cards
import GuardedQuery.Proofs.Presentation.Nesting
import GuardedQuery.Proofs.Presentation.Objects
import GuardedQuery.Proofs.Presentation.Outlines
import GuardedQuery.Proofs.Text.Runs
import GuardedQuery.Proofs.Cache.Calls
import GuardedQuery.Proofs.Cache.Contexts
import GuardedQuery.Proofs.Engine.Displays
import GuardedQuery.Proofs.Engine.Recorded
import GuardedQuery.Proofs.Engine.Origins
import GuardedQuery.Proofs.Scope.Nesting
import GuardedQuery.Proofs.Scope.Fields
import GuardedQuery.Proofs.Store.Indexed
import GuardedQuery.Proofs.Store.Effects
import GuardedQuery.Proofs.Script.Runs
import GuardedQuery.Proofs.Engine.Transactions
import GuardedQuery.Proofs.Writing.Bulk
import GuardedQuery.Proofs.Writing.Instance
import GuardedQuery.Proofs.Writing.Responses
import GuardedQuery.Proofs.Decimal.Rounding
import GuardedQuery.Proofs.Decimal.Bits
import GuardedQuery.Proofs.Decimal.Shortest
import GuardedQuery.Proofs.Value.Fractions
import GuardedQuery.Proofs.Value.Text
import GuardedQuery.Proofs.Predicate.Text
import GuardedQuery.Proofs.Predicate.Legible
import GuardedQuery.Proofs.Selection.Text
import GuardedQuery.Proofs.Selection.Legible
import GuardedQuery.Proofs.Cache.Keys
import GuardedQuery.Proofs.Cache.Soundness
import GuardedQuery.Proofs.Store.Insertion
import GuardedQuery.Proofs.Store.Frames
import GuardedQuery.Proofs.Store.Rollback
import GuardedQuery.Proofs.Writing.Outcomes
import GuardedQuery.Proofs.Writing.Columns
import GuardedQuery.Proofs.Cache.Steps
import GuardedQuery.Proofs.Cache.Watched
import GuardedQuery.Proofs.Cache.Histories
import GuardedQuery.Proofs.Engine.Atomicity
import GuardedQuery.Proofs.Writing.Actions
import GuardedQuery.Proofs.Store.Dependencies
import GuardedQuery.Proofs.Engine.Dependencies
import GuardedQuery.Proofs.Engine.Courses
import GuardedQuery.Proofs.Engine.Transparency
import GuardedQuery.Proofs.Scope.Noninterference
import GuardedQuery.Proofs.Engine.Interleavings
import GuardedQuery.Proofs.Writing.Reach
import GuardedQuery.Proofs.Engine.Coherence
import GuardedQuery.Proofs.Catalog
import GuardedQuery.Proofs.Presentation.Routes
import GuardedQuery.Proofs.Writing.Conformance
import GuardedQuery.Proofs.Script.Updates
import GuardedQuery.Proofs.Store.Mirrors
import GuardedQuery.Proofs.Writing.Events
import GuardedQuery.Proofs.Value.Equality
import GuardedQuery.Proofs.Store.Totality
import GuardedQuery.Proofs.Selection.Windows
import GuardedQuery.Proofs.Writing.Lookups
import GuardedQuery.Proofs.Writing.Repeated
import GuardedQuery.Proofs.Store.Inverses
import GuardedQuery.Proofs.Catalog.Closure
import GuardedQuery.Proofs.Vetting.Monotonicity
import GuardedQuery.Proofs.Script.Calls
import GuardedQuery.Proofs.Engine.Races
import GuardedQuery.Proofs.Engine.Serializability
import GuardedQuery.Proofs.Predicate.Readings
import GuardedQuery.Proofs.Engine.Agreement
import GuardedQuery.Proofs.Engine.Completeness
import GuardedQuery.Proofs.Cache.Coalescing
import GuardedQuery.Proofs.Cache.Schedules
import GuardedQuery.Proofs.Predicate.Normal
import GuardedQuery.Proofs.Presentation.Expansion
import GuardedQuery.Proofs.Presentation.Lookups
import GuardedQuery.Proofs.Presentation.Unions
import GuardedQuery.Proofs.Scope.Grants
import GuardedQuery.Proofs.Store.Updates
import GuardedQuery.Proofs.Store.Failures
import GuardedQuery.Proofs.Vetting.Computed
import GuardedQuery.Proofs.Presentation.Delivery
import GuardedQuery.Proofs.Scope.Requested
import GuardedQuery.Proofs.Store.Assignment
import GuardedQuery.Proofs.Aggregate.Sums
import GuardedQuery.Proofs.Decimal.Order
import GuardedQuery.Proofs.Decimal.Wholes
import GuardedQuery.Proofs.Value.Order
import GuardedQuery.Proofs.Formula.Exactness
import GuardedQuery.Proofs.Writing.References
import GuardedQuery.Proofs.Scope.Searches
import GuardedQuery.Proofs.Selection.Reversal
import GuardedQuery.Proofs.Engine.Ends
import GuardedQuery.Proofs.Engine.Pages
import GuardedQuery.Proofs.Formula.Columns
import GuardedQuery.Proofs.Formula.Grammar
import GuardedQuery.Proofs.Store.Arrivals
