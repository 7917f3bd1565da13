import SchemaGraph.Completion.Bindings
import SchemaGraph.Completion.Extensions
import SchemaGraph.Completion.Name
import SchemaGraph.Completion.Structure
import SchemaGraph.Completion.Validation
import SchemaGraph.Construction.Actions
import SchemaGraph.Construction.Progress
import SchemaGraph.Construction.Run
import SchemaGraph.Construction.Setup
import SchemaGraph.Data.Entries
import SchemaGraph.Data.Reachable
import SchemaGraph.Decimal.Reading
import SchemaGraph.Decimal.Shortest
import SchemaGraph.Decimal.Style
import SchemaGraph.Definition.Basic
import SchemaGraph.Definition.Merge
import SchemaGraph.Definition.Shown
import SchemaGraph.Discovery.Catalog
import SchemaGraph.Discovery.Closure
import SchemaGraph.Error.Basic
import SchemaGraph.Error.Problem
import SchemaGraph.Graph.Basic
import SchemaGraph.Graph.Handle
import SchemaGraph.Hash.TypeHash
import SchemaGraph.Hash.XxHash64
import SchemaGraph.Inspector
import SchemaGraph.Kind
import SchemaGraph.Linking
import SchemaGraph.Location
import SchemaGraph.Member
import SchemaGraph.Naming
import SchemaGraph.Proofs.Completion.Acceptance
import SchemaGraph.Proofs.Completion.CleanMerges
import SchemaGraph.Proofs.Completion.Compilation
import SchemaGraph.Proofs.Completion.Complete
import SchemaGraph.Proofs.Completion.Declarations
import SchemaGraph.Proofs.Completion.Denotation
import SchemaGraph.Proofs.Completion.Dependencies
import SchemaGraph.Proofs.Completion.Faces
import SchemaGraph.Proofs.Completion.Idempotence
import SchemaGraph.Proofs.Completion.Members
import SchemaGraph.Proofs.Completion.Merges
import SchemaGraph.Proofs.Completion.Pipelines
import SchemaGraph.Proofs.Completion.Planned
import SchemaGraph.Proofs.Completion.Precedence
import SchemaGraph.Proofs.Completion.Retargeting
import SchemaGraph.Proofs.Completion.Targets
import SchemaGraph.Proofs.Completion.Unmatched
import SchemaGraph.Proofs.Construction.Actions
import SchemaGraph.Proofs.Construction.AlternateNames
import SchemaGraph.Proofs.Construction.CompletionOrder
import SchemaGraph.Proofs.Construction.DuplicateNames
import SchemaGraph.Proofs.Construction.Integrity
import SchemaGraph.Proofs.Construction.Linking
import SchemaGraph.Proofs.Construction.Lookups
import SchemaGraph.Proofs.Construction.NameLookups
import SchemaGraph.Proofs.Construction.Naming
import SchemaGraph.Proofs.Construction.Problems
import SchemaGraph.Proofs.Construction.Published
import SchemaGraph.Proofs.Construction.Ranges
import SchemaGraph.Proofs.Construction.Relinking
import SchemaGraph.Proofs.Construction.Resolving
import SchemaGraph.Proofs.Construction.Stages
import SchemaGraph.Proofs.Construction.Validated
import SchemaGraph.Proofs.Data.Absorbing
import SchemaGraph.Proofs.Data.Chains
import SchemaGraph.Proofs.Data.Distinct
import SchemaGraph.Proofs.Data.Entries
import SchemaGraph.Proofs.Data.FirstMatch
import SchemaGraph.Proofs.Data.Insertion
import SchemaGraph.Proofs.Data.Reachability
import SchemaGraph.Proofs.Data.Words
import SchemaGraph.Proofs.Definition.Merging
import SchemaGraph.Proofs.Definition.Outline
import SchemaGraph.Proofs.Definition.Rendering
import SchemaGraph.Proofs.Definition.Uniting
import SchemaGraph.Proofs.Discovery.CatalogOrder
import SchemaGraph.Proofs.Discovery.Closed
import SchemaGraph.Proofs.Discovery.Ownership
import SchemaGraph.Proofs.Discovery.Registrations
import SchemaGraph.Proofs.Discovery.SeedOrder
import SchemaGraph.Proofs.Discovery.Termination
import SchemaGraph.Proofs.Hash.GenericArguments
import SchemaGraph.Proofs.Inspection.Assignability
import SchemaGraph.Proofs.Naming.MemberNames
import SchemaGraph.Proofs.Naming.TypeNames
import SchemaGraph.Proofs.Naming.Validity
import SchemaGraph.Proofs.Reference.Agreement
import SchemaGraph.Proofs.Registry.Answers
import SchemaGraph.Proofs.Registry.CanonicalLists
import SchemaGraph.Proofs.Registry.Changes
import SchemaGraph.Proofs.Registry.Cycles
import SchemaGraph.Proofs.Registry.Extent
import SchemaGraph.Proofs.Registry.FinalNames
import SchemaGraph.Proofs.Registry.Handles
import SchemaGraph.Proofs.Registry.Indexes
import SchemaGraph.Proofs.Registry.Names
import SchemaGraph.Proofs.Registry.Namespaces
import SchemaGraph.Proofs.Registry.Ownership
import SchemaGraph.Proofs.Registry.Permanence
import SchemaGraph.Proofs.Registry.Rebuilding
import SchemaGraph.Proofs.Registry.References
import SchemaGraph.Proofs.Registry.RuntimeLookups
import SchemaGraph.Proofs.Registry.Standing
import SchemaGraph.Proofs.Registry.Storing
import SchemaGraph.Proofs.Schedule.Blocking
import SchemaGraph.Proofs.Schedule.Calls
import SchemaGraph.Proofs.Schedule.Explanations
import SchemaGraph.Proofs.Schedule.Flags
import SchemaGraph.Proofs.Schedule.Levels
import SchemaGraph.Proofs.Schedule.Order
import SchemaGraph.Proofs.Schedule.Recording
import SchemaGraph.Proofs.Schedule.Reports
import SchemaGraph.Proofs.Schedule.Silence
import SchemaGraph.Proofs.Schedule.Verdict
import SchemaGraph.Proofs.Schedule.Waiting
import SchemaGraph.Proofs.Text.Casing
import SchemaGraph.Reference.Basic
import SchemaGraph.Reference.RuntimeType
import SchemaGraph.Registry.Basic
import SchemaGraph.Registry.Canonical
import SchemaGraph.Registry.DependencyGraph
import SchemaGraph.Registry.Record
import SchemaGraph.Resolver
import SchemaGraph.Schedule.Batch
import SchemaGraph.Schedule.Deadlock
import SchemaGraph.Text.CaseTable
import SchemaGraph.Text.Casing
import SchemaGraph.Text.Printable
import SchemaGraph.Text.Quoted
import SchemaGraph.Text.Shown
import SchemaGraph.TypeState
import SchemaGraph.Value.Basic
import SchemaGraph.Value.Shown
