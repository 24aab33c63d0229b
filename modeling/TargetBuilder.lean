import TargetBuilder.Action
import TargetBuilder.Arena
import TargetBuilder.MethodTable
import TargetBuilder.Metadata
import TargetBuilder.Naming
import TargetBuilder.Property
import TargetBuilder.TargetType
import TargetBuilder.Text.Blank
import TargetBuilder.Text.Identifier
import TargetBuilder.Value.Conversion
import TargetBuilder.Derive
import TargetBuilder.Catalogue
import TargetBuilder.World
import TargetBuilder.Session.Root
import TargetBuilder.Session.Runner
import TargetBuilder.Capability
import TargetBuilder.Context
import TargetBuilder.Resolve
import TargetBuilder.Guard
import TargetBuilder.Session.Description
import TargetBuilder.Proofs.Guarantee
import TargetBuilder.Proofs.Quiet
import TargetBuilder.Proofs.Calm
import TargetBuilder.Proofs.Still
import TargetBuilder.Proofs.Program
import TargetBuilder.Proofs.Bracket
import TargetBuilder.Proofs.Orderly
import TargetBuilder.Proofs.Rooted
import TargetBuilder.Proofs.Script
import TargetBuilder.Proofs.Hierarchy
import TargetBuilder.Proofs.Stack
import TargetBuilder.Proofs.Later
import TargetBuilder.Proofs.Growth
import TargetBuilder.Proofs.Build
import TargetBuilder.Proofs.Leftover
import TargetBuilder.Proofs.CamelCase
import TargetBuilder.Proofs.FlatSearch
import TargetBuilder.Proofs.StyleTable
import TargetBuilder.Proofs.StyleField
import TargetBuilder.Proofs.StyleOption
import TargetBuilder.Proofs.SelectorOwner
import TargetBuilder.Proofs.Moment
import TargetBuilder.Proofs.ContextStack
import TargetBuilder.Proofs.InFlight
import TargetBuilder.Proofs.Bypass
import TargetBuilder.Proofs.LookUp
import TargetBuilder.Proofs.OneProvider
import TargetBuilder.Proofs.Lifecycle
import TargetBuilder.Proofs.PassLimit
import TargetBuilder.Proofs.LookUpHistory
import TargetBuilder.Proofs.ProviderCache
import TargetBuilder.Proofs.ForeignKey
import TargetBuilder.Proofs.ChildSession
import TargetBuilder.Proofs.FaultPath
import TargetBuilder.Proofs.PendingWork
import TargetBuilder.Proofs.Unserved
import TargetBuilder.Proofs.SwitchingCall
import TargetBuilder.Proofs.HandBack
import TargetBuilder.Proofs.Refusal
import TargetBuilder.Proofs.Unguarded
import TargetBuilder.Proofs.RootNeed
import TargetBuilder.Proofs.Widening
import TargetBuilder.Proofs.Normalization
import TargetBuilder.Proofs.RoundTrip
import TargetBuilder.Proofs.FiniteMap
import TargetBuilder.Proofs.Registration
import TargetBuilder.Proofs.LongForm
import TargetBuilder.Proofs.ValueEquality
import TargetBuilder.Proofs.KeywordOrder
import TargetBuilder.Proofs.SingleRetry
import TargetBuilder.Proofs.LiveGuards
