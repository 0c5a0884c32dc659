import FeatureFlags.AuditHook
import FeatureFlags.Gate.Require
import FeatureFlags.Gate.Update
import FeatureFlags.Proofs.Collections
import FeatureFlags.Proofs.FirstDecision
import FeatureFlags.Proofs.Answer
import FeatureFlags.Proofs.Run
import FeatureFlags.Proofs.CacheCoherence
import FeatureFlags.Proofs.GroupWalk
import FeatureFlags.Proofs.Trimming
import FeatureFlags.Proofs.LowercaseForm
import FeatureFlags.Proofs.LegacyKeys
import FeatureFlags.Proofs.Precedence
import FeatureFlags.Proofs.Writes
import FeatureFlags.Proofs.Isolation
import FeatureFlags.Proofs.Monotonicity
import FeatureFlags.Proofs.Visibility
import FeatureFlags.Proofs.Renaming
import FeatureFlags.Proofs.ClearedOverrides
import FeatureFlags.Proofs.SystemScope
import FeatureFlags.Proofs.LegacyRecords
import FeatureFlags.Proofs.ChangeEffects
import FeatureFlags.Proofs.ReadFaults
import FeatureFlags.Proofs.GrantOrder
import FeatureFlags.Proofs.Effects
import FeatureFlags.Proofs.Failures
import FeatureFlags.Proofs.Reports
import FeatureFlags.Proofs.Spelling
import FeatureFlags.Proofs.WithoutClaims
import FeatureFlags.Proofs.FallbackScopes
import FeatureFlags.Proofs.Replay
import FeatureFlags.Proofs.FlatRecords
import FeatureFlags.Proofs.DecisionRules
import FeatureFlags.Proofs.StrategyDuality
import FeatureFlags.Proofs.MemberOrder
import FeatureFlags.Proofs.RoundTrip
import FeatureFlags.Proofs.AliasPairs
import FeatureFlags.Proofs.DerivedChain
import FeatureFlags.Proofs.Retention
import FeatureFlags.Proofs.NestedDefaults
import FeatureFlags.Proofs.StandardSpelling
import FeatureFlags.Proofs.Registration
import FeatureFlags.Proofs.GuardSearch
