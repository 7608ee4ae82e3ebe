import CypherSynthesis.Main
import CypherSynthesis.Operation.Decode
import CypherSynthesis.Settings.Load
import CypherSynthesis.Synthesizer
import CypherSynthesis.Proofs.Injection
import CypherSynthesis.Proofs.Noninterference
import CypherSynthesis.Proofs.ParameterClosure
import CypherSynthesis.Proofs.TargetMatch
import CypherSynthesis.Proofs.Bindings
import CypherSynthesis.Proofs.Failure
import CypherSynthesis.Proofs.TargetValues
import CypherSynthesis.Proofs.FilterCoverage
import CypherSynthesis.Proofs.RoundTrip
import CypherSynthesis.Proofs.AbsentInput
import CypherSynthesis.Proofs.Reordering
import CypherSynthesis.Proofs.ArgumentOrder
import CypherSynthesis.Proofs.ProjectionEntries
import CypherSynthesis.Proofs.ResponseKeys
import CypherSynthesis.Proofs.CustomArguments
import CypherSynthesis.Proofs.WrittenProperties
import CypherSynthesis.Proofs.GeneratedKeys
import CypherSynthesis.Proofs.NodeUpdates
import CypherSynthesis.Proofs.FilterRouting
import CypherSynthesis.Proofs.EntryList
import CypherSynthesis.Proofs.SortOrder
import CypherSynthesis.Proofs.Scopes
import CypherSynthesis.Proofs.MutationVariables
import CypherSynthesis.Proofs.RowVariable
import CypherSynthesis.Proofs.ConditionOrder
import CypherSynthesis.Proofs.ClauseParameters
import CypherSynthesis.Proofs.FlatSelections
import CypherSynthesis.Proofs.TemporalForms
import CypherSynthesis.Proofs.MutationNames
import CypherSynthesis.Proofs.SortKeyForms
import CypherSynthesis.Proofs.FilterPartition
import CypherSynthesis.Proofs.Utf8Reading
import CypherSynthesis.Proofs.SettingsSources
import CypherSynthesis.Proofs.QuotedReading
import CypherSynthesis.Proofs.StatementVariables
