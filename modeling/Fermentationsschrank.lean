import Fermentationsschrank.Core.Runs
import Fermentationsschrank.Core.Balances
import Fermentationsschrank.Core.Fallible
import Fermentationsschrank.Core.Format
import Fermentationsschrank.Core.BufferScan
import Fermentationsschrank.Core.ByteSearch
import Fermentationsschrank.Core.Calendar
import Fermentationsschrank.Core.CompactJson
import Fermentationsschrank.Core.ConstantTime
import Fermentationsschrank.Core.Effects
import Fermentationsschrank.Storage.Binary64
import Fermentationsschrank.Core.FormatWriting
import Fermentationsschrank.Core.FormatBlock
import Fermentationsschrank.Core.FormatSizes
import Fermentationsschrank.Core.Histories
import Fermentationsschrank.Core.RingBuffer
import Fermentationsschrank.Core.RunOn
import Fermentationsschrank.Core.SignedArithmetic
import Fermentationsschrank.Core.Utf8
import Fermentationsschrank.Storage.Crc32
import Fermentationsschrank.Storage.StorageEnvelope
import Fermentationsschrank.Storage.EnvelopeScan
import Fermentationsschrank.Storage.StateStore
import Fermentationsschrank.Program.ProgramModel
import Fermentationsschrank.Configuration.ConfigurationText
import Fermentationsschrank.Program.ProgramCatalog
import Fermentationsschrank.Program.ProgramDocumentCodec
import Fermentationsschrank.Program.ProgramEditing
import Fermentationsschrank.Run.RunSnapshot
import Fermentationsschrank.Run.AdjustmentChain
import Fermentationsschrank.Run.ProcessStateMachine
import Fermentationsschrank.Run.RunState
import Fermentationsschrank.Run.SensorSelection
import Fermentationsschrank.Run.SensorSelectionDecision
import Fermentationsschrank.Run.CommandDecision
import Fermentationsschrank.Run.RecoveryTime
import Fermentationsschrank.Run.RunCommands
import Fermentationsschrank.Run.CommandFacts
import Fermentationsschrank.Run.ProcessDecisions
import Fermentationsschrank.Run.RecoveryArithmetic
import Fermentationsschrank.Run.SensorSelectionSteps
import Fermentationsschrank.Run.SensorSelectionRuns
import Fermentationsschrank.Run.SensorSelectionReturns
import Fermentationsschrank.Persistence.Contract
import Fermentationsschrank.Persistence.CheckpointFields
import Fermentationsschrank.Persistence.CheckpointCodec
import Fermentationsschrank.Persistence.CheckpointCanonical
import Fermentationsschrank.Persistence.CheckpointEncodable
import Fermentationsschrank.Persistence.HeadCodec
import Fermentationsschrank.Persistence.Coordinator
import Fermentationsschrank.Persistence.Load
import Fermentationsschrank.Persistence.EpochHandoff
import Fermentationsschrank.Persistence.LoadFacts
import Fermentationsschrank.Persistence.SnapshotWrite
import Fermentationsschrank.Persistence.Operations
import Fermentationsschrank.Persistence.WriteProtocol
import Fermentationsschrank.Persistence.TransactionFacts
import Fermentationsschrank.Recovery.RecoveryCandidate
import Fermentationsschrank.Recovery.RecoveryOperations
import Fermentationsschrank.Recovery.RunOperation
import Fermentationsschrank.Recovery.PlanFacts
import Fermentationsschrank.Recovery.OperationFacts
import Fermentationsschrank.Recovery.OperationEnds
import Fermentationsschrank.Recovery.OperationCalls
import Fermentationsschrank.Recovery.CounterOverflow
import Fermentationsschrank.Recovery.RunRecovery
import Fermentationsschrank.Recovery.LiveState
import Fermentationsschrank.Guarantees.DeviceRuns
import Fermentationsschrank.Guarantees.LiveRuns
import Fermentationsschrank.Guarantees.ObservedLedger
import Fermentationsschrank.Guarantees.ObservedRecoveries
import Fermentationsschrank.Recovery.WeightedSegments
import Fermentationsschrank.Control.ControlNumber
import Fermentationsschrank.Control.ActuatorPlanTypes
import Fermentationsschrank.Control.ActuatorEvaluation
import Fermentationsschrank.Control.ActuatorWindows
import Fermentationsschrank.Control.ActuatorPlanner
import Fermentationsschrank.Control.PlannerOutput
import Fermentationsschrank.Control.PlannerStages
import Fermentationsschrank.Control.PlannerTicks
import Fermentationsschrank.Guarantees.PlannerRuns
import Fermentationsschrank.Guarantees.SwitchingTimes
import Fermentationsschrank.Control.PlannerAuthority
import Fermentationsschrank.Guarantees.AuthorizedRequests
import Fermentationsschrank.Configuration.ConfigurationBootstrap
import Fermentationsschrank.Configuration.ConfigurationBootstrapCodec
import Fermentationsschrank.Configuration.ConfigurationBootstrapStore
import Fermentationsschrank.Configuration.BootstrapFacts
import Fermentationsschrank.Configuration.BootstrapRoundTrip
import Fermentationsschrank.Configuration.BootstrapSteps
import Fermentationsschrank.Guarantees.BootstrapHistory
import Fermentationsschrank.Guarantees.BootstrapWrites
import Fermentationsschrank.Control.SharedEnableBridge
import Fermentationsschrank.Guarantees.BridgeInterlock
import Fermentationsschrank.Guarantees.CheckpointRoundTrip
import Fermentationsschrank.Configuration.ConfigurationGraph
import Fermentationsschrank.Sensors.SensorReading
import Fermentationsschrank.Sensors.SensorCommissioning
import Fermentationsschrank.Configuration.ServiceConfigurationCodec
import Fermentationsschrank.Guarantees.Commissioning
import Fermentationsschrank.Configuration.ProgramCatalogCodec
import Fermentationsschrank.Network.ConnectivityCredentials
import Fermentationsschrank.Network.SoftApCredentials
import Fermentationsschrank.Network.NetworkConfigurationService
import Fermentationsschrank.Configuration.UserConfiguration
import Fermentationsschrank.Configuration.UserConfigurationCodec
import Fermentationsschrank.Guarantees.ConfigurationDocuments
import Fermentationsschrank.Configuration.ConfigurationGraphCodec
import Fermentationsschrank.Guarantees.ConfigurationRecords
import Fermentationsschrank.Control.WindowSteps
import Fermentationsschrank.Guarantees.DeliveredTime
import Fermentationsschrank.Authentication.AuthenticationRecords
import Fermentationsschrank.Authentication.AuthenticationStore
import Fermentationsschrank.Authentication.AuthenticationDomain
import Fermentationsschrank.Guarantees.DeviceNames
import Fermentationsschrank.Guarantees.EnvelopeImage
import Fermentationsschrank.Control.TemperatureControl
import Fermentationsschrank.Control.ControllerFacts
import Fermentationsschrank.Guarantees.EvaluationMatrix
import Fermentationsschrank.Reset.FactoryResetFlow
import Fermentationsschrank.Guarantees.FactoryReset
import Fermentationsschrank.Control.PlannerFans
import Fermentationsschrank.Guarantees.FanPostRun
import Fermentationsschrank.Control.ControlContext
import Fermentationsschrank.Control.ControlOrchestrator
import Fermentationsschrank.Control.FeedbackEpisodes
import Fermentationsschrank.Guarantees.FeedbackHandshake
import Fermentationsschrank.Sensors.SensorFilters
import Fermentationsschrank.Sensors.SensorQualityPipeline
import Fermentationsschrank.Sensors.SensorPipelineRuns
import Fermentationsschrank.Sensors.FilterContents
import Fermentationsschrank.Guarantees.FilterProbes
import Fermentationsschrank.Guarantees.HeadRecords
import Fermentationsschrank.Control.ActuationInterlock
import Fermentationsschrank.Guarantees.InterlockDenials
import Fermentationsschrank.Guarantees.Loading
import Fermentationsschrank.Time.LocalTime
import Fermentationsschrank.Guarantees.LocalClock
import Fermentationsschrank.Authentication.AuthenticationWrites
import Fermentationsschrank.Authentication.AuthenticationAttempts
import Fermentationsschrank.Guarantees.Lockouts
import Fermentationsschrank.Web.WebSession
import Fermentationsschrank.Web.SessionEvents
import Fermentationsschrank.Guarantees.MutationReplay
import Fermentationsschrank.Guarantees.NetworkCredentials
import Fermentationsschrank.Guarantees.ObservedTime
import Fermentationsschrank.Guarantees.SensorSelectionConsistency
import Fermentationsschrank.Guarantees.PeltierPermission
import Fermentationsschrank.Sensors.SamplingEngine
import Fermentationsschrank.Guarantees.ProbeReadings
import Fermentationsschrank.Guarantees.ProcessRuns
import Fermentationsschrank.Guarantees.ProgramEdits
import Fermentationsschrank.Guarantees.Projection
import Fermentationsschrank.Control.TargetQualification
import Fermentationsschrank.Guarantees.QualificationCredit
import Fermentationsschrank.Guarantees.Recalibration
import Fermentationsschrank.Guarantees.RecoveryTimeBounds
import Fermentationsschrank.Web.HttpRequestHeaders
import Fermentationsschrank.Guarantees.RequestHeaders
import Fermentationsschrank.Guarantees.ReturnValidation
import Fermentationsschrank.Guarantees.RevisionFreshness
import Fermentationsschrank.Time.RtcRegisters
import Fermentationsschrank.Guarantees.RtcInstants
import Fermentationsschrank.Guarantees.RunAdjustments
import Fermentationsschrank.Guarantees.SamplingCycles
import Fermentationsschrank.Authentication.SecretChange
import Fermentationsschrank.Guarantees.SecretChanges
import Fermentationsschrank.Guarantees.TargetReachEpisodes
import Fermentationsschrank.Web.UiProjection
import Fermentationsschrank.Web.WebJsonCodec
import Fermentationsschrank.Guarantees.WebAnswers
import Fermentationsschrank.Guarantees.WeightedBookings
import Fermentationsschrank.Guarantees.WriteBeforeApply
