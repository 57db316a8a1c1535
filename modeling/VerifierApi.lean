import VerifierApi.ErrorChain
import VerifierApi.TracedRun
import VerifierApi.HexText
import VerifierApi.AbiEncoding
import VerifierApi.UniqueIndex
import VerifierApi.Sentinels
import VerifierApi.IndexerStore
import VerifierApi.IndexerReads
import VerifierApi.DropsAmount
import VerifierApi.InstructionEvent
import VerifierApi.InstructionIds
import VerifierApi.PairedLists
import VerifierApi.Fallible
import VerifierApi.SequenceBinder
import VerifierApi.PaymentStatusVerifier
import VerifierApi.FeeProofVerifier
import VerifierApi.FeeProofSettlement
import VerifierApi.FeeProofBounds
import VerifierApi.PaymentBinding
import VerifierApi.FeeProofAdditivity
import VerifierApi.FeeProofWindow
import VerifierApi.FeeProofEstimate
import VerifierApi.VerifierAgreement
import VerifierApi.VerifyHandler
import VerifierApi.CorruptData
import VerifierApi.MultisigVerifier
import VerifierApi.UrlValidation
import VerifierApi.HttpFetcher
import VerifierApi.CrlCache
import VerifierApi.CrlForToken
import VerifierApi.StepMachine
import VerifierApi.CrlCacheMachine
import VerifierApi.CrlCacheEntries
import VerifierApi.CrlCacheSafety
import VerifierApi.CrlCacheRefinement
import VerifierApi.TeeVerifier
import VerifierApi.TeeMediation
import VerifierApi.TeeErrors
import VerifierApi.EndpointAgreement
import VerifierApi.TransientFaults
import VerifierApi.TransientVerdict
import VerifierApi.BoundedCache
import VerifierApi.BinderMachine
import VerifierApi.NetworkPin
import VerifierApi.CrlCancellation
import VerifierApi.KeyedEntries
import VerifierApi.MultisigVerdict
import VerifierApi.PinnedResolution
import VerifierApi.BlockedRanges
import VerifierApi.CrlEviction
import VerifierApi.BatchReads
import VerifierApi.RetryLoop
import VerifierApi.PolicyRetry
import VerifierApi.RelayCutover
import VerifierApi.RegisteredPolicies
import VerifierApi.ReceivedAmount
import VerifierApi.RecencyOrder
import VerifierApi.ElementList
import VerifierApi.NonceCache
import VerifierApi.TextCuts
import VerifierApi.DsnGrammar
import VerifierApi.DsnAugmentation
import VerifierApi.IndexerReplicas
import VerifierApi.RunProgress
import VerifierApi.NetworkPinProgress
import VerifierApi.CrlCacheProgress
import VerifierApi.BinderProgress
import VerifierApi.DeploymentConfig
import VerifierApi.DeploymentRoutes
import VerifierApi.ServiceConfig
import VerifierApi.HandleLedger
import VerifierApi.DBConnection
import VerifierApi.ServiceLifecycle
import VerifierApi.ServiceBoot
import VerifierApi.ServiceHandles
import VerifierApi.ServerEnvironment
import VerifierApi.AsciiBytes
import VerifierApi.ServerAccess
import VerifierApi.BootedProcess
import VerifierApi.ServedRequests
import VerifierApi.PreparedRequests
import VerifierApi.LedgerProcess
import VerifierApi.ServedResponses
import VerifierApi.NetworkField
import VerifierApi.NetworkPinRefinement
