import BlobStorage.Simulation.Run
import BlobStorage.Proofs.BuilderHistory
import BlobStorage.Proofs.HeaderFields
import BlobStorage.Proofs.ResourceAddress
import BlobStorage.Proofs.ResponseReading
import BlobStorage.Proofs.DeleteRequest
import BlobStorage.Proofs.CallHistory
import BlobStorage.Proofs.DeleteOutcome
import BlobStorage.Proofs.PercentReading
import BlobStorage.Proofs.DeleteAddress
import BlobStorage.Proofs.SentRequest
import BlobStorage.Proofs.PathSegments
import BlobStorage.Proofs.HostCharacters
import BlobStorage.Proofs.AddressReading
import BlobStorage.Proofs.ResourceReading
import BlobStorage.Proofs.HeldResources
import BlobStorage.Proofs.CallIsolation
import BlobStorage.Proofs.BuilderRecords
import BlobStorage.Proofs.DelegatedDelete
import BlobStorage.Proofs.HandedSignal
import BlobStorage.Proofs.SentDate
import BlobStorage.Proofs.ConfigReading
import BlobStorage.Proofs.LogSecrecy
import BlobStorage.Proofs.TimeoutDelay
import BlobStorage.Proofs.FailureGuards
import BlobStorage.Proofs.MergeHistory
import BlobStorage.Proofs.QueryReading
import BlobStorage.Proofs.MergedHeaders
import BlobStorage.Proofs.ResponseFields
import BlobStorage.Proofs.ConfigWriting
import BlobStorage.Proofs.TakenDate
import BlobStorage.Proofs.EndpointSlashes
import BlobStorage.Proofs.AccountEndpoint
import BlobStorage.Proofs.GuardedCalls
import BlobStorage.Proofs.CodeElement
import BlobStorage.Proofs.LeaseTokens
