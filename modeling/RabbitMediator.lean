import RabbitMediator.AbortedCalls
import RabbitMediator.Accounting
import RabbitMediator.Acknowledgement
import RabbitMediator.AnsweredOnce
import RabbitMediator.Answering
import RabbitMediator.Bookkeeping
import RabbitMediator.Broker
import RabbitMediator.BrokerConsumers
import RabbitMediator.BrokerFailures
import RabbitMediator.CallOwners
import RabbitMediator.CallsEnd
import RabbitMediator.Channel
import RabbitMediator.ChannelCallsEnd
import RabbitMediator.ChannelDisposal
import RabbitMediator.ChannelReplacement
import RabbitMediator.Coherence
import RabbitMediator.CompletedOnce
import RabbitMediator.ConcurrentDictionary
import RabbitMediator.Configuration
import RabbitMediator.Configure
import RabbitMediator.ConfigureOnce
import RabbitMediator.Confirmation
import RabbitMediator.ConsumedAtMostOnce
import RabbitMediator.ConsumerClass
import RabbitMediator.ConsumerInstances
import RabbitMediator.ConsumerInvoker
import RabbitMediator.ConsumerMapping
import RabbitMediator.ConsumerTypes
import RabbitMediator.Consumption
import RabbitMediator.Correlation
import RabbitMediator.Custody
import RabbitMediator.Deadline
import RabbitMediator.Disposal
import RabbitMediator.DisposeConnection
import RabbitMediator.EnsureConfigured
import RabbitMediator.EnsureReceiver
import RabbitMediator.Environment
import RabbitMediator.Exceptions
import RabbitMediator.Expiration
import RabbitMediator.Failures
import RabbitMediator.GetOrAdd
import RabbitMediator.HandleRequest
import RabbitMediator.HostStart
import RabbitMediator.Interleaving
import RabbitMediator.Json
import RabbitMediator.LeftBehind
import RabbitMediator.LeftoverMediators
import RabbitMediator.Lifecycle
import RabbitMediator.MediatorLife
import RabbitMediator.MessageObjects
import RabbitMediator.Mutex
import RabbitMediator.NothingLost
import RabbitMediator.Progress
import RabbitMediator.Provenance
import RabbitMediator.Publish
import RabbitMediator.PublishChannel
import RabbitMediator.QuietCalls
import RabbitMediator.RabbitNaming
import RabbitMediator.Readiness
import RabbitMediator.Receive
import RabbitMediator.ReceiverProgress
import RabbitMediator.ReceiverRetry
import RabbitMediator.ReceiverRun
import RabbitMediator.Recorded
import RabbitMediator.Recovery
import RabbitMediator.Registration
import RabbitMediator.Registry
import RabbitMediator.Rendezvous
import RabbitMediator.RendezvousRuns
import RabbitMediator.RendezvousStrays
import RabbitMediator.RendezvousWalks
import RabbitMediator.RequestCall
import RabbitMediator.RequestOutcome
import RabbitMediator.Resolution
import RabbitMediator.ResponseAddress
import RabbitMediator.ResponseDispatch
import RabbitMediator.RoundTrip
import RabbitMediator.Routing
import RabbitMediator.SendCall
import RabbitMediator.SendExchanges
import RabbitMediator.SentObject
import RabbitMediator.SentType
import RabbitMediator.Serializer
import RabbitMediator.Serializing
import RabbitMediator.ServiceCollection
import RabbitMediator.SetUp
import RabbitMediator.Settlement
import RabbitMediator.SharedQueue
import RabbitMediator.Shutdown
import RabbitMediator.ShutdownEnds
import RabbitMediator.Simulation
import RabbitMediator.System
import RabbitMediator.Teardown
import RabbitMediator.TearingDown
import RabbitMediator.TimeSpan
import RabbitMediator.Topology
import RabbitMediator.TopologyHistory
import RabbitMediator.Traced
import RabbitMediator.TypeNames
import RabbitMediator.TypeRegistry
import RabbitMediator.UseAfterDispose
import RabbitMediator.Validation
import RabbitMediator.Views
import RabbitMediator.Waiters
import RabbitMediator.WireFormat
import RabbitMediator.WireNames
import RabbitMediator.WireRuns
import RabbitMediator.Words
import RabbitMediator.Worker
import RabbitMediator.World
