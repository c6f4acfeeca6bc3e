import Chaft.Core.ChannelPrivacy
import Chaft.Core.HistoryAgreement
import Chaft.Core.LegacyScan
import Chaft.Core.MessageOwnership
import Chaft.Core.NarrowedAuthorization
import Chaft.Core.OrderIndependence
import Chaft.Core.SnapshotFidelity
import Chaft.Core.InviteViews
import Chaft.Core.ReactionCounts
import Chaft.Core.ViewAgreement
import Chaft.Core.InviteClaims
import Chaft.Library.KeyedLog
import Chaft.Security.Identity
import Chaft.Security.MlsGroups
import Chaft.Security.GroupContentKeys
import Chaft.Core.TaintOrigins
import Chaft.Storage.EventStore
import Chaft.Storage.AppendOnly
import Chaft.Storage.AtomicAppend
import Chaft.Library.Chunks
import Chaft.Library.Effect
import Chaft.Storage.BlobDescriptor
import Chaft.Storage.ManifestJson
import Chaft.Storage.BlobAvailability
import Chaft.Storage.BlobStore
import Chaft.Storage.BlobFiles
import Chaft.Storage.IntactBlobs
import Chaft.Storage.BlobCompleteness
import Chaft.Storage.ChunkedRoundTrip
import Chaft.Library.Utf8
import Chaft.Network.WireEvent
import Chaft.Library.Protobuf
import Chaft.Network.WireTrustSnapshot
import Chaft.Network.BlobUploads
import Chaft.Network.KeptBlobs
import Chaft.Library.Admission
import Chaft.Network.PublishEvents
import Chaft.Network.ForeignRoots
import Chaft.Core.OutsiderEvents
import Chaft.Core.PoisonPills
import Chaft.Network.InventoryPages
import Chaft.Network.GrowingInventory
import Chaft.Library.SlashPath
import Chaft.Runtime.RuntimeError
import Chaft.Runtime.SecretPaths
import Chaft.Runtime.WriteContext
import Chaft.Library.CausalOrder
import Chaft.Core.AppliedHistory
import Chaft.Runtime.ReadYourWrites
import Chaft.Runtime.LocalSecrets
import Chaft.Runtime.KeyRings
import Chaft.Runtime.KeyFiles
import Chaft.Library.Hex
import Chaft.Runtime.InviteMessages
import Chaft.Runtime.KeyImports
import Chaft.Runtime.KeptKeys
import Chaft.Core.GrowingHistory
import Chaft.View.Channels
import Chaft.Core.StoredReferences
import Chaft.Library.Counting
import Chaft.View.UnreadCounts
import Chaft.Library.SlidingWindow
import Chaft.View.Timeline
import Chaft.View.TimelineRows
import Chaft.View.ReaderAccess
import Chaft.View.BodyOverrides
import Chaft.View.WindowBodies
import Chaft.View.WindowSlices
import Chaft.Bindings.FfiArguments
import Chaft.Bindings.Outbox
import Chaft.Bindings.OutboxDelivery
import Chaft.Runtime.BodyDecryption
import Chaft.Runtime.SearchRebuild
import Chaft.Runtime.UnopenableBodies
import Chaft.Runtime.InviteClaiming
import Chaft.Runtime.FailedClaims
import Chaft.Library.Batching
import Chaft.Library.Bisection
import Chaft.Library.BoundedBuffer
import Chaft.Network.SyncFrames
import Chaft.Network.FetchEvents
import Chaft.Network.PublishBatches
import Chaft.Library.SocketText
import Chaft.Library.TextParts
import Chaft.Network.EndpointResolution
import Chaft.Network.DialedHints
import Chaft.Runtime.SavedSecrets
import Chaft.Runtime.LoadedSecrets
import Chaft.Network.JoinResponses
import Chaft.Bindings.JoinResponseInbox
import Chaft.Bindings.ServedJoinResponses
import Chaft.Core.OwnRecords
import Chaft.Runtime.Provisioning
import Chaft.Runtime.BoundContexts
import Chaft.Runtime.RotatedRings
import Chaft.Storage.StorageRepair
import Chaft.Storage.BlobTree
import Chaft.Storage.PrunedBlobs
import Chaft.Bindings.SubmissionBackoff
import Chaft.Bindings.JoinRequestInbox
import Chaft.Bindings.AcceptedHandoffs
import Chaft.Bindings.JoinRequestWrites
import Chaft.Bindings.InboxListings
import Chaft.Bindings.FirstWriterWins
import Chaft.Library.FirstItems
import Chaft.View.AccessHistory
import Chaft.Runtime.ToldAccess
import Chaft.Core.CurrentMessages
import Chaft.Runtime.WorkspaceSearch
import Chaft.Runtime.SearchHits
import Chaft.Runtime.TransferAttempts
import Chaft.Library.Gathering
import Chaft.Library.Zoom
import Chaft.Library.Gossip
import Chaft.Storage.ServedEvents
import Chaft.Network.WorkspacePull
import Chaft.Network.ReplicaNetwork
import Chaft.Network.BlobExchange
import Chaft.Network.BlobFrames
import Chaft.Network.FetchedBlobs
import Chaft.Network.PeerServer
import Chaft.Network.ServedRequests
import Chaft.Network.ServedFetches
import Chaft.Network.ServerPulls
