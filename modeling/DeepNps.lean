import DeepNps.Authorization
import DeepNps.BridgeAssociations
import DeepNps.BridgeConfigTask
import DeepNps.BridgeFileOwners
import DeepNps.BridgeNodesUsable
import DeepNps.BridgeP2PLifecycle
import DeepNps.BridgeRuntimeAuth
import DeepNps.CallbackQueueLeaving
import DeepNps.ConnMessages
import DeepNps.ConnProxyHeader
import DeepNps.ConnRequestHead
import DeepNps.EventLogPaging
import DeepNps.EventLogRestart
import DeepNps.EventSinkDelivery
import DeepNps.FileClientKeys
import DeepNps.FileConnCounter
import DeepNps.FileDeferredStores
import DeepNps.FileHostCerts
import DeepNps.FileHostLookup
import DeepNps.FileRejectedWrites
import DeepNps.FileTargetClone
import DeepNps.FileTaskPasswords
import DeepNps.FlowRefreshRuns
import DeepNps.IdempotencyOnce
import DeepNps.LoginPolicy
import DeepNps.MuxFlushWriter
import DeepNps.MuxFrameStream
import DeepNps.MuxIdsApart
import DeepNps.MuxLinkContent
import DeepNps.MuxReadDeadline
import DeepNps.MuxReceiveAccounting
import DeepNps.MuxWriteQueueRefinement
import DeepNps.OwnerRotation
import DeepNps.P2PAgreement
import DeepNps.P2PPortSpray
import DeepNps.P2PProposal
import DeepNps.P2PReplayFlood
import DeepNps.P2PWirePayload
import DeepNps.PmuxTransparency
import DeepNps.PolicyDomainTree
import DeepNps.RateArithmetic
import DeepNps.RelayDelivery
import DeepNps.Socks5UDPRegistry
import DeepNps.TrafficCharging
