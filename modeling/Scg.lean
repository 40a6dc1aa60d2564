import Scg.Gateway.ReloadListeners
import Scg.Gateway.ReloadRace
import Scg.Registry.Consistency
import Scg.Registry.Quota
import Scg.Registry.LiveQuota
import Scg.Relay.Pinning
import Scg.Relay.SessionTables
import Scg.Relay.Association
import Scg.Pool.Stranding
import Scg.Interfaces.Authentication
import Scg.Relay.DtlsAdmission
import Scg.Ipc.LayoutAgreement
import Scg.Config.Manager
import Scg.Relay.Upstreams
import Scg.Relay.HalfClose
import Scg.Relay.PassBounds
import Scg.Ipc.FrameCodec
import Scg.Ipc.DrainProgress
import Scg.Ipc.RelayPolling
import Scg.Client.Batch
import Scg.Ipc.ExitWakeup
import Scg.Client.ReceiveContract
import Scg.Gateway.ReloadComplete
import Scg.Networking.Plan
import Scg.Networking.InterceptChange
import Scg.Policy.CacheGrowth
import Scg.Policy.Caching
import Scg.AppProtocols.Agreement
import Scg.Client.UdsBatch
import Scg.Client.UdsSend
import Scg.Client.ShmConnect
import Scg.Networking.MmsgRecv
import Scg.Policy.Semantics
import Scg.Lite.DeepMerge
import Scg.Lite.TemplateFill
import Scg.Lite.Rendering
import Scg.Interfaces.RateLimiter
import Scg.Networking.LoopAvoidance
import Scg.Networking.Installable
import Scg.Wireguard.Recognised
import Scg.Wireguard.Provision
import Scg.Wireguard.Base64
import Scg.Tls.Residency
import Scg.Relay.Splice
import Scg.Lite.References
import Scg.Lite.Authenticity
import Scg.Net.TrustedSource
