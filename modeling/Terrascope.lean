import Terrascope.Transition
import Terrascope.SlotArray
import Terrascope.Simulation
import Terrascope.SlotMap
import Terrascope.RingWindow
import Terrascope.Ramp
import Terrascope.CheckedInt
import Terrascope.FixedPoint
import Terrascope.ByteMemory
import Terrascope.MsgQueue
import Terrascope.Turnstile
import Terrascope.PeriodicTimer
import Terrascope.Cmac
import Terrascope.Zephyr
import Terrascope.Messages
import Terrascope.Sensors
import Terrascope.Config
import Terrascope.ConfigPersistence
import Terrascope.ConfigExport
import Terrascope.ConfigRange
import Terrascope.ConfigFailures
import Terrascope.ConfigLoading
import Terrascope.ConfigSet
import Terrascope.Contention
import Terrascope.ContentionDelay
import Terrascope.ContentionFate
import Terrascope.ContentionStranding
import Terrascope.ContentionExpiry
import Terrascope.PoolReinit
import Terrascope.Routing
import Terrascope.RoutingTable
import Terrascope.TableAging
import Terrascope.NeighborMap
import Terrascope.EvictionOrder
import Terrascope.CborItem
import Terrascope.Zcbor
import Terrascope.ZcborReading
import Terrascope.Cbor
import Terrascope.CborLanguage
import Terrascope.Auth
import Terrascope.Producers
import Terrascope.OutChannel
import Terrascope.Lora
import Terrascope.Node
import Terrascope.Hearing
import Terrascope.Acceptance
import Terrascope.PendingForwards
import Terrascope.NodeFlow
import Terrascope.NeighborRetention
import Terrascope.TimedNode
import Terrascope.OriginationPace
import Terrascope.StaleNeighbors
import Terrascope.RootedPaths
import Terrascope.FrameRejection
import Terrascope.FrameSize
import Terrascope.RelayEligibility
import Terrascope.RemoteConfig
import Terrascope.ConfigExchange
import Terrascope.Boot
import Terrascope.LoraReady
import Terrascope.RadioBoot
import Terrascope.BootOrder
import Terrascope.Unheard
import Terrascope.NetworkKey
import Terrascope.LoraMock
import Terrascope.Mesh
import Terrascope.MeshProvenance
import Terrascope.DirectFlag
import Terrascope.UnicastConfig
import Terrascope.MeshFlood
import Terrascope.MeshFreshness
import Terrascope.NodePass
import Terrascope.MeshReach
import Terrascope.MeshRequest
import Terrascope.MeshAirtime
import Terrascope.MeshTelemetry
