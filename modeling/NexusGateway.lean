import NexusGateway.PointSync.Delta
import NexusGateway.PointSync.Fallback
import NexusGateway.PointSync.Persist
import NexusGateway.Dispatch.Routing
import NexusGateway.Dispatch.AtMostOnce
import NexusGateway.Egress.Agent
import NexusGateway.Connector.DedupTable
import NexusGateway.Connector.Mqtt.Precedence
import NexusGateway.Connector.Mqtt.LiveApply
import NexusGateway.Connector.Mqtt.Limiter
import NexusGateway.Connector.Mqtt.Silence
import NexusGateway.Connector.Mqtt.Shutdown
import NexusGateway.StoreForward.SeqWindow64
import NexusGateway.StoreForward.Migrate
import NexusGateway.Normalizer.Settling
import NexusGateway.Uplink.Delivery
import NexusGateway.Uplink.Loss
import NexusGateway.Uplink.CursorMono
import NexusGateway.Uplink.Balance
import NexusGateway.Provisioning.FileMapping
import NexusGateway.ClockSync.Coherence
import NexusGateway.ClockSync.Gate
import NexusGateway.RunContext.Agreement
import NexusGateway.RunContext.Contract
import NexusGateway.Connector.Bacnet.Managed
import NexusGateway.ClockSync.Worker
import NexusGateway.ClockSync.Replay
import NexusGateway.ClockSync.Mapping
import NexusGateway.Connector.Bacnet.Accepts
import NexusGateway.Connector.Opcua.WriteHandler
import NexusGateway.Catalog.Allowlist
import NexusGateway.Lifecycle.Recovery
import NexusGateway.Lifecycle.Install
import NexusGateway.Lifecycle.Mounts
import NexusGateway.Lifecycle.Exclusive
import NexusGateway.Lifecycle.Overtaking
import NexusGateway.ClockSync.ProducerSpec
import NexusGateway.MqttSync.Order
import NexusGateway.Logging.Recorder
import NexusGateway.Logging.NatsAddress
