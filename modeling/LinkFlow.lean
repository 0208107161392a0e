import LinkFlow.AtLeastOnce
import LinkFlow.ConnectionFanOut
import LinkFlow.ValueAgreement
import LinkFlow.CommandContract
import LinkFlow.ProcessorContract
import LinkFlow.ProcessorTenant
import LinkFlow.SessionSafety
import LinkFlow.SecretDevices
import LinkFlow.ModelTransactions
import LinkFlow.TenantIsolation
import LinkFlow.DeviceHistory
import LinkFlow.DeliveryContract
import LinkFlow.RunnerShutdown
import LinkFlow.ThingsModelReading
import LinkFlow.NumericGrid
import LinkFlow.RealtimeRegistry
import LinkFlow.RealtimeClient
import LinkFlow.ModelReads
import LinkFlow.GatewayGraph
import LinkFlow.ProcessorRetries
import LinkFlow.RequiredOutputs
import LinkFlow.ServiceTopics
import LinkFlow.RequestBody
import LinkFlow.Pagination
import LinkFlow.DerivedPrecision
import LinkFlow.NumberCarrying
import LinkFlow.EditorRoundTrip
import LinkFlow.DeviceProvenance
import LinkFlow.UplinkContract
import LinkFlow.DeploymentSafety
import LinkFlow.StateEvents
import LinkFlow.AuditTrail
