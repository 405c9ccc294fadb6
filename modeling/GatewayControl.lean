import GatewayControl.Main
import GatewayControl.Proofs.Accounting
import GatewayControl.Proofs.Atomicity
import GatewayControl.Proofs.Backends
import GatewayControl.Proofs.DefinitionOrder
import GatewayControl.Proofs.DocumentFiles
import GatewayControl.Proofs.FieldCounts
import GatewayControl.Proofs.Lookups
import GatewayControl.Proofs.MirroredPasses
import GatewayControl.Proofs.Ownership
import GatewayControl.Proofs.Quiescence
import GatewayControl.Proofs.Registrations
import GatewayControl.Proofs.Regrouping
import GatewayControl.Proofs.Rejections
import GatewayControl.Proofs.Replays
import GatewayControl.Proofs.ReportBatches
import GatewayControl.Proofs.Service
import GatewayControl.Proofs.Settling
import GatewayControl.Proofs.StaleSkeletons
import GatewayControl.Proofs.Templates
import GatewayControl.Proofs.Transports
import GatewayControl.Shutdown
import GatewayControl.Supervision
import GatewayControl.Watch.Directory
