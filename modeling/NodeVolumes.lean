import NodeVolumes.Api.Adapter
import NodeVolumes.Api.Call
import NodeVolumes.Api.Request
import NodeVolumes.Api.Server
import NodeVolumes.Cluster.Call
import NodeVolumes.Cluster.Memory
import NodeVolumes.CommandLine.Arguments
import NodeVolumes.CommandLine.LogFilter
import NodeVolumes.CommandLine.LogLine
import NodeVolumes.CommandLine.Startup
import NodeVolumes.Config.Entry
import NodeVolumes.Config.Layer
import NodeVolumes.Config.Settings
import NodeVolumes.Config.VolumeConfig
import NodeVolumes.Controller.Claims
import NodeVolumes.Controller.Parked
import NodeVolumes.Controller.Reconcile
import NodeVolumes.Controller.Task
import NodeVolumes.Device.Claim
import NodeVolumes.Device.Provision
import NodeVolumes.Device.Request
import NodeVolumes.Error
import NodeVolumes.HostPath.Helper
import NodeVolumes.HostPath.HelperPod
import NodeVolumes.HostPath.Operation
import NodeVolumes.HostPath.Path
import NodeVolumes.HostPath.Provision
import NodeVolumes.HostPath.Quota
import NodeVolumes.Json
import NodeVolumes.KeyMap
import NodeVolumes.Main
import NodeVolumes.Metrics
import NodeVolumes.Number.Binary64
import NodeVolumes.Number.Decimal
import NodeVolumes.Number.Shortest
import NodeVolumes.Object.BlockDevice
import NodeVolumes.Object.BlockDeviceClaim
import NodeVolumes.Object.Metadata
import NodeVolumes.Object.Node
import NodeVolumes.Object.PersistentVolume
import NodeVolumes.Object.PersistentVolumeClaim
import NodeVolumes.Object.Pod
import NodeVolumes.Object.Schema
import NodeVolumes.Object.Schema.BlockDevice
import NodeVolumes.Object.Schema.Container
import NodeVolumes.Object.Schema.Kind
import NodeVolumes.Object.Schema.Metadata
import NodeVolumes.Object.Schema.Node
import NodeVolumes.Object.Schema.Pod
import NodeVolumes.Object.Schema.Storage
import NodeVolumes.Object.Selector
import NodeVolumes.Object.StorageClass
import NodeVolumes.Object.Timestamp
import NodeVolumes.ObjectKey
import NodeVolumes.Program
import NodeVolumes.Proofs.Adoption
import NodeVolumes.Proofs.Api.Selector
import NodeVolumes.Proofs.Cluster.Attempt
import NodeVolumes.Proofs.Cluster.Claims
import NodeVolumes.Proofs.Cluster.Creation
import NodeVolumes.Proofs.Cluster.Interleaving
import NodeVolumes.Proofs.Cluster.Play
import NodeVolumes.Proofs.Cluster.Run
import NodeVolumes.Proofs.Cluster.Schedule
import NodeVolumes.Proofs.Cluster.Separation
import NodeVolumes.Proofs.Config.Deprecated
import NodeVolumes.Proofs.Config.Layer
import NodeVolumes.Proofs.Config.VolumeConfig
import NodeVolumes.Proofs.Confinement
import NodeVolumes.Proofs.Controller.Claims
import NodeVolumes.Proofs.Controller.History
import NodeVolumes.Proofs.Controller.Parked
import NodeVolumes.Proofs.Controller.Pass
import NodeVolumes.Proofs.Controller.Removal
import NodeVolumes.Proofs.Controller.Server
import NodeVolumes.Proofs.Controller.Service
import NodeVolumes.Proofs.Controller.Visit
import NodeVolumes.Proofs.Controller.Volumes
import NodeVolumes.Proofs.Controller.Work
import NodeVolumes.Proofs.Device.Adoption
import NodeVolumes.Proofs.Device.Binding
import NodeVolumes.Proofs.Device.Claim
import NodeVolumes.Proofs.Device.Finalizer
import NodeVolumes.Proofs.Device.Looks
import NodeVolumes.Proofs.Device.Outcome
import NodeVolumes.Proofs.Device.Paths
import NodeVolumes.Proofs.Device.Permanence
import NodeVolumes.Proofs.Device.Race
import NodeVolumes.Proofs.Device.Release
import NodeVolumes.Proofs.Device.Selection
import NodeVolumes.Proofs.Disposal
import NodeVolumes.Proofs.Engine
import NodeVolumes.Proofs.Error
import NodeVolumes.Proofs.Failure
import NodeVolumes.Proofs.HostPath.Command
import NodeVolumes.Proofs.HostPath.Helper
import NodeVolumes.Proofs.HostPath.HelperPod
import NodeVolumes.Proofs.HostPath.Limits
import NodeVolumes.Proofs.HostPath.Nesting
import NodeVolumes.Proofs.HostPath.NormalForm
import NodeVolumes.Proofs.HostPath.Path
import NodeVolumes.Proofs.HostPath.Place
import NodeVolumes.Proofs.HostPath.Polling
import NodeVolumes.Proofs.HostPath.Provision
import NodeVolumes.Proofs.HostPath.Quota
import NodeVolumes.Proofs.HostPath.QuotaScript
import NodeVolumes.Proofs.HostPath.Script
import NodeVolumes.Proofs.HostPath.SizeToken
import NodeVolumes.Proofs.Isolation
import NodeVolumes.Proofs.Logging
import NodeVolumes.Proofs.Metrics
import NodeVolumes.Proofs.Number.Accuracy
import NodeVolumes.Proofs.Number.Binary64
import NodeVolumes.Proofs.Number.Numeral
import NodeVolumes.Proofs.Number.Order
import NodeVolumes.Proofs.Number.Rounding
import NodeVolumes.Proofs.Parking
import NodeVolumes.Proofs.Program.Notes
import NodeVolumes.Proofs.Program.Path
import NodeVolumes.Proofs.Program.Substitution
import NodeVolumes.Proofs.Program.Time
import NodeVolumes.Proofs.Quantity
import NodeVolumes.Proofs.Quantity.Accuracy
import NodeVolumes.Proofs.Quantity.Grammar
import NodeVolumes.Proofs.Retry
import NodeVolumes.Proofs.Reversal
import NodeVolumes.Proofs.Text.Filling
import NodeVolumes.Proofs.Transience
import NodeVolumes.Proofs.Volume.Pinning
import NodeVolumes.Proofs.Volume.Record
import NodeVolumes.Proofs.Volume.Release
import NodeVolumes.Provisioner
import NodeVolumes.Quantity
import NodeVolumes.Simulation.ControllerStage
import NodeVolumes.Simulation.EngineStage
import NodeVolumes.Simulation.Stage
import NodeVolumes.Text.Blank
import NodeVolumes.Text.Invisible
import NodeVolumes.Text.Quoted
import NodeVolumes.Text.Replace
import NodeVolumes.Volume.LocalVolume
import NodeVolumes.Volume.Request
import NodeVolumes.Yaml.Field
import NodeVolumes.Yaml.Node
import NodeVolumes.Yaml.Scalar
import NodeVolumes.Yaml.Tag
import NodeVolumes.Yaml.Token
