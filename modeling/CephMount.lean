import CephMount.Text.Basic
import CephMount.Text.Utf8
import CephMount.Text.Terminal
import CephMount.Net.Ipv4
import CephMount.Net.Ipv6
import CephMount.Decimal.Double
import CephMount.Json.Value
import CephMount.Json.Write
import CephMount.Json.Decoder
import CephMount.Json.Numbers
import CephMount.Json.Read
import CephMount.Digest.Sha256
import CephMount.Error
import CephMount.Options
import CephMount.Path
import CephMount.FileTree
import CephMount.Monitor
import CephMount.Policy
import CephMount.Facts
import CephMount.MountTable
import CephMount.Spec
import CephMount.Plan
import CephMount.Record
import CephMount.PeerStore
import CephMount.Host.Command
import CephMount.Cli
import CephMount.Cli.Help
import CephMount.Cli.Run
import CephMount.Host.Mounter
import CephMount.Host.Packages
import CephMount.Host.Scripted
import CephMount.Host.Shell
import CephMount.Main
import CephMount.Reconcile
import CephMount.SimHost
import CephMount.Proofs.CallLog
import CephMount.Proofs.PlanShape
import CephMount.Proofs.ActionSafety
import CephMount.Proofs.MountMap
import CephMount.Proofs.Resumption
import CephMount.Proofs.Ownership
import CephMount.Proofs.Utf8RoundTrip
import CephMount.Proofs.KernelTable
import CephMount.Proofs.StatusView
import CephMount.Proofs.SpecChange
import CephMount.Proofs.AddressText
import CephMount.Proofs.MonitorText
import CephMount.Proofs.JsonReading
import CephMount.Proofs.RecordJson
import CephMount.Proofs.MountData
import CephMount.Proofs.Fingerprint
import CephMount.Proofs.ProbeFailure
import CephMount.Proofs.Teardown
import CephMount.Proofs.CommandLog
import CephMount.Proofs.HelperRemoval
import CephMount.Proofs.Convergence
import CephMount.Proofs.MountpointNormal
import CephMount.Proofs.Generation
import CephMount.Proofs.TreeFrame
import CephMount.Proofs.SecretFile
import CephMount.Proofs.FieldDecoding
import CephMount.Proofs.TreeRename
import CephMount.Proofs.RecordFiles
import CephMount.Proofs.SharedStore
