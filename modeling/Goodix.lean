import Goodix.Library.Octets
import Goodix.Library.TwoSlot
import Goodix.Library.Machines
import Goodix.Library.Packets
import Goodix.Library.Reorderings
import Goodix.Library.Streams
import Goodix.Library.Traces
import Goodix.Library.Callbacks
import Goodix.Primitives
import Goodix.A0Protocol
import Goodix.Bb010002
import Goodix.Config90
import Goodix.PairingCrypto
import Goodix.SelfState.Record
import Goodix.SelfState.Receipt
import Goodix.SelfState.Directory
import Goodix.SelfState.Store
import Goodix.SelfState.WriteOutcome
import Goodix.SelfState.Durability
import Goodix.LivePreflight.Evidence
import Goodix.LivePreflight.Machine
import Goodix.LivePreflight.Grammar
import Goodix.LivePreflight.Confluence
import Goodix.SecureMaterial
import Goodix.Pairing.Provision
import Goodix.Pairing.Activation
import Goodix.Pairing.Steps
import Goodix.Pairing.Construction
import Goodix.Pairing.ProofChain
import Goodix.Pairing.Reservation
import Goodix.RuntimeCoordinator.Acquire
import Goodix.RuntimeCoordinator.Authority
import Goodix.DeviceContext.Material
import Goodix.DeviceContext.Agreement
import Goodix.Usb.Router
import Goodix.Usb.Chunks
import Goodix.Usb.Backend
import Goodix.Usb.Fence
import Goodix.OutConfluence
import Goodix.SecureSession.Contract
import Goodix.SecureSession.Machine
import Goodix.SecureSession.Moves
import Goodix.SecureSession.Calls
import Goodix.SecureSession.Order
import Goodix.SecureSession.Runs
import Goodix.SecureSession.Egress
import Goodix.SecureSession.Confluence
import Goodix.Pairing.Confluence
import Goodix.FdtIrqPolicy
import Goodix.ImageDecoder
import Goodix.PostTls.Machine
import Goodix.PostTls.Moves
import Goodix.PostTls.Grammar
import Goodix.PostTls.Conversation
import Goodix.PostTls.Bootstrap
import Goodix.ConfigValidation
import Goodix.Enrollment.Model
import Goodix.Enrollment.Moves
import Goodix.Enrollment.Delivery
import Goodix.ChicagoEnrollment
import Goodix.Enrollment.Commands
import Goodix.Enrollment.Adapter
import Goodix.Enrollment.Lockstep
import Goodix.Enrollment.Events
import Goodix.Enrollment.Binding
import Goodix.Enrollment.Story
import Goodix.Enrollment.Inbound
import Goodix.Enrollment.Agreement
import Goodix.Enrollment.Gating
import Goodix.Enrollment.Recovery
import Goodix.SelfState.Canonical
import Goodix.PostTls.Story
import Goodix.Enrollment.Completion
import Goodix.Duplicates
import Goodix.PostTls.Silence
import Goodix.Library.Json
import Goodix.TargetMaterial.Manifest
import Goodix.Deployment.Manifest
import Goodix.ActionBinding
import Goodix.TargetMaterial.Load
import Goodix.TargetMaterial.Acceptance
import Goodix.Deployment.Transaction
import Goodix.ImageCodec
import Goodix.OtpProtection
import Goodix.ValidatorAgreement
import Goodix.RuntimeCoordinator.Diagnostics
import Goodix.Fixed64
import Goodix.TlsServer
import Goodix.Deployment.LoginGate
import Goodix.PostTls.Chunks
import Goodix.Enrollment.Reassembly
import Goodix.Deployment.EntryPoints
import Goodix.Deployment.Publication
import Goodix.PostTls.Tables
import Goodix.Irq80
import Goodix.PostTls.Acquisitions
import Goodix.ImageChecksum
import Goodix.Manager.Discovery
import Goodix.Deployment.Expected
import Goodix.Manager.UpdateGate
import Goodix.Library.Pieces
import Goodix.Library.Monitors
import Goodix.DeviceContext.Context
import Goodix.DeviceContext.Framework
import Goodix.DeviceContext.Machine
import Goodix.DeviceContext.Program
import Goodix.DeviceContext.Reception
import Goodix.DeviceContext.Synchronisation
import Goodix.DeviceContext.Answers
import Goodix.DeviceContext.Activation
import Goodix.DeviceContext.Completions
import Goodix.DeviceContext.Answering
import Goodix.DeviceContext.Bus
import Goodix.DeviceContext.Epochs
