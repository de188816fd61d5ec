import Dish.Lib.Run
import Dish.Lib.IndexBy
import Dish.Lib.Seqlock
import Dish.Lib.GraceEpoch
import Dish.Lib.Incremental
import Dish.Lib.Checked
import Dish.Lib.BoundedQueue
import Dish.Core.Protocol
import Dish.Core.Models
import Dish.Core.Reconcile
import Dish.Core.RestOutcome
import Dish.Core.IpLiterals
import Dish.Core.Negotiation
import Dish.Net.WifiConnection
import Dish.Net.Satellite
import Dish.Net.Session
import Dish.Net.Link
import Dish.Net.SatelliteClient
import Dish.Repository.SharedKey
import Dish.Repository.ConnectionStore
import Dish.Http.SatelliteTlsVerifier
import Dish.Proofs.SharedKey
import Dish.Proofs.LateSlots
import Dish.Proofs.Slots
import Dish.Proofs.LinkInv
import Dish.Proofs.Topology
import Dish.Proofs.SelfHeal
import Dish.Proofs.Material
import Dish.Proofs.NonceUnique
import Dish.Proofs.ReplayGuard
import Dish.Input.GamepadInputProcessor
import Dish.Proofs.RegistryInv
import Dish.Proofs.RegistryWrites
import Dish.Proofs.Registry
import Dish.SlotRouter
import Dish.Proofs.RouteTable
import Dish.AppModel
import Dish.Proofs.Feedback
import Dish.Net.ConnectionHub
import Dish.Net.ManagerState
import Dish.Net.WifiConnectionManager
import Dish.Net.ManagerReplies
import Dish.Net.AttemptView
import Dish.Proofs.Hub
import Dish.Proofs.Books
import Dish.Proofs.ManagerSteps
import Dish.Proofs.Attempts
import Dish.Proofs.Addressed
import Dish.Proofs.Connecting
import Dish.Proofs.Retries
import Dish.Proofs.Approvals
import Dish.Proofs.Verdicts
import Dish.Core.UsbPathMachine
import Dish.Core.UsbModels
import Dish.Usb.UsbGamepadManager
import Dish.Usb.FrameworkPresence
import Dish.Core.UsbOutputReports
import Dish.Core.UsbHidLayout
import Dish.Usb.PadFirmware
import Dish.Proofs.OutputReports
import Dish.Proofs.HidSafety
import Dish.Proofs.HidItems
import Dish.Proofs.HidCost
import Dish.Proofs.HidHat
import Dish.Core.HttpFraming
import Dish.Proofs.HttpFraming
import Dish.Proofs.UsbPath
import Dish.Proofs.UsbClaims
import Dish.Proofs.Stranded
import Dish.Core.OutputMailbox
import Dish.Usb.OutputWorker
import Dish.Proofs.Mailbox
import Dish.Proofs.Deliveries
import Dish.Proofs.Delivered
import Dish.Core.AudioJitter
import Dish.Core.MoonlightSessionMachine
import Dish.Core.MoonlightPadSlots
import Dish.Core.MoonlightTelemetry
import Dish.Repository.MoonlightHosts
import Dish.Moonlight.Session
import Dish.Moonlight.PairingFlow
import Dish.Moonlight.Manager
import Dish.Proofs.AudioJitter
import Dish.Proofs.JitterStream
import Dish.Proofs.MoonlightMachine
import Dish.Proofs.MoonlightSession
import Dish.Proofs.MoonlightKeys
import Dish.Proofs.MoonlightManager
import Dish.Proofs.MoonlightBindings
import Dish.Proofs.MoonlightForget
import Dish.Proofs.MoonlightAddress
import Dish.Proofs.MoonlightIdentity
import Dish.Proofs.MoonlightPadTables
import Dish.Proofs.MoonlightPads
import Dish.Core.UpdateMachine
import Dish.Proofs.UpdateMachine
import Dish.Proofs.DirectTarget
import Dish.Proofs.Negotiation
import Dish.Net.PingClock
import Dish.Proofs.PingClock
import Dish.Core.MpscQueue
import Dish.Audio.SpeakerPlayoutEngine
import Dish.Proofs.MpscQueue
import Dish.Proofs.SpeakerPlayout
import Dish.Core.LatencyWindow
import Dish.Proofs.LatencyWindow
import Dish.Proofs.MoonlightPicks
