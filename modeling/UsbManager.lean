import UsbManager.Lib.StdMap
import UsbManager.Types
import UsbManager.Lib.Chain
import UsbManager.Lib.Loop
import UsbManager.Lib.Bracket
import UsbManager.Lib.Decimal
import UsbManager.Descriptor.Parser
import UsbManager.Descriptor.Walk
import UsbManager.Descriptor.Errors
import UsbManager.Descriptor.RoundTrip
import UsbManager.Descriptor.SingleConfig
import UsbManager.Lib.Fifo
import UsbManager.Descriptor.Parcel
import UsbManager.Host.TypeMap
import UsbManager.Host.State
import UsbManager.Host.Policy
import UsbManager.Host.Enumerate
import UsbManager.Host.Effects
import UsbManager.Host.Acts
import UsbManager.Host.Handles
import UsbManager.Host.Success
import UsbManager.Host.TrustList
import UsbManager.Host.SerialPolicy
import UsbManager.Host.TypePolicy
import UsbManager.Host.Requests
import UsbManager.Host.ActiveConfig
import UsbManager.Host.AlternateSettings
import UsbManager.Host.Broadcast
import UsbManager.Host.BulkCallback
import UsbManager.Host.Notification
import UsbManager.Host.Runs
import UsbManager.Host.SerialList
import UsbManager.Rights.Database
import UsbManager.Rights.Manager
import UsbManager.Rights.Expiry
import UsbManager.Rights.Records
import UsbManager.Rights.Reinstall
import UsbManager.Rights.Grant
import UsbManager.Serial.Manager
import UsbManager.Serial.Operations
import UsbManager.Serial.Dump
import UsbManager.Serial.Sessions
import UsbManager.Accessory.Manager
import UsbManager.Accessory.Keys
import UsbManager.Accessory.Machine
import UsbManager.Accessory.Revert
import UsbManager.Accessory.Brackets
import UsbManager.Service.Rights
import UsbManager.Service.Devices
import UsbManager.Service.Revocation
import UsbManager.Service.Request
import UsbManager.Service.PortTables
import UsbManager.Service.SerialDeath
import UsbManager.Port.Manager
import UsbManager.Lib.Timer
import UsbManager.Gadget.Manager
import UsbManager.Gadget.Connection
import UsbManager.Gadget.HdcNotification
import UsbManager.Lib.Bits
import UsbManager.Lib.Separated
import UsbManager.Gadget.FunctionNames
import UsbManager.Gadget.Renderings
import UsbManager.Lib.Base64
import UsbManager.Accessory.Base64
import UsbManager.Host.IsoCallback
import UsbManager.Lib.Json
import UsbManager.Descriptor.Json
import UsbManager.Service.Functions
import UsbManager.Lib.History
import UsbManager.Rights.Cleanup
import UsbManager.Host.Transfers
import UsbManager.Service.Grants
import UsbManager.Service.Operations
import UsbManager.Service.Machine
import UsbManager.Service.Openers
import UsbManager.Service.Mediation
import UsbManager.Service.Unload
import UsbManager.Accessory.Json
import UsbManager.Dialog.Params
import UsbManager.Lib.Simulation
import UsbManager.Dialog.Protocol
import UsbManager.Dialog.Sessions
import UsbManager.Dialog.Consent
import UsbManager.Gadget.SwitchWindow
import UsbManager.Gadget.Requests
import UsbManager.Gadget.WindowSteps
import UsbManager.Gadget.WindowTidy
import UsbManager.Gadget.WindowSafe
import UsbManager.Gadget.WindowRuns
import UsbManager.Service.Notifications
import UsbManager.Lib.Napi
import UsbManager.Js.Bridge
import UsbManager.Js.RoundTrip
import UsbManager.Js.Acceptance
import UsbManager.Js.Accessories
import UsbManager.Dialog.Allow
import UsbManager.Dialog.Agreement
