import OpenNetDeck.Lib.Bytes
import OpenNetDeck.Lib.ChunkedScan
import OpenNetDeck.Lib.Checked
import OpenNetDeck.Lib.Utf8
import OpenNetDeck.Lib.KeyedLog
import OpenNetDeck.Lib.Transition
import OpenNetDeck.Lib.Pipe
import OpenNetDeck.Lib.Mutex
import OpenNetDeck.Lib.Output
import OpenNetDeck.Lib.Radix
import OpenNetDeck.Protocol.Cora
import OpenNetDeck.Protocol.Codec
import OpenNetDeck.Protocol.Models
import OpenNetDeck.Protocol.Reports
import OpenNetDeck.Protocol.Device2Info
import OpenNetDeck.Protocol.Keepalive
import OpenNetDeck.Protocol.Queries
import OpenNetDeck.Server.ReceiveLoop
import OpenNetDeck.Server.DrainLoop
import OpenNetDeck.Server.Usb.Device
import OpenNetDeck.Server.Timeout
import OpenNetDeck.Server.Replies
import OpenNetDeck.Server.Dock
import OpenNetDeck.Server.SlotOverride
import OpenNetDeck.Server.ConnectionIds
import OpenNetDeck.Server.Sticky
import OpenNetDeck.Server.Allocation
import OpenNetDeck.Server.FrameHandler
import OpenNetDeck.Server.SecondaryHandler
import OpenNetDeck.Server.HotplugClient
import OpenNetDeck.Server.Hotplug
import OpenNetDeck.Server.DeviceCalls
import OpenNetDeck.Server.InputPath
import OpenNetDeck.Server.Outgoing
import OpenNetDeck.Server.RequestReply
import OpenNetDeck.Server.KeepaliveLoop
import OpenNetDeck.Server.SlowClient
import OpenNetDeck.Server.SnapshotRace
import OpenNetDeck.Server.DirectMode
import OpenNetDeck.Server.Usb.Watcher
import OpenNetDeck.Server.Usb.Ticks
import OpenNetDeck.Server.Usb.Presence
import OpenNetDeck.Server.Usb.Signals
import OpenNetDeck.Server.Usb.WriteLock
import OpenNetDeck.Server.Usb.Endpoints
import OpenNetDeck.Server.Usb.Images
import OpenNetDeck.Server.Usb.Recovery
import OpenNetDeck.Server.TwoPorts
import OpenNetDeck.Server.Directory
import OpenNetDeck.Server.CommandLine
import OpenNetDeck.Server.DirectDeck
import OpenNetDeck.Embedded.Hub
import OpenNetDeck.Embedded.Target
import OpenNetDeck.Embedded.ReceiveLoop
import OpenNetDeck.Embedded.Safety
import OpenNetDeck.Embedded.Refinement
import OpenNetDeck.Embedded.Sessions
import OpenNetDeck.Embedded.Surface
import OpenNetDeck.Embedded.Dials
import OpenNetDeck.Embedded.Bridge
import OpenNetDeck.Embedded.Replies
import OpenNetDeck.Embedded.StringReports
import OpenNetDeck.Embedded.SessionRule
import OpenNetDeck.Embedded.BridgeSession
import OpenNetDeck.Embedded.SurfaceRuns
import OpenNetDeck.Embedded.HubSession
import OpenNetDeck.Embedded.HubDock
