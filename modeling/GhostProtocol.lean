import GhostProtocol.Foundation.Bytes
import GhostProtocol.Foundation.Run
import GhostProtocol.Foundation.Table
import GhostProtocol.Foundation.Decoder
import GhostProtocol.Foundation.Text
import GhostProtocol.Foundation.Stream
import GhostProtocol.Foundation.AsyncTask
import GhostProtocol.Foundation.Pool
import GhostProtocol.Foundation.Prediction
import GhostProtocol.Foundation.Select
import GhostProtocol.Foundation.HalfClose
import GhostProtocol.Foundation.Aead
import GhostProtocol.Foundation.ChaCha20Poly1305
import GhostProtocol.Foundation.HkdfSha256
import GhostProtocol.Common.Address
import GhostProtocol.Common.Frame
import GhostProtocol.Common.Config
import GhostProtocol.Crypto.Cipher
import GhostProtocol.Common.Error
import GhostProtocol.Relay.Receive
import GhostProtocol.Relay.Send
import GhostProtocol.Relay.Frames
import GhostProtocol.Relay.Outline
import GhostProtocol.Client.UserId
import GhostProtocol.Client.Socks5
import GhostProtocol.Client.Answers
import GhostProtocol.Client.Disguise
import GhostProtocol.Client.Listener
import GhostProtocol.Client.Tunnel
import GhostProtocol.Server.Handler
import GhostProtocol.Server.Listener
import GhostProtocol.Server.Reality
import GhostProtocol.Server.AccessControl
import GhostProtocol.Crypto.Standard
import GhostProtocol.Session.Delivery
import GhostProtocol.Session.Disguise
import GhostProtocol.Session.EndToEnd
import GhostProtocol.Session.Outline
import GhostProtocol.Session.UserCheck
import GhostProtocol.Session.HalfClose
import GhostProtocol.Session.Integrity
import GhostProtocol.Session.RealityAuth
import GhostProtocol.Tun.Socks5
import GhostProtocol.Tun.Replies
import GhostProtocol.Tun.Packet
import GhostProtocol.Tun.Session
import GhostProtocol.Tun.Processor
import GhostProtocol.Tun.Headers
import GhostProtocol.Tun.Refusal
import GhostProtocol.Tun.Reopen
import GhostProtocol.Tun.Endpoint
import GhostProtocol.Tun.Channel
import GhostProtocol.Tun.Ordering
import GhostProtocol.Tun.Isolation
import GhostProtocol.Tun.Downstream
import GhostProtocol.Tun.Acknowledge
import GhostProtocol.Foundation.Hex
import GhostProtocol.Reality.Ja4
import GhostProtocol.Session.Pinning
import GhostProtocol.Relay.Forward
import GhostProtocol.Session.FrameOwner
import GhostProtocol.Session.Segmentation
import GhostProtocol.Flutter.Bridge
import GhostProtocol.Flutter.Start
import GhostProtocol.Flutter.Tracking
import GhostProtocol.Flutter.System
import GhostProtocol.Flutter.Teardown
import GhostProtocol.Common.WireFormat
import GhostProtocol.Client.HexText
import GhostProtocol.Foundation.AsyncWrite
import GhostProtocol.Client.Fragment
import GhostProtocol.Common.Stealth
import GhostProtocol.Client.Handshake
import GhostProtocol.Tun.Grammar
import GhostProtocol.Tun.Handshake
import GhostProtocol.Foundation.TaskMap
import GhostProtocol.Session.ReceiveLoops
import GhostProtocol.Session.Ja4Check
import GhostProtocol.Reality.Ja4Identity
import GhostProtocol.Common.Fragmentation
import GhostProtocol.Foundation.Utf8
import GhostProtocol.Reality.Auth
import GhostProtocol.Reality.Exchange
import GhostProtocol.Session.TokenDetection
import GhostProtocol.Session.Recognition
import GhostProtocol.Tun.Shutdown
import GhostProtocol.Tun.Delimit
import GhostProtocol.Flutter.ProxyService
import GhostProtocol.Flutter.Disconnect
import GhostProtocol.Flutter.VpnService
import GhostProtocol.Flutter.Published
import GhostProtocol.Foundation.TomlLine
import GhostProtocol.Deploy.Settings
import GhostProtocol.Foundation.TomlArray
import GhostProtocol.Deploy.Users
import GhostProtocol.Deploy.RewriteUsers
import GhostProtocol.Deploy.InsertUser
import GhostProtocol.Deploy.AddUser
import GhostProtocol.Deploy.KeyRuns
import GhostProtocol.Deploy.Management
import GhostProtocol.Foundation.WriteAll
import GhostProtocol.Client.FragmentedWrite
