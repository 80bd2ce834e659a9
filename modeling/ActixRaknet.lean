import ActixRaknet.Library.ByteOrder
import ActixRaknet.Library.Fallible
import ActixRaknet.Library.Run
import ActixRaknet.Library.Simulation
import ActixRaknet.Library.HashMap
import ActixRaknet.Library.Ranges
import ActixRaknet.Library.Places
import ActixRaknet.Library.Context
import ActixRaknet.Basic
import ActixRaknet.Codec.Reader
import ActixRaknet.Codec.Scan
import ActixRaknet.Codec.Writer
import ActixRaknet.Packets.Basic
import ActixRaknet.Packets.Control
import ActixRaknet.Packets.Ack
import ActixRaknet.Packets.Address
import ActixRaknet.Packets.RoundTrip
import ActixRaknet.Packets.Frame
import ActixRaknet.Packets.Wire
import ActixRaknet.Packets.Decoding
import ActixRaknet.Packets.Magic
import ActixRaknet.Queue.AckQueue
import ActixRaknet.Queue.PacketQueue
import ActixRaknet.Queue.Sets
import ActixRaknet.Queue.Timers
import ActixRaknet.Queue.Emission
import ActixRaknet.Queue.Keeping
import ActixRaknet.Queue.Numbers
import ActixRaknet.Queue.Feedback
import ActixRaknet.Queue.SplitPacket
import ActixRaknet.Queue.Reuse
import ActixRaknet.Queue.ReceivedQueue
import ActixRaknet.Queue.Admission
import ActixRaknet.Queue.Release
import ActixRaknet.Queue.Reassembly
import ActixRaknet.Session.Basic
import ActixRaknet.Session.Receive
import ActixRaknet.Session.Intake
import ActixRaknet.Session.Safety
import ActixRaknet.Session.Send
import ActixRaknet.Session.Stream
import ActixRaknet.Session.Fragments
import ActixRaknet.Session.Duplicates
import ActixRaknet.Session.Bounds
import ActixRaknet.Session.Messages
import ActixRaknet.Session.Asides
import ActixRaknet.Session.Headers
import ActixRaknet.Session.Counters
import ActixRaknet.Session.Records
import ActixRaknet.Session.Listening
import ActixRaknet.Session.Recital
import ActixRaknet.Session.Goodbyes
import ActixRaknet.Udp.Actor
import ActixRaknet.EndToEnd.Custody
import ActixRaknet.EndToEnd.Arrivals
import ActixRaknet.EndToEnd.Link
import ActixRaknet.EndToEnd.Delivery
import ActixRaknet.EndToEnd.Ledger
import ActixRaknet.EndToEnd.Exchange
import ActixRaknet.EndToEnd.Recovery
import ActixRaknet.EndToEnd.Farewell
import ActixRaknet.EndToEnd.KeepAlive
import ActixRaknet.EndToEnd.Sockets
import ActixRaknet.Client.Mediator
import ActixRaknet.Client.Basic
import ActixRaknet.Client.Effects
import ActixRaknet.Client.Sessions
import ActixRaknet.Client.Accepting
import ActixRaknet.Client.Safety
import ActixRaknet.Client.Events
import ActixRaknet.Client.Attempts
import ActixRaknet.Client.Probing
import ActixRaknet.Client.Ping
import ActixRaknet.Server.Worker
import ActixRaknet.Server.Conn
import ActixRaknet.Server.Basic
import ActixRaknet.Server.Registry
import ActixRaknet.Server.Events
import ActixRaknet.Server.Isolation
import ActixRaknet.Server.Sessions
import ActixRaknet.Server.Accepting
import ActixRaknet.Handshake.Datagrams
import ActixRaknet.Handshake.Basic
import ActixRaknet.Handshake.Answers
import ActixRaknet.Handshake.PathMtu
import ActixRaknet.Handshake.Arithmetic
import ActixRaknet.Handshake.Magic
import ActixRaknet.Handshake.Separation
import ActixRaknet.Handshake.Pings
import ActixRaknet.Pair.Basic
import ActixRaknet.Pair.Refinement
import ActixRaknet.Pair.Hosting
import ActixRaknet.Pair.Delivery
import ActixRaknet.Pair.Transparency
import ActixRaknet.Pair.Origins
import ActixRaknet.Pair.Timestamps
