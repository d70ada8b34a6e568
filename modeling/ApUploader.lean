import ApUploader.Logic.Proc
import ApUploader.Errors
import ApUploader.Logic.LittleEndian
import ApUploader.Protocol.Messages
import ApUploader.Connection.Exchange
import ApUploader.Connection.Frame
import ApUploader.Connection.Recovery
import ApUploader.Connection.ReplyLength
import ApUploader.Connection.Retransmission
import ApUploader.Connection.Termination
import ApUploader.Firmware
import ApUploader.Mock.Bootloader
import ApUploader.Mock.Respond
import ApUploader.Protocol.RoundTrip
import ApUploader.Uploader.EndToEnd
import ApUploader.Uploader.LostAcknowledgment
import ApUploader.Uploader.Verified
import ApUploader.Connection.Attribution
import ApUploader.Protocol.Chunking
import ApUploader.Protocol.Resync
import ApUploader.Protocol.Closing
import ApUploader.Protocol.Gating
import ApUploader.Protocol.Freshness
import ApUploader.Protocol.Reset
import ApUploader.Protocol.Desync
import ApUploader.Protocol.Accounting
import ApUploader.Mock.Stream
import ApUploader.Mock.Agreement
import ApUploader.Uploader.Compatibility
import ApUploader.Uploader.Retry
import ApUploader.Uploader.Finality
import ApUploader.Uploader.Unannounced
import ApUploader.Network.Isolation
import ApUploader.Network.Routing
import ApUploader.Network.Departures
import ApUploader.Transport.ReadChunks
import ApUploader.Transport.SerialOutput
import ApUploader.Transport.Listener
import ApUploader.Cli.RichUi
import ApUploader.Uploader.TaskGroup
import ApUploader.Uploader.Grammar
import ApUploader.Mavlink.Chunking
import ApUploader.Mavlink.RoundTrip
import ApUploader.Mavlink.Session
import ApUploader.Logic.ReflectedCrc
import ApUploader.Checksum
import ApUploader.Uploader.Corruption
import ApUploader.Logic.CircularBuffer
import ApUploader.Mock.FlashWrite
import ApUploader.Mock.SimulatedLoss
import ApUploader.Firmware.Loading
import ApUploader.Uploader.SocketStart
import ApUploader.Connection.MainFirmware
import ApUploader.Connection.Heartbeat
import ApUploader.Connection.Observer
import ApUploader.Connection.Locking
import ApUploader.Connection.Listening
import ApUploader.Connection.Probe
import ApUploader.Uploader.Target
import ApUploader.Scanners.Udp
import ApUploader.Scanners.Serial
import ApUploader.Scanners.Appearances
import ApUploader.Scanners.Heartbeats
import ApUploader.Protocol.SinglePass
import ApUploader.Cli.Main
import ApUploader.Transport.InMemory
import ApUploader.Transport.Delivery
