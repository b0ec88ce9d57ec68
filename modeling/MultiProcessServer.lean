import MultiProcessServer.Jt1078Server.Jt1078Stream
import MultiProcessServer.EndToEnd
import MultiProcessServer.ReceiveLoops
import MultiProcessServer.Core.IpcPktMemory
import MultiProcessServer.Jt1078Util
import MultiProcessServer.PcServer.NullClient
import MultiProcessServer.PcServer.Outage
import MultiProcessServer.WebServer.Resubscription
import MultiProcessServer.WebServer.RtmpFollows
import MultiProcessServer.WebServer.ViewingPeriods
import MultiProcessServer.Jt1078Service.Disconnection
import MultiProcessServer.Jt1078Service.Publication
import MultiProcessServer.Reconnection
import MultiProcessServer.Jt1078Client.RequestStream
import MultiProcessServer.NewWebServer.UpstreamFrames
import MultiProcessServer.NewWebServer.AsyncWrites
import MultiProcessServer.Core.RedisMqServer
import MultiProcessServer.Core.PacketOwnership
import MultiProcessServer.WebServer.StreamFailures
import MultiProcessServer.WebServer.FakeAudio
import MultiProcessServer.WebServer.StreamClock
import MultiProcessServer.PayloadReads
import MultiProcessServer.DeviceIds
import MultiProcessServer.PushBuffers
import MultiProcessServer.SeqIds
import MultiProcessServer.Core.PipeChannel
import MultiProcessServer.WebServer.HaiSiHeader
import MultiProcessServer.WebServer.WorkThread
import MultiProcessServer.WebServer.SrsCallback
import MultiProcessServer.SessionRegistries
import MultiProcessServer.WebServer.EncodeAudio
import MultiProcessServer.Jt1078Server.DecoderBounds
import MultiProcessServer.ForwardServer.SubscriberStreams
import MultiProcessServer.PcServer.ViewerStreams
import MultiProcessServer.Jt1078Service.Halves
import MultiProcessServer.Network.Network
import MultiProcessServer.Network.Subscriptions
import MultiProcessServer.Network.Video
import MultiProcessServer.Network.Delivery
import MultiProcessServer.Network.Cars
import MultiProcessServer.NewWebServer.WebSocketStreams
import MultiProcessServer.WebServer.RtmpStreams
import MultiProcessServer.WebServer.WorkProcess
import MultiProcessServer.Network.WebSubscriptions
import MultiProcessServer.Network.WebCars
import MultiProcessServer.WebServer.StreamFrames
