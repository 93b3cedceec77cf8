import SocketLoop.Socket.Config
import SocketLoop.Socket.Subscription

/-!
# Sockets

The state of one open socket. Identity, descriptor, registration, family, class and configuration
are fixed when it is opened; the rest changes with its operations and with the readiness reported
for it.
-/

namespace SocketLoop

/-- An open socket. -/
structure Socket where
  id : SocketId
  fd : Fd
  /-- The registration that every open socket has with the reactor. -/
  token : Token
  family : AddressFamily
  cls : SocketClass
  config : SocketConfig
  /-- Whether datagrams carry their local address. -/
  packetInfo : Bool
  /-- What the last operation reported; nothing if it succeeded. -/
  lastError : Option SocketError
  subscription : Subscription
  connect : ConnectState
  receiveLimit : ReceiveLimit
  /-- The receives since the last readiness report. -/
  receiveCount : Nat
  deriving DecidableEq, Repr

namespace Socket

/-- What the socket tells about itself. -/
def info (s : Socket) : SocketInfo where
  id := s.id
  family := s.family
  cls := s.cls
  packetInfo := s.packetInfo
  enabled := s.subscription.enabled
  connect := s.connect

/-- What is seen of the socket after a step. -/
def status (s : Socket) : Status where
  lastError := s.lastError
  enabled := s.subscription.enabled
  connect := s.connect

end Socket

/-- The name of a family in descriptions. -/
def AddressFamily.title : AddressFamily → String
  | .ipv4 => "Ipv4"
  | .ipv6 => "Ipv6"

/-- The name of a class in descriptions. -/
def SocketClass.title : SocketClass → String
  | .stream => "Stream"
  | .datagram => "Datagram"

/-- A socket in one line, for people who look for faults. -/
def SocketInfo.describe (info : SocketInfo) : String :=
  s!"Socket \x7b id: {info.id}, family: {info.family.title}, class: {info.cls.title}, " ++
    s!"events: {info.enabled.describe}, connect: {info.connect.describe} \x7d"

end SocketLoop
