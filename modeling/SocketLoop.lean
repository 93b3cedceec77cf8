import SocketLoop.Address.Printer
import SocketLoop.Address.Parser
import SocketLoop.Event.Network
import SocketLoop.Run.Transcript
import SocketLoop.Proofs.Text.Quoted
import SocketLoop.Proofs.Address.Reading
import SocketLoop.Proofs.Address.RoundTrip
import SocketLoop.Proofs.Address.Native
import SocketLoop.Proofs.Address.Canonical
import SocketLoop.Proofs.Event.Backend
import SocketLoop.Proofs.Kernel.Destination
import SocketLoop.Proofs.Socket.Source
import SocketLoop.Proofs.Run.Freed
import SocketLoop.Proofs.Run.Dispatch
import SocketLoop.Proofs.Run.Sound
import SocketLoop.Proofs.Run.Registered
import SocketLoop.Proofs.Run.Descriptors
import SocketLoop.Proofs.Run.Rounds
import SocketLoop.Proofs.Run.Wake
import SocketLoop.Proofs.Run.Receive
import SocketLoop.Proofs.Run.Delivery
import SocketLoop.Proofs.Run.Contract
import SocketLoop.Proofs.Run.Tokens
import SocketLoop.Proofs.Run.Callbacks
import SocketLoop.Proofs.Run.PacketInfo
import SocketLoop.Proofs.Run.Reporting
import SocketLoop.Proofs.Run.Isolation
import SocketLoop.Proofs.Run.Making
import SocketLoop.Proofs.Run.Wait
import SocketLoop.Proofs.Run.Modes
