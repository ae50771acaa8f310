import Dnscat2.Wire
import Dnscat2.Packet
import Dnscat2.PacketRoundTrip
import Dnscat2.Encryptor
import Dnscat2.CommandPacket
import Dnscat2.CommandRoundTrip
import Dnscat2.Driver
import Dnscat2.CommandDriver
import Dnscat2.CommandStream
import Dnscat2.Session
import Dnscat2.SessionSpec
import Dnscat2.Run
import Dnscat2.Accounting
import Dnscat2.Delivery
import Dnscat2.Steps
import Dnscat2.Handshake
import Dnscat2.Replay
import Dnscat2.StaleAck
import Dnscat2.Boundaries
import Dnscat2.Ping
import Dnscat2.Controller
import Dnscat2.DnsProtocol
import Dnscat2.DnsDriver
import Dnscat2.DnsRecords
import Dnscat2.Routing
import Dnscat2.CommandHandlers
import Dnscat2.Locking
import Dnscat2.DnsTunnel
import Dnscat2.CommandChannel
