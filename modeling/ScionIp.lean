import ScionIp.Lib.Bits
import ScionIp.Lib.ByteOrder
import ScionIp.Lib.Memory
import ScionIp.Lib.Transition
import ScionIp.Lib.Digits
import ScionIp.Lib.Cut
import ScionIp.Lib.Raises
import ScionIp.Lib.OrderedTable
import ScionIp.Lib.Effects
import ScionIp.Lib.InternetChecksum
import ScionIp.Lib.WriteOnce
import ScionIp.Lib.Walk
import ScionIp.Python.IpAddress
import ScionIp.Python.Int
import ScionIp.Python.IpText
import ScionIp.Ebpf.ScionTypes
import ScionIp.Ebpf.KeyFields
import ScionIp.Ebpf.Packet
import ScionIp.Ebpf.Egress
import ScionIp.Ebpf.EgressLayout
import ScionIp.Ebpf.Ingress
import ScionIp.Ebpf.PathService
import ScionIp.Ebpf.EntryMemory
import ScionIp.Ebpf.RoundTrip
import ScionIp.Ebpf.WireFormat
import ScionIp.Ebpf.RoomContents
import ScionIp.Ebpf.Complete
import ScionIp.Ebpf.Underlay
import ScionIp.Ebpf.IngressChecks
import ScionIp.Ebpf.FlowLabel
import ScionIp.Ebpf.MtuCheck
import ScionIp.Ebpf.IntraAs
import ScionIp.Ebpf.PathCache
import ScionIp.Prototype.Mapping
import ScionIp.Ebpf.SourceIdentity
import ScionIp.Prototype.Agreement
import ScionIp.Prototype.Packets
import ScionIp.Prototype.PathCache
import ScionIp.Prototype.Translate
import ScionIp.Prototype.IngressErrors
import ScionIp.Prototype.SourceIdentity
import ScionIp.Prototype.EgressErrors
import ScionIp.Prototype.Checksum
import ScionIp.Prototype.LookupRuns
import ScionIp.Scion2Ip.Hex
import ScionIp.Scion2Ip.HexValue
import ScionIp.Scion2Ip.Asn
import ScionIp.Scion2Ip.AsnText
import ScionIp.Scion2Ip.Convert
import ScionIp.Scion2Ip.Decoders
import ScionIp.Scion2Ip.Addresses
import ScionIp.Vpp.IsdAsn
import ScionIp.Vpp.AsnGrammar
import ScionIp.Vpp.Exceptions
import ScionIp.Vpp.Config
import ScionIp.Vpp.PathManager
import ScionIp.Vpp.Startup
import ScionIp.Vpp.CleanUp
import ScionIp.Vpp.XdpFilter
import ScionIp.Vpp.ScionFrames
import ScionIp.Vpp.IsdRange
import ScionIp.Vpp.ExtensionHeaders
import ScionIp.Vpp.Endpoint
import ScionIp.Vpp.StartupErrors
import ScionIp.Vpp.ConfigErrors
import ScionIp.Vpp.Dereferences
import ScionIp.Scion2Ip.HexPlaces
import ScionIp.Ebpf.UdpCsum
import ScionIp.Bootstrap.Server
import ScionIp.Lib.Network
import ScionIp.Ebpf.Network
import ScionIp.Prototype.Network
import ScionIp.Vpp.Deployment
import ScionIp.Ebpf.Datagram
import ScionIp.Mixed.Network
import ScionIp.Lib.Lines
import ScionIp.Scion2Ip.Commands
import ScionIp.Lib.BoundedTable
import ScionIp.Ebpf.CacheAging
import ScionIp.Bootstrap.Service
import ScionIp.Vpp.FilteredFrames
import ScionIp.Mixed.IsdAsnTexts
import ScionIp.Prototype.FirstAnswer
import ScionIp.Prototype.Delivery
