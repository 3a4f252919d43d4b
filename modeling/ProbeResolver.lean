import ProbeResolver.Errors
import ProbeResolver.DNSMessage
import ProbeResolver.EncodeRequest
import ProbeResolver.DecodeResponse
import ProbeResolver.GenericResolver
import ProbeResolver.TcpTlsMachine
import ProbeResolver.TcpTlsWaiters
import ProbeResolver.TcpTlsExclusion
import ProbeResolver.TcpTlsAttribution
import ProbeResolver.TcpTlsConnections
import ProbeResolver.TcpTlsProgress
import ProbeResolver.TcpTlsReplies
import ProbeResolver.ParseIP
import ProbeResolver.Idna
import ProbeResolver.ResolverChain
import ProbeResolver.Ipv4Text
import ProbeResolver.DnsOverHttps
import ProbeResolver.SystemResolver
import ProbeResolver.DnsOverTls
import ProbeResolver.Mlablocate
import ProbeResolver.Telegram
import ProbeResolver.Database
