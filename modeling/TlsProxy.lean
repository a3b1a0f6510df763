import TlsProxy.RangeLoops
import TlsProxy.ConfigTypes
import TlsProxy.ProxyProtocolVersion
import TlsProxy.ConfigCheck
import TlsProxy.CheckedConfig
import TlsProxy.ServerNameRouting
import TlsProxy.ProxyState
import TlsProxy.Reconfigure
import TlsProxy.BackendDial
import TlsProxy.ConnectionHandling
import TlsProxy.ShutdownRace
import TlsProxy.Start
import TlsProxy.CloudflareECH
import TlsProxy.CheckFixpoint
import TlsProxy.CloudflareZoneData
