import TlsProxy.RangeLoops

/-!
# The proxy configuration document

The YAML configuration of `package proxy`: the `Config` record and the records it
nests, with the fields that `Config.Check` reads or writes, and the mode and header
constants that `Check` compares against.  Pointers that may be `nil` are `Option`s,
`time.Duration` is an `Int` count of nanoseconds, and the unexported fields that
`Check` fills in are kept beside the exported ones they are derived from.

The functions `Check` calls from the Go library, from the operating system, and from
files of the package that are not part of this development (`idnaToASCII`,
`hostAndPath`, `loadCerts`, `openFileLimit`, the `quicIsEnabled` build constant) are
the fields of `Platform`, so every theorem holds for each of their behaviours.
-/

namespace TlsProxy

def modePlaintext : String := "PLAINTEXT"
def modeTCP : String := "TCP"
def modeTLS : String := "TLS"
def modeTLSPassthrough : String := "TLSPASSTHROUGH"
def modeQUIC : String := "QUIC"
def modeHTTP : String := "HTTP"
def modeHTTPS : String := "HTTPS"
def modeLocal : String := "LOCAL"
def modeConsole : String := "CONSOLE"

def validModes : List String :=
  [modeTCP, modeTLS, modeTLSPassthrough, modeQUIC, modeHTTP, modeHTTPS, modeLocal, modeConsole]

def validXFCCFields : List String := ["cert", "chain", "hash", "subject", "uri", "dns"]

def defaultALPNProtos : List String := ["h2", "http/1.1"]

def defaultALPNProtosPlusH3 : List String := ["h3", "h2", "http/1.1"]

/-- `time.Second`, in nanoseconds. -/
def second : Int := 1000000000

/-- A parsed CIDR block, `*net.IPNet`. -/
structure IPNet where
  ip : List UInt8
  mask : List UInt8
  deriving DecidableEq, Repr

/-- The arguments of `rate.NewLimiter(limit, burst)`. -/
structure RateLimiter where
  limit : Int
  burst : Int
  deriving DecidableEq, Repr

structure BWLimit where
  name : String
  deriving DecidableEq, Repr

structure ClientAuth where
  rootCAs : List String
  addClientCertHeader : List String
  deriving DecidableEq, Repr

structure ConfigOIDC where
  name : String
  discoveryURL : String
  authEndpoint : String
  tokenEndpoint : String
  redirectURL : String
  clientID : String
  clientSecret : String
  domain : String
  deriving DecidableEq, Repr

structure ConfigSAML where
  name : String
  ssoURL : String
  entityID : String
  certs : String
  acsURL : String
  domain : String
  deriving DecidableEq, Repr

structure ConfigPasskey where
  name : String
  identityProvider : String
  endpoint : String
  domain : String
  deriving DecidableEq, Repr

structure ConfigPKI where
  name : String
  endpoint : String
  deriving DecidableEq, Repr

structure LocalOIDCClient where
  id : String
  secret : String
  redirectURI : List String
  deriving DecidableEq, Repr

structure LocalOIDCRewriteRule where
  inputClaim : String
  outputClaim : String
  regex : String
  deriving DecidableEq, Repr

structure LocalOIDCServer where
  clients : List LocalOIDCClient
  rewriteRules : List LocalOIDCRewriteRule
  deriving DecidableEq, Repr

structure BackendSSO where
  provider : String
  localOIDCServer : Option LocalOIDCServer
  deriving DecidableEq, Repr

/-- A path override; `proxyProtocolVersionByte` is the unexported `proxyProtocolVersion`
that `Check` parses from `ProxyProtocolVersion`. -/
structure PathOverride where
  paths : List String
  mode : String
  forwardServerName : String
  forwardRootCAs : List String
  forwardTimeout : Int
  proxyProtocolVersion : String
  proxyProtocolVersionByte : UInt8
  deriving DecidableEq, Repr

/-- One backend.  The last four fields are the unexported `allowIPs`, `denyIPs`,
`connLimit` and `proxyProtocolVersion` that `Check` derives from the exported ones. -/
structure Backend where
  serverNames : List String
  clientAuth : Option ClientAuth
  allowIPs : Option (List String)
  denyIPs : Option (List String)
  sso : Option BackendSSO
  alpnProtos : Option (List String)
  backendProto : Option String
  mode : String
  bwLimit : String
  addresses : List String
  forwardRateLimit : Int
  forwardServerName : String
  forwardRootCAs : List String
  forwardTimeout : Int
  pathOverrides : List PathOverride
  proxyProtocolVersion : String
  serverCloseEndsConnection : Option Bool
  clientCloseEndsConnection : Option Bool
  allowIPNets : Option (List IPNet)
  denyIPNets : Option (List IPNet)
  connLimit : Option RateLimiter
  proxyProtocolVersionByte : UInt8
  deriving DecidableEq, Repr

structure Config where
  tlsAddr : String
  enableQUIC : Option Bool
  cacheDir : String
  defaultServerName : String
  backends : List Backend
  maxOpen : Int
  oidcProviders : List ConfigOIDC
  samlProviders : List ConfigSAML
  passkeyProviders : List ConfigPasskey
  pki : List ConfigPKI
  bwLimits : List BWLimit
  deriving DecidableEq, Repr

/-- The calls `Check` makes outside this development.  Errors are their `Error()` text;
`quote` is the `%q` verb of `fmt`, and `hostAndPath` returns the host it extracts. -/
structure Platform where
  userCacheDir : Except String String
  filepathJoin : List String → String
  openFileLimit : Except String Int
  quicIsEnabled : Bool
  idnaToASCII : String → String
  toUpper : String → String
  toLower : String → String
  quote : String → String
  urlParse : String → Except String Unit
  hostAndPath : String → Except String String
  loadCerts : String → Except String Unit
  parseCIDR : String → Except String IPNet
  regexpCompile : String → Except String Unit
  mkdirAll : String → Except String Unit

end TlsProxy
