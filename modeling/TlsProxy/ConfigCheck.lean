import TlsProxy.ProxyProtocolVersion

/-!
# `Config.Check`

`Check` validates a configuration document and fills in its defaults, returning the
first violation it meets as an error whose text names the offending field path.  It is
a sequence of loops: over the OIDC, SAML and passkey providers (building the set of
provider names), a first loop over the backends (normalizing modes), a loop over their
server names (building the `serverNames` and `beKeys` maps), loops over the PKIs and
the bandwidth limits, and a second loop over the backends that reads every map built
before it.  Each loop body is a definition of its own here, in the order of the source,
and `Config.check` chains them as `Check` does.
-/

namespace TlsProxy

variable (env : Platform)

/-- The `%v` rendering of a `[]string`. -/
def formatList (xs : List String) : String :=
  "[" ++ " ".intercalate xs ++ "]"

/-- `CacheDir`, defaulted to a directory under the user's cache directory. -/
def defaultCacheDir (cacheDir : String) : Except String String :=
  if cacheDir ≠ "" then .ok cacheDir
  else
    match env.userCacheDir with
    | .error _ => .error "CacheDir must be set in config"
    | .ok d => .ok (env.filepathJoin [d, "tlsproxy", "letsencrypt"])

/-- `MaxOpen`, defaulted to half the open-file limit less 100. -/
def defaultMaxOpen (maxOpen : Int) : Except String Int :=
  if maxOpen ≠ 0 then .ok maxOpen
  else
    match env.openFileLimit with
    | .error _ => .error "MaxOpen: value must be set"
    | .ok n => .ok (n.tdiv 2 - 100)

/-- The defaults set before the provider loops. -/
def Config.setDefaults (cfg : Config) : Except String Config := do
  let cacheDir ← defaultCacheDir env cfg.cacheDir
  let maxOpen ← defaultMaxOpen env cfg.maxOpen
  let enableQUIC := cfg.enableQUIC.getD env.quicIsEnabled
  failIf (enableQUIC = true ∧ env.quicIsEnabled = false)
    "EnableQUIC: QUIC is not supported in this binary"
  pure { cfg with
    cacheDir
    tlsAddr := if cfg.tlsAddr = "" then ":10443" else cfg.tlsAddr
    maxOpen
    enableQUIC := some enableQUIC
    defaultServerName := env.idnaToASCII cfg.defaultServerName }

/-- `if seen[name] { return ... }; seen[name] = true`, which opens the provider, PKI
and bandwidth-limit loops; `duplicate` is the error. -/
def registerName (duplicate name : String) (seen : List String) : Except String (List String) :=
  if name ∈ seen then .error duplicate else .ok (seen ++ [name])

/-- The `Domain` test of the provider loops: normalize the domain, then require the host
of `url`, the field `urlField` of the provider at `field`, to end with it. -/
def checkDomain (field urlField url domain : String) : Except String String :=
  if domain = "" then .ok domain
  else
    let domain := env.idnaToASCII domain
    match env.hostAndPath url with
    | .error e => .error (field ++ "." ++ urlField ++ " " ++ env.quote url ++ ": " ++ e)
    | .ok host =>
      if host.endsWith domain then .ok domain
      else .error (field ++ ".Domain " ++ env.quote domain ++ " must be part of " ++ urlField ++
        " (" ++ host ++ ")")

/-- `if s != "" { if _, err := url.Parse(s); err != nil { return ... } }`. -/
def parseURLIfSet (field url : String) : Except String Unit :=
  if url ≠ "" then wrapError field (env.urlParse url) else .ok ()

/-- The endpoint and client checks of an OIDC provider. -/
def validateOIDC (field : String) (oi : ConfigOIDC) : Except String Unit := do
  failIf ((oi.authEndpoint = "" ∨ oi.tokenEndpoint = "") ∧ oi.discoveryURL = "")
    (field ++ " AuthEndpoint and TokenEndpoint must be set unless DiscoveryURL is set")
  parseURLIfSet env (field ++ ".DiscoveryURL") oi.discoveryURL
  parseURLIfSet env (field ++ ".AuthEndpoint") oi.authEndpoint
  parseURLIfSet env (field ++ ".TokenEndpoint") oi.tokenEndpoint
  failIf (oi.redirectURL = "") (field ++ ".RedirectURL must be set")
  wrapError (field ++ ".RedirectURL") (env.urlParse oi.redirectURL)
  failIf (oi.clientID = "") (field ++ ".ClientID must be set")
  failIf (oi.clientSecret = "") (field ++ ".ClientSecret must be set")

def checkOIDC (i : Nat) (oi : ConfigOIDC) (names : List String) :
    Except String (ConfigOIDC × List String) := do
  let field := indexed "oidc" i
  let names ← registerName (field ++ ".Name: duplicate provider name " ++ env.quote oi.name)
    oi.name names
  validateOIDC env field oi
  let domain ← checkDomain env field "RedirectURL" oi.redirectURL oi.domain
  pure ({ oi with domain }, names)

def validateSAML (field : String) (s : ConfigSAML) : Except String Unit := do
  failIf (s.ssoURL = "") (field ++ ".SSOURL must be set")
  failIf (s.entityID = "") (field ++ ".EntityID must be set")
  failIf (s.certs = "") (field ++ ".Certs must be set")
  failIf (s.acsURL = "") (field ++ ".ACSURL must be set")

def checkSAML (i : Nat) (s : ConfigSAML) (names : List String) :
    Except String (ConfigSAML × List String) := do
  let field := indexed "saml" i
  let names ← registerName (field ++ ".Name: duplicate provider name " ++ env.quote s.name)
    s.name names
  validateSAML field s
  let domain ← checkDomain env field "ACSURL" s.acsURL s.domain
  pure ({ s with domain }, names)

/-- The passkey checks; `names` already holds the passkey's own name. -/
def validatePasskey (field : String) (names : List String) (pp : ConfigPasskey) :
    Except String Unit := do
  failIf (pp.endpoint = "") (field ++ ".Endpoint must be set")
  failIf (pp.identityProvider = "") (field ++ ".IdentityProvider must be set")
  failIf (pp.identityProvider ∉ names)
    (field ++ ".IdentityProvider has unexpected value " ++ env.quote pp.identityProvider)

def checkPasskey (i : Nat) (pp : ConfigPasskey) (names : List String) :
    Except String (ConfigPasskey × List String) := do
  let field := indexed "passkey" i
  let names ← registerName (field ++ ".Name: duplicate provider name " ++ env.quote pp.name)
    pp.name names
  validatePasskey env field names pp
  let domain ← checkDomain env field "Endpoint" pp.endpoint pp.domain
  pure ({ pp with domain }, names)

/-- The mode the first backend loop gives a backend whose `Mode` is `mode`. -/
def normalizeMode (mode : String) : String :=
  let mode := env.toUpper mode
  if mode = "" ∨ mode = modePlaintext then modeTCP else mode

/-- The body of the first backend loop: the mode and its defaults.  `ALPNProtos` and,
in mode QUIC, the two `CloseEndsConnection` flags are set only where they are `nil`. -/
def checkMode (enableQUIC : Bool) (i : Nat) (be : Backend) : Except String Backend := do
  let field := indexed "backend" i
  let mode := normalizeMode env be.mode
  failIf (mode ∉ validModes)
    (field ++ ".Mode: value " ++ env.quote mode ++ " must be one of " ++ formatList validModes)
  failIf (mode = modeTLSPassthrough ∧ be.clientAuth ≠ none)
    (field ++ ".ClientAuth: client auth is not compatible with TLS Passthrough")
  let alpnDefault :=
    if enableQUIC ∧ mode ∈ [modeHTTP, modeHTTPS, modeQUIC, modeLocal, modeConsole]
    then defaultALPNProtosPlusH3 else defaultALPNProtos
  failIf (be.backendProto ≠ none ∧ mode ≠ modeHTTP ∧ mode ≠ modeHTTPS)
    (field ++ ".BackendProto: field is not valid in mode " ++ mode)
  let quicDefault (flag : Option Bool) := if mode = modeQUIC then some (flag.getD false) else flag
  pure { be with
    mode
    alpnProtos := some (be.alpnProtos.getD alpnDefault)
    serverCloseEndsConnection := quicDefault be.serverCloseEndsConnection
    clientCloseEndsConnection := quicDefault be.clientCloseEndsConnection }

/-- The maps `serverNames` (server name to the first backend listing it) and `beKeys`
(the server name and ALPN protocol pairs seen) of the server-name loop. -/
structure NameTables where
  serverNames : List (String × Backend)
  beKeys : List (String × String)

/-- The loop over `*be.ALPNProtos` for the server name `sn`. -/
def registerKeys (field sn : String) :
    List String → List (String × String) → Except String (List (String × String))
  | [], keys => .ok keys
  | proto :: protos, keys =>
    if (sn, proto) ∈ keys then
      .error (field ++ ".ServerNames: duplicate server name " ++ env.quote sn ++ " alpnProto " ++
        env.quote proto ++ " combination")
    else registerKeys field sn protos (keys ++ [(sn, proto)])

/-- `if serverNames[sn] == nil { serverNames[sn] = be } else if len(*be.ALPNProtos) == 0
{ return ... }` for the backend `be` at `field`. -/
def recordServerName (field sn : String) (be : Backend) (alpnProtos : List String)
    (serverNames : List (String × Backend)) : Except String (List (String × Backend)) :=
  if serverNames.lookup sn = none then .ok (serverNames ++ [(sn, be)])
  else if alpnProtos = [] then
    .error (field ++ ".ServerNames: duplicate server name " ++ env.quote sn)
  else .ok serverNames

/-- One server name of backend `be`, the backend at index `i`.  The first loop has set
every `ALPNProtos`, so `*be.ALPNProtos` is `be.alpnProtos.getD []`. -/
def registerServerName (be : Backend) (i _ : Nat) (sn : String) (tables : NameTables) :
    Except String (String × NameTables) := do
  let field := indexed "backend" i
  let sn := env.idnaToASCII sn
  let alpnProtos := be.alpnProtos.getD []
  let serverNames ← recordServerName env field sn be alpnProtos tables.serverNames
  let beKeys ← registerKeys env field sn alpnProtos tables.beKeys
  pure (sn, { serverNames, beKeys })

/-- The body of the server-name loop: each name is normalized in place. -/
def registerServerNames (i : Nat) (be : Backend) (tables : NameTables) :
    Except String (Backend × NameTables) := do
  let (serverNames, tables) ← rangeLoop (registerServerName env be i) 0 be.serverNames tables
  pure ({ be with serverNames }, tables)

/-- The `Endpoint` test of the PKI loop: the endpoint's host must be a server name, and
the first backend that listed it must be in mode LOCAL or CONSOLE. -/
def checkPKIEndpoint (serverNames : List (String × Backend)) (field endpoint : String) :
    Except String Unit :=
  if endpoint = "" then .ok ()
  else do
    let source := field ++ ".Endpoint " ++ env.quote endpoint
    let host ← wrapError source (env.hostAndPath endpoint)
    match serverNames.lookup host with
    | none => throw (source ++ ": backend not found")
    | some be =>
      let mode := env.toUpper be.mode
      failIf (mode ≠ modeLocal ∧ mode ≠ modeConsole)
        (source ++ ": backend must have mode " ++ modeLocal ++ " or " ++ modeConsole ++
          ", found " ++ mode)

def checkPKI (serverNames : List (String × Backend)) (i : Nat) (p : ConfigPKI)
    (pkis : List String) : Except String (ConfigPKI × List String) := do
  let field := indexed "pki" i
  let pkis ← registerName (field ++ ".Name: duplicate name " ++ env.quote p.name) p.name pkis
  checkPKIEndpoint env serverNames field p.endpoint
  pure (p, pkis)

def checkBWLimit (i : Nat) (l : BWLimit) (names : List String) :
    Except String (BWLimit × List String) := do
  let names ← registerName (indexed "bwLimit" i ++ ".Name: duplicate name " ++ env.quote l.name)
    l.name names
  pure (l, names)

/-- The loops over `RootCAs` and `ForwardRootCAs` at `field`: the name of a PKI is
skipped, anything else must load as certificates. -/
def loadRootCAs (pkis : List String) (field : String) (names : List String) :
    Except String Unit :=
  rangeCheck (fun j n => if n ∈ pkis then .ok () else wrapError (indexed field j) (env.loadCerts n))
    0 names

/-- The loops over `AllowIPs` and `DenyIPs` at `field`; `current` is the unexported list
the loop overwrites, kept when the exported list is `nil`. -/
def parseIPs (field : String) (cidrs : Option (List String)) (current : Option (List IPNet)) :
    Except String (Option (List IPNet)) :=
  match cidrs with
  | none => .ok current
  | some cidrs =>
    some <$> rangeMap (fun j c => wrapError (indexed field j) (env.parseCIDR c)) 0 cidrs

def checkClientAuth (pkis : List String) (field : String) :
    Option ClientAuth → Except String Unit
  | none => .ok ()
  | some ca => do
    loadRootCAs env pkis (field ++ ".ClientAuth.RootCAs") ca.rootCAs
    rangeCheck (fun _ f => failIf (env.toLower f ∉ validXFCCFields)
      (field ++ ".ClientAuth.AddClientCertHeader: invalid field " ++ env.quote f ++
        ", valid values are " ++ formatList validXFCCFields)) 0 ca.addClientCertHeader

def checkLocalOIDCClient (field : String) (j : Nat) (client : LocalOIDCClient) :
    Except String Unit := do
  let field := indexed (field ++ ".SSO.LocalOIDCServer.Clients") j
  failIf (client.id = "") (field ++ ".ID must be set")
  failIf (client.secret = "") (field ++ ".Secret must be set")
  failIf (client.redirectURI = []) (field ++ ".RedirectURI must be set")

def checkRewriteRule (field : String) (j : Nat) (rr : LocalOIDCRewriteRule) :
    Except String Unit := do
  let field := indexed (field ++ ".SSO.LocalOIDCServer.RewriteRules") j
  failIf (rr.inputClaim = "") (field ++ ".InputClaim must be set")
  failIf (rr.outputClaim = "") (field ++ ".OutputClaim must be set")
  failIf (rr.regex = "") (field ++ ".Regex must be set")
  wrapError (field ++ ".Regex") (env.regexpCompile rr.regex)

def checkSSO (identityProviders : List String) (field : String) :
    Option BackendSSO → Except String Unit
  | none => .ok ()
  | some sso => do
    failIf (sso.provider ∉ identityProviders)
      (field ++ ".SSO.Provider: unknown provider " ++ env.quote sso.provider)
    match sso.localOIDCServer with
    | none => pure ()
    | some server =>
      rangeCheck (checkLocalOIDCClient field) 0 server.clients
      rangeCheck (checkRewriteRule env field) 0 server.rewriteRules

/-- A duration left at zero defaults to 30 seconds. -/
def defaultTimeout (timeout : Int) : Int :=
  if timeout = 0 then 30 * second else timeout

/-- The body of the loop over `be.PathOverrides`, for the backend `be` at `field`. -/
def checkPathOverride (pkis : List String) (be : Backend) (field : String) (j : Nat)
    (po : PathOverride) : Except String PathOverride := do
  let field := indexed (field ++ ".PathOverrides") j
  failIf (po.paths = []) (field ++ ".Paths: cannot be empty")
  rangeCheck
    (fun k n => failIf (¬n.startsWith "/") (indexed (field ++ ".Paths") k ++ ": must start with /"))
    0 po.paths
  let po := { po with mode := env.toUpper (if po.mode = "" then be.mode else po.mode) }
  failIf (po.mode ≠ modeHTTP ∧ po.mode ≠ modeHTTPS)
    (field ++ ".Mode: must be either " ++ modeHTTP ++ " or " ++ modeHTTPS)
  loadRootCAs env pkis (field ++ ".ForwardRootCAs") po.forwardRootCAs
  let po := { po with
    forwardServerName := env.idnaToASCII po.forwardServerName
    forwardTimeout := defaultTimeout po.forwardTimeout }
  let ver ← wrapError (field ++ ".ProxyProtocolVersion")
    (validateProxyProtoVersion env.quote po.proxyProtocolVersion)
  pure { po with proxyProtocolVersionByte := ver }

/-- The body of the second backend loop. -/
def checkBackend (pkis bwLimits identityProviders : List String) (i : Nat) (be : Backend) :
    Except String Backend := do
  let field := indexed "backend" i
  failIf (be.serverNames = [])
    (field ++ ".ServerNames: backend must have at least one server name")
  failIf (be.addresses = [] ∧ be.mode ≠ modeConsole ∧ be.mode ≠ modeHTTP ∧ be.mode ≠ modeHTTPS ∧
      be.mode ≠ modeLocal)
    (field ++ ".Addresses: backend must have at least one address")
  failIf (be.addresses ≠ [] ∧ (be.mode = modeConsole ∨ be.mode = modeLocal))
    (field ++ ".Addresses: Addresses should be empty when Mode is CONSOLE or LOCAL")
  failIf (be.bwLimit ≠ "" ∧ be.bwLimit ∉ bwLimits)
    (field ++ ".BWLimit: undefined name " ++ env.quote be.bwLimit)
  checkClientAuth env pkis field be.clientAuth
  checkSSO env identityProviders field be.sso
  loadRootCAs env pkis (field ++ ".ForwardRootCAs") be.forwardRootCAs
  let allowIPNets ← parseIPs env (field ++ ".AllowIPs") be.allowIPs be.allowIPNets
  let denyIPNets ← parseIPs env (field ++ ".DenyIPs") be.denyIPs be.denyIPNets
  let forwardRateLimit := if be.forwardRateLimit = 0 then 5 else be.forwardRateLimit
  let be := { be with
    forwardTimeout := defaultTimeout be.forwardTimeout
    allowIPNets
    denyIPNets
    forwardServerName := env.idnaToASCII be.forwardServerName
    forwardRateLimit
    connLimit := some ⟨forwardRateLimit, forwardRateLimit⟩ }
  let ver ← wrapError (field ++ ".ProxyProtocolVersion")
    (validateProxyProtoVersion env.quote be.proxyProtocolVersion)
  failIf (be.pathOverrides ≠ [] ∧ be.mode ≠ modeHTTP ∧ be.mode ≠ modeHTTPS)
    (field ++ ".PathOverrides is only valid in " ++ modeHTTP ++ " or " ++ modeHTTPS ++ " mode")
  let pathOverrides ← rangeMap (checkPathOverride env pkis be field) 0 be.pathOverrides
  pure { be with proxyProtocolVersionByte := ver, pathOverrides }

/-- `Config.Check`: the checked configuration, or the first error. -/
def Config.check (cfg : Config) : Except String Config := do
  let cfg ← cfg.setDefaults env
  let (oidcProviders, names) ← rangeLoop (checkOIDC env) 0 cfg.oidcProviders []
  let (samlProviders, names) ← rangeLoop (checkSAML env) 0 cfg.samlProviders names
  let (passkeyProviders, names) ← rangeLoop (checkPasskey env) 0 cfg.passkeyProviders names
  let backends ← rangeMap (checkMode env (cfg.enableQUIC = some true)) 0 cfg.backends
  let (backends, tables) ← rangeLoop (registerServerNames env) 0 backends ⟨[], []⟩
  let (pki, pkis) ← rangeLoop (checkPKI env tables.serverNames) 0 cfg.pki []
  let (bwLimits, limits) ← rangeLoop (checkBWLimit env) 0 cfg.bwLimits []
  let backends ← rangeMap (checkBackend env pkis limits names) 0 backends
  env.mkdirAll cfg.cacheDir
  pure { cfg with oidcProviders, samlProviders, passkeyProviders, backends, pki, bwLimits }

/-- A host on which every call `Check` makes succeeds: case mapping on ASCII letters, IDNA
mapping the lowercase ASCII names used here to themselves, 1024 open files and no QUIC. -/
def examplePlatform : Platform where
  userCacheDir := .ok "/home/user/.cache"
  filepathJoin := "/".intercalate
  openFileLimit := .ok 1024
  quicIsEnabled := false
  idnaToASCII := id
  toUpper s := String.mk (s.toList.map Char.toUpper)
  toLower s := String.mk (s.toList.map Char.toLower)
  quote s := "\"" ++ s ++ "\""
  urlParse _ := .ok ()
  hostAndPath _ := .ok ""
  loadCerts _ := .ok ()
  parseCIDR _ := .ok ⟨[], []⟩
  regexpCompile _ := .ok ()
  mkdirAll _ := .ok ()

end TlsProxy
