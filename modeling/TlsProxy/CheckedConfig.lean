import TlsProxy.ConfigCheck

/-!
# What a successful `Check` guarantees

A run of `Config.check` that returns a configuration has gone through every loop of
`Check` without an error.  `CheckTrace` records the value each loop computed, and the
lemmas below read each loop body back: the provider, PKI and bandwidth-limit loops
register every name once, the first backend loop leaves a valid normalized mode, the
server-name loop only rewrites server names, and the second backend loop checks the
addresses, the references into the maps built before it and the path overrides.
`check_ok_checked` assembles them into the guarantees for every backend of the checked
configuration.
-/

namespace TlsProxy

variable {env : Platform}

/-- A successful run of `Check`: the value each phase computed, in order. -/
structure CheckTrace (env : Platform) (cfg cfg' : Config) where
  defaults : Config
  defaults_eq : cfg.setDefaults env = .ok defaults
  oidcNames : List String
  samlNames : List String
  names : List String
  oidc_loop : rangeLoop (checkOIDC env) 0 defaults.oidcProviders [] =
    .ok (cfg'.oidcProviders, oidcNames)
  saml_loop : rangeLoop (checkSAML env) 0 defaults.samlProviders oidcNames =
    .ok (cfg'.samlProviders, samlNames)
  passkey_loop : rangeLoop (checkPasskey env) 0 defaults.passkeyProviders samlNames =
    .ok (cfg'.passkeyProviders, names)
  modes : List Backend
  mode_loop : rangeMap (checkMode env (defaults.enableQUIC = some true)) 0 defaults.backends =
    .ok modes
  named : List Backend
  tables : NameTables
  name_loop : rangeLoop (registerServerNames env) 0 modes ⟨[], []⟩ = .ok (named, tables)
  pkis : List String
  pki_loop : rangeLoop (checkPKI env tables.serverNames) 0 defaults.pki [] = .ok (cfg'.pki, pkis)
  limits : List String
  bwLimit_loop : rangeLoop (checkBWLimit env) 0 defaults.bwLimits [] =
    .ok (cfg'.bwLimits, limits)
  backend_loop : rangeMap (checkBackend env pkis limits names) 0 named = .ok cfg'.backends
  mkdir : env.mkdirAll defaults.cacheDir = .ok ()
  result : cfg' = ({ defaults with
      oidcProviders := cfg'.oidcProviders, samlProviders := cfg'.samlProviders
      passkeyProviders := cfg'.passkeyProviders, backends := cfg'.backends
      pki := cfg'.pki, bwLimits := cfg'.bwLimits })

theorem check_eq_ok {cfg cfg' : Config} (checked : cfg.check env = .ok cfg') :
    Nonempty (CheckTrace env cfg cfg') := by
  simp only [Config.check, except_bind_eq_ok] at checked
  obtain ⟨defaults, defaults_eq, ⟨oidc, oidcNames⟩, oidc_loop, checked⟩ := checked
  obtain ⟨⟨saml, samlNames⟩, saml_loop, ⟨passkey, names⟩, passkey_loop, checked⟩ := checked
  obtain ⟨modes, mode_loop, ⟨named, tables⟩, name_loop, ⟨pki, pkis⟩, pki_loop, checked⟩ := checked
  obtain ⟨⟨bw, limits⟩, bwLimit_loop, backends, backend_loop, ⟨⟩, mkdir, checked⟩ := checked
  simp only [except_pure_eq_ok] at checked
  subst checked
  exact ⟨⟨defaults, defaults_eq, oidcNames, samlNames, names, oidc_loop, saml_loop, passkey_loop,
    modes, mode_loop, named, tables, name_loop, pkis, pki_loop, limits, bwLimit_loop,
    backend_loop, mkdir, rfl⟩⟩

theorem setDefaults_backends {cfg cfg' : Config} (defaults : cfg.setDefaults env = .ok cfg') :
    cfg'.backends = cfg.backends := by
  simp only [Config.setDefaults, except_bind_eq_ok, except_pure_eq_ok] at defaults
  obtain ⟨_, _, _, _, _, _, rfl⟩ := defaults
  rfl

/-! ### Name registries -/

theorem registerName_eq_ok {duplicate name : String} {seen seen' : List String} :
    registerName duplicate name seen = .ok seen' ↔ name ∉ seen ∧ seen' = seen ++ [name] := by
  unfold registerName
  split <;> simp_all [eq_comm]

theorem checkOIDC_registers {i : Nat} {oi oi' : ConfigOIDC} {names names' : List String}
    (body : checkOIDC env i oi names = .ok (oi', names')) :
    names' = names ++ [oi.name] ∧ oi.name ∉ names ∧ oi'.name = oi.name := by
  simp only [checkOIDC, except_bind_eq_ok, except_pure_eq_ok, Prod.mk.injEq,
    registerName_eq_ok] at body
  obtain ⟨_, ⟨fresh, rfl⟩, _, _, _, _, rfl, rfl⟩ := body
  exact ⟨rfl, fresh, rfl⟩

theorem checkSAML_registers {i : Nat} {s s' : ConfigSAML} {names names' : List String}
    (body : checkSAML env i s names = .ok (s', names')) :
    names' = names ++ [s.name] ∧ s.name ∉ names ∧ s'.name = s.name := by
  simp only [checkSAML, except_bind_eq_ok, except_pure_eq_ok, Prod.mk.injEq,
    registerName_eq_ok] at body
  obtain ⟨_, ⟨fresh, rfl⟩, _, _, _, _, rfl, rfl⟩ := body
  exact ⟨rfl, fresh, rfl⟩

theorem checkPasskey_registers {i : Nat} {pp pp' : ConfigPasskey} {names names' : List String}
    (body : checkPasskey env i pp names = .ok (pp', names')) :
    names' = names ++ [pp.name] ∧ pp.name ∉ names ∧ pp'.name = pp.name := by
  simp only [checkPasskey, except_bind_eq_ok, except_pure_eq_ok, Prod.mk.injEq,
    registerName_eq_ok] at body
  obtain ⟨_, ⟨fresh, rfl⟩, _, _, _, _, rfl, rfl⟩ := body
  exact ⟨rfl, fresh, rfl⟩

theorem checkPKI_registers {serverNames : List (String × Backend)} {i : Nat} {p p' : ConfigPKI}
    {pkis pkis' : List String} (body : checkPKI env serverNames i p pkis = .ok (p', pkis')) :
    pkis' = pkis ++ [p.name] ∧ p.name ∉ pkis ∧ p'.name = p.name := by
  simp only [checkPKI, except_bind_eq_ok, except_pure_eq_ok, Prod.mk.injEq,
    registerName_eq_ok] at body
  obtain ⟨_, ⟨fresh, rfl⟩, _, _, rfl, rfl⟩ := body
  exact ⟨rfl, fresh, rfl⟩

theorem checkBWLimit_registers {i : Nat} {l l' : BWLimit} {names names' : List String}
    (body : checkBWLimit env i l names = .ok (l', names')) :
    names' = names ++ [l.name] ∧ l.name ∉ names ∧ l'.name = l.name := by
  simp only [checkBWLimit, except_bind_eq_ok, except_pure_eq_ok, Prod.mk.injEq,
    registerName_eq_ok] at body
  obtain ⟨_, ⟨fresh, rfl⟩, rfl, rfl⟩ := body
  exact ⟨rfl, fresh, rfl⟩

/-! ### The backend loops -/

/-- What the first backend loop guarantees of the backend `be'` it made of `be`. -/
structure ModeChecked (env : Platform) (be be' : Backend) : Prop where
  mode_eq : be'.mode = normalizeMode env be.mode
  mode_mem : be'.mode ∈ validModes
  alpnProtos_ne_none : be'.alpnProtos ≠ none
  clientAuth_eq_none : be'.mode = modeTLSPassthrough → be'.clientAuth = none
  backendProto_eq_none : be'.backendProto ≠ none → be'.mode = modeHTTP ∨ be'.mode = modeHTTPS

theorem checkMode_checked {enableQUIC : Bool} {i : Nat} {be be' : Backend}
    (body : checkMode env enableQUIC i be = .ok be') : ModeChecked env be be' := by
  simp only [checkMode, except_bind_eq_ok, except_pure_eq_ok, failIf_eq_ok] at body
  obtain ⟨_, valid, _, passthrough, _, proto, rfl⟩ := body
  refine ⟨rfl, by simpa using valid, by simp, fun isPassthrough => ?_, fun hasProto => ?_⟩
  · simp only [not_and, not_not] at passthrough
    exact passthrough isPassthrough
  · by_contra notHTTP
    exact proto ⟨hasProto, by simpa [not_or] using notHTTP⟩

theorem registerServerNames_frame {i : Nat} {be be' : Backend} {tables tables' : NameTables}
    (body : registerServerNames env i be tables = .ok (be', tables')) :
    be' = { be with serverNames := be'.serverNames } := by
  simp only [registerServerNames, except_bind_eq_ok] at body
  obtain ⟨⟨names, _⟩, _, body⟩ := body
  simp only [except_pure_eq_ok, Prod.mk.injEq] at body
  obtain ⟨rfl, -⟩ := body
  rfl

theorem checkClientAuth_xfcc {pkis : List String} {field : String} {clientAuth : Option ClientAuth}
    (checked : checkClientAuth env pkis field clientAuth = .ok ()) :
    ∀ ca, clientAuth = some ca → ∀ f ∈ ca.addClientCertHeader, env.toLower f ∈ validXFCCFields := by
  rintro ca rfl
  simp only [checkClientAuth, except_bind_eq_ok] at checked
  obtain ⟨_, _, fields⟩ := checked
  exact rangeCheck_forall (fun _ f valid => by simpa using valid) fields

theorem checkSSO_provider {names : List String} {field : String} {sso : Option BackendSSO}
    (checked : checkSSO env names field sso = .ok ()) :
    ∀ s, sso = some s → s.provider ∈ names := by
  rintro s rfl
  simp only [checkSSO, except_bind_eq_ok, failIf_eq_ok, not_not] at checked
  exact checked.choose_spec.1

/-- Each path override the loop returns has paths, all starting with `/`, and an HTTP
mode. -/
theorem checkPathOverride_checked {pkis : List String} {be : Backend} {field : String} {j : Nat}
    {po po' : PathOverride} (checked : checkPathOverride env pkis be field j po = .ok po') :
    po'.paths ≠ [] ∧ (∀ path ∈ po'.paths, path.startsWith "/") ∧
      (po'.mode = modeHTTP ∨ po'.mode = modeHTTPS) := by
  simp only [checkPathOverride, except_bind_eq_ok, except_pure_eq_ok, failIf_eq_ok,
    wrapError_eq_ok] at checked
  obtain ⟨_, nonempty, _, paths, _, httpMode, _, -, _, -, rfl⟩ := checked
  refine ⟨nonempty, rangeCheck_forall (fun _ path ok => by simpa using ok) paths, ?_⟩
  by_contra notHTTP
  exact httpMode (by simpa [not_or] using notHTTP)

/-- What the second backend loop guarantees of the backend `be'` it made of `be`, given
the bandwidth-limit names `limits` and the provider names `names` built before it. -/
structure BackendChecked (env : Platform) (limits names : List String) (be be' : Backend) :
    Prop where
  serverNames_eq : be'.serverNames = be.serverNames
  mode_eq : be'.mode = be.mode
  alpnProtos_eq : be'.alpnProtos = be.alpnProtos
  clientAuth_eq : be'.clientAuth = be.clientAuth
  backendProto_eq : be'.backendProto = be.backendProto
  serverNames_ne_nil : be'.serverNames ≠ []
  addresses_ne_nil : be'.addresses = [] →
    be'.mode = modeConsole ∨ be'.mode = modeHTTP ∨ be'.mode = modeHTTPS ∨ be'.mode = modeLocal
  addresses_eq_nil : be'.mode = modeConsole ∨ be'.mode = modeLocal → be'.addresses = []
  bwLimit_mem : be'.bwLimit ≠ "" → be'.bwLimit ∈ limits
  xfcc_mem : ∀ ca, be'.clientAuth = some ca →
    ∀ f ∈ ca.addClientCertHeader, env.toLower f ∈ validXFCCFields
  sso_mem : ∀ sso, be'.sso = some sso → sso.provider ∈ names
  pathOverrides_http : be'.pathOverrides ≠ [] → be'.mode = modeHTTP ∨ be'.mode = modeHTTPS
  pathOverride_valid : ∀ po ∈ be'.pathOverrides, po.paths ≠ [] ∧
    (∀ path ∈ po.paths, path.startsWith "/") ∧ (po.mode = modeHTTP ∨ po.mode = modeHTTPS)

theorem checkBackend_checked {pkis limits names : List String} {i : Nat} {be be' : Backend}
    (checked : checkBackend env pkis limits names i be = .ok be') :
    BackendChecked env limits names be be' := by
  simp only [checkBackend, except_bind_eq_ok, except_pure_eq_ok, failIf_eq_ok,
    wrapError_eq_ok] at checked
  obtain ⟨_, named, _, addressed, _, localEmpty, _, limited, _, clientAuth, _, sso, _, -, _, -,
    _, -, _, -, _, http, overrides, loop, rfl⟩ := checked
  have overridesChecked := rangeMap_forall₂ (R := fun _ po' => po'.paths ≠ [] ∧
    (∀ path ∈ po'.paths, path.startsWith "/") ∧ (po'.mode = modeHTTP ∨ po'.mode = modeHTTPS))
    (fun _ _ _ ok => checkPathOverride_checked ok) loop
  refine ⟨rfl, rfl, rfl, rfl, rfl, named, fun empty => ?_, fun consoleOrLocal => ?_,
    fun limit => ?_, checkClientAuth_xfcc clientAuth, checkSSO_provider sso,
    fun nonempty => ?_, forall₂_mem_right overridesChecked⟩
  · by_contra notHTTP
    exact addressed ⟨empty, by simpa [not_or] using notHTTP⟩
  · by_contra nonempty
    exact localEmpty ⟨nonempty, consoleOrLocal⟩
  · by_contra undefined
    exact limited ⟨limit, undefined⟩
  · by_contra notHTTP
    exact http ⟨fun empty => nonempty (by simpa [empty] using overridesChecked.length_eq.symm),
      by simpa [not_or] using notHTTP⟩

/-! ### The checked configuration -/

/-- The names of all identity providers: OIDC, then SAML, then passkey. -/
def Config.providerNames (cfg : Config) : List String :=
  cfg.oidcProviders.map (·.name) ++ cfg.samlProviders.map (·.name) ++
    cfg.passkeyProviders.map (·.name)

/-- The provider loops register every provider name once: OIDC first, then SAML, then
passkey. -/
theorem CheckTrace.provider_names {cfg cfg' : Config} (trace : CheckTrace env cfg cfg') :
    trace.samlNames = cfg'.oidcProviders.map (·.name) ++ cfg'.samlProviders.map (·.name) ∧
      trace.names = cfg'.providerNames ∧ cfg'.providerNames.Nodup := by
  have oidc := rangeLoop_registry ConfigOIDC.name (fun _ _ _ _ _ body => checkOIDC_registers body)
    List.nodup_nil trace.oidc_loop
  have saml := rangeLoop_registry ConfigSAML.name (fun _ _ _ _ _ body => checkSAML_registers body)
    oidc.2 trace.saml_loop
  have passkey := rangeLoop_registry ConfigPasskey.name
    (fun _ _ _ _ _ body => checkPasskey_registers body) saml.2 trace.passkey_loop
  have samlNames : trace.samlNames =
      cfg'.oidcProviders.map (·.name) ++ cfg'.samlProviders.map (·.name) := by
    rw [saml.1, oidc.1, List.nil_append]
  have names : trace.names = cfg'.providerNames := by rw [passkey.1, samlNames]; rfl
  exact ⟨samlNames, names, names ▸ passkey.2⟩

/-- The guarantees `Check` gives for one backend of the checked configuration `cfg`:
`original` is the backend as written in the document, `be` the checked one. -/
structure CheckedBackend (env : Platform) (cfg : Config) (original be : Backend) : Prop where
  serverNames_ne_nil : be.serverNames ≠ []
  mode_mem : be.mode ∈ validModes
  mode_eq_tcp : env.toUpper original.mode = "" ∨ env.toUpper original.mode = modePlaintext →
    be.mode = modeTCP
  alpnProtos_ne_none : be.alpnProtos ≠ none
  clientAuth_eq_none : be.mode = modeTLSPassthrough → be.clientAuth = none
  backendProto_eq_none : be.mode ≠ modeHTTP → be.mode ≠ modeHTTPS → be.backendProto = none
  addresses_ne_nil : be.mode ∈ [modeTCP, modeTLS, modeTLSPassthrough, modeQUIC] →
    be.addresses ≠ []
  addresses_eq_nil : be.mode = modeLocal ∨ be.mode = modeConsole → be.addresses = []
  pathOverrides_eq_nil : be.mode ≠ modeHTTP → be.mode ≠ modeHTTPS → be.pathOverrides = []
  pathOverride_valid : ∀ po ∈ be.pathOverrides, po.paths ≠ [] ∧
    (∀ path ∈ po.paths, path.startsWith "/") ∧ (po.mode = modeHTTP ∨ po.mode = modeHTTPS)
  bwLimit_defined : be.bwLimit = "" ∨ be.bwLimit ∈ cfg.bwLimits.map (·.name)
  sso_provider_defined : ∀ sso, be.sso = some sso → sso.provider ∈ cfg.providerNames
  xfcc_valid : ∀ ca, be.clientAuth = some ca →
    ∀ f ∈ ca.addClientCertHeader, env.toLower f ∈ validXFCCFields

/-- The two backend loops and the server-name loop between them compose into the
guarantees for one backend. -/
theorem checkedBackend_of_loops {cfg : Config} {limits names : List String}
    {be be₁ be₂ be₃ : Backend} (moded : ModeChecked env be be₁)
    (renamed : be₂ = { be₁ with serverNames := be₂.serverNames })
    (checked : BackendChecked env limits names be₂ be₃)
    (limitsEq : limits = cfg.bwLimits.map (·.name)) (namesEq : names = cfg.providerNames) :
    CheckedBackend env cfg be be₃ := by
  have mode : be₃.mode = be₁.mode := by rw [checked.mode_eq, renamed]
  have alpnProtos : be₃.alpnProtos = be₁.alpnProtos := by rw [checked.alpnProtos_eq, renamed]
  have clientAuth : be₃.clientAuth = be₁.clientAuth := by rw [checked.clientAuth_eq, renamed]
  have backendProto : be₃.backendProto = be₁.backendProto := by
    rw [checked.backendProto_eq, renamed]
  subst limitsEq namesEq
  refine ⟨checked.serverNames_ne_nil, mode ▸ moded.mode_mem, fun plain => ?_,
    alpnProtos ▸ moded.alpnProtos_ne_none, fun passthrough => ?_, fun notHTTP notHTTPS => ?_,
    fun needsAddress empty => ?_, fun localOrConsole => ?_, fun notHTTP notHTTPS => ?_,
    checked.pathOverride_valid, ?_, checked.sso_mem, checked.xfcc_mem⟩
  · rw [mode, moded.mode_eq, normalizeMode, if_pos plain]
  · rw [clientAuth]
    exact moded.clientAuth_eq_none (mode ▸ passthrough)
  · rw [backendProto]
    by_contra hasProto
    rcases moded.backendProto_eq_none hasProto with http | https
    exacts [notHTTP (mode ▸ http), notHTTPS (mode ▸ https)]
  · rcases checked.addresses_ne_nil empty with h | h | h | h <;>
      simp [h, validModes, modeTCP, modeTLS, modeTLSPassthrough, modeQUIC, modeConsole, modeHTTP,
        modeHTTPS, modeLocal] at needsAddress
  · exact checked.addresses_eq_nil (localOrConsole.symm.imp id id)
  · by_contra nonempty
    rcases checked.pathOverrides_http nonempty with http | https
    exacts [notHTTP http, notHTTPS https]
  · by_cases limited : be₃.bwLimit = ""
    exacts [.inl limited, .inr (by simpa using checked.bwLimit_mem limited)]

/-- A configuration that `Check` accepts has, for every backend, a server name, a valid
normalized mode, an ALPN list, no client authentication in TLS passthrough, no backend
protocol and no path overrides outside HTTP and HTTPS, addresses exactly where its mode
needs them, valid path overrides, defined bandwidth-limit and SSO provider names, and
valid client-certificate header fields; and its provider, PKI and bandwidth-limit names
are pairwise distinct. -/
theorem check_ok_checked {cfg cfg' : Config} (checked : cfg.check env = .ok cfg') :
    List.Forall₂ (CheckedBackend env cfg') cfg.backends cfg'.backends ∧
      cfg'.providerNames.Nodup ∧ (cfg'.pki.map (·.name)).Nodup ∧
      (cfg'.bwLimits.map (·.name)).Nodup := by
  obtain ⟨trace⟩ := check_eq_ok checked
  obtain ⟨-, names, nodup⟩ := trace.provider_names
  have pki := rangeLoop_registry ConfigPKI.name (fun _ _ _ _ _ body => checkPKI_registers body)
    List.nodup_nil trace.pki_loop
  have limits := rangeLoop_registry BWLimit.name
    (fun _ _ _ _ _ body => checkBWLimit_registers body) List.nodup_nil trace.bwLimit_loop
  have moded := rangeMap_forall₂ (R := ModeChecked env) (fun _ _ _ body => checkMode_checked body)
    trace.mode_loop
  have renamed := (rangeLoop_forall₂
    (R := fun be be' => be' = { be with serverNames := be'.serverNames }) (fun _ => True)
    (fun _ _ _ _ _ _ body => ⟨registerServerNames_frame body, trivial⟩) trivial
    trace.name_loop).1
  have finished := rangeMap_forall₂ (R := BackendChecked env trace.limits trace.names)
    (fun _ _ _ body => checkBackend_checked body)
    trace.backend_loop
  refine ⟨?_, nodup, by simpa [pki.1] using pki.2, by simpa [limits.1] using limits.2⟩
  rw [← setDefaults_backends trace.defaults_eq]
  exact forall₂_trans (fun _ _ _ ⟨_, moded, renamed⟩ finished =>
      checkedBackend_of_loops moded renamed finished (by simpa using limits.1) names)
    (forall₂_trans (T := fun be be₂ => ∃ be₁, ModeChecked env be be₁ ∧
        be₂ = { be₁ with serverNames := be₂.serverNames })
      (fun _ _ _ moded renamed => ⟨_, moded, renamed⟩) moded renamed) finished

/-- A backend in the default mode with one server name and one address. -/
def exampleBackend : Backend where
  serverNames := ["www.example.com"]
  clientAuth := none
  allowIPs := none
  denyIPs := none
  sso := none
  alpnProtos := none
  backendProto := none
  mode := ""
  bwLimit := ""
  addresses := ["192.0.2.1:80"]
  forwardRateLimit := 0
  forwardServerName := ""
  forwardRootCAs := []
  forwardTimeout := 0
  pathOverrides := []
  proxyProtocolVersion := ""
  serverCloseEndsConnection := none
  clientCloseEndsConnection := none
  allowIPNets := none
  denyIPNets := none
  connLimit := none
  proxyProtocolVersionByte := 0

/-- A document with `exampleBackend` only, every setting left to its default. -/
def exampleConfig : Config where
  tlsAddr := ""
  enableQUIC := none
  cacheDir := ""
  defaultServerName := ""
  backends := [exampleBackend]
  maxOpen := 0
  oidcProviders := []
  samlProviders := []
  passkeyProviders := []
  pki := []
  bwLimits := []

/-- What `Check` makes of `exampleConfig` on `examplePlatform`. -/
def exampleChecked : Config :=
  { exampleConfig with
    tlsAddr := ":10443", enableQUIC := some false, maxOpen := 412
    cacheDir := "/home/user/.cache/tlsproxy/letsencrypt"
    backends := [{ exampleBackend with
      mode := modeTCP, alpnProtos := some defaultALPNProtos, forwardRateLimit := 5
      forwardTimeout := 30 * second, connLimit := some ⟨5, 5⟩ }] }

theorem check_ok_checked_exampleConfig :
    exampleConfig.check examplePlatform = .ok exampleChecked ∧
      List.Forall₂ (CheckedBackend examplePlatform exampleChecked) exampleConfig.backends
        exampleChecked.backends ∧
      exampleChecked.providerNames.Nodup ∧ (exampleChecked.pki.map (·.name)).Nodup ∧
      (exampleChecked.bwLimits.map (·.name)).Nodup :=
  ⟨rfl, check_ok_checked rfl⟩

/-! ### Passkey references

The passkey loop registers a provider's name before it looks up the provider's
`IdentityProvider`, so the lookup also finds the provider itself. -/

theorem checkPasskey_refers {i : Nat} {pp pp' : ConfigPasskey} {names names' : List String}
    (body : checkPasskey env i pp names = .ok (pp', names')) :
    names' = names ++ [pp.name] ∧ pp'.name = pp.name ∧ pp'.identityProvider ∈ names' := by
  simp only [checkPasskey, validatePasskey, except_bind_eq_ok, except_pure_eq_ok, Prod.mk.injEq,
    registerName_eq_ok, failIf_eq_ok, not_not] at body
  obtain ⟨_, ⟨-, rfl⟩, _, ⟨_, _, _, _, referred⟩, _, _, rfl, rfl⟩ := body
  exact ⟨rfl, rfl, referred⟩

theorem CheckTrace.passkey_refers {cfg cfg' : Config} (trace : CheckTrace env cfg cfg')
    {earlier later : List ConfigPasskey} {pp : ConfigPasskey}
    (split : cfg'.passkeyProviders = earlier ++ pp :: later) :
    pp.identityProvider ∈ cfg'.oidcProviders.map (·.name) ++ cfg'.samlProviders.map (·.name) ++
      earlier.map (·.name) ++ [pp.name] := by
  have refers := rangeLoop_registry_refs ConfigPasskey.name
    (fun names pp => pp.identityProvider ∈ names) (fun _ _ _ _ _ body => checkPasskey_refers body)
    trace.passkey_loop earlier pp later split
  rwa [trace.provider_names.1] at refers

/-- In a configuration that `Check` accepts, the identity provider of a passkey provider is
an OIDC or SAML provider, a passkey provider listed before it, or the provider itself. -/
theorem check_ok_passkey_refers {cfg cfg' : Config} (checked : cfg.check env = .ok cfg')
    {earlier later : List ConfigPasskey} {pp : ConfigPasskey}
    (split : cfg'.passkeyProviders = earlier ++ pp :: later) :
    pp.identityProvider ∈ cfg'.oidcProviders.map (·.name) ++ cfg'.samlProviders.map (·.name) ++
      earlier.map (·.name) ++ [pp.name] := by
  obtain ⟨trace⟩ := check_eq_ok checked
  exact trace.passkey_refers split

/-- The name reached from `name` by following the `IdentityProvider` of passkey providers
for at most `fuel` steps: the first name that is not a passkey provider's. -/
def Config.followIdentityProvider (cfg : Config) : Nat → String → String
  | 0, name => name
  | fuel + 1, name =>
    match cfg.passkeyProviders.find? (·.name = name) with
    | some pp => cfg.followIdentityProvider fuel pp.identityProvider
    | none => name

theorem followIdentityProvider_of_not_passkey {cfg : Config} {name : String}
    (other : name ∉ cfg.passkeyProviders.map (·.name)) :
    ∀ fuel, cfg.followIdentityProvider fuel name = name
  | 0 => rfl
  | fuel + 1 => by
    have none : cfg.passkeyProviders.find? (·.name = name) = none :=
      List.find?_eq_none.mpr fun pp listed named =>
        other (List.mem_map.mpr ⟨pp, listed, by simpa using named⟩)
    simp [Config.followIdentityProvider, none]

theorem followIdentityProvider_passkey {cfg : Config} {earlier later : List ConfigPasskey}
    {pp : ConfigPasskey} (split : cfg.passkeyProviders = earlier ++ pp :: later)
    (nodup : (cfg.passkeyProviders.map (·.name)).Nodup) (fuel : Nat) :
    cfg.followIdentityProvider (fuel + 1) pp.name =
      cfg.followIdentityProvider fuel pp.identityProvider := by
  have distinct : ∀ q ∈ earlier, q.name ≠ pp.name := by
    rw [split, List.map_append, List.map_cons, List.nodup_append] at nodup
    exact fun q listed same => nodup.2.2 (List.mem_map_of_mem _ listed) (by simp [same])
  have found : cfg.passkeyProviders.find? (·.name = pp.name) = some pp := by
    rw [split, List.find?_append, List.find?_eq_none.mpr (by simpa using distinct)]
    simp
  simp [Config.followIdentityProvider, found]

/-- In a configuration that `Check` accepts and in which no passkey provider names itself,
following `IdentityProvider` from any passkey provider reaches an OIDC or SAML provider,
within as many steps as there are passkey providers. -/
theorem check_ok_passkey_reaches {cfg cfg' : Config} (checked : cfg.check env = .ok cfg')
    (noSelf : ∀ pp ∈ cfg'.passkeyProviders, pp.identityProvider ≠ pp.name) :
    ∀ pp ∈ cfg'.passkeyProviders,
      cfg'.followIdentityProvider cfg'.passkeyProviders.length pp.name ∈
        cfg'.oidcProviders.map (·.name) ++ cfg'.samlProviders.map (·.name) := by
  obtain ⟨trace⟩ := check_eq_ok checked
  have nodup := trace.provider_names.2.2
  have passkeyNodup : (cfg'.passkeyProviders.map (·.name)).Nodup := nodup.of_append_right
  intro pp listed
  obtain ⟨earlier, later, split⟩ := List.append_of_mem listed
  clear listed
  have enough : earlier.length < cfg'.passkeyProviders.length := by simp [split]
  -- each step moves to a passkey provider listed earlier, so `earlier` shrinks with the fuel
  generalize cfg'.passkeyProviders.length = fuel at enough ⊢
  induction fuel generalizing earlier pp later with
  | zero => omega
  | succ fuel ih =>
    rw [followIdentityProvider_passkey split passkeyNodup]
    rcases List.mem_append.mp (trace.passkey_refers split) with named | self
    · rcases List.mem_append.mp named with provider | earlierName
      · rw [followIdentityProvider_of_not_passkey (List.disjoint_of_nodup_append nodup provider)]
        exact provider
      · obtain ⟨q, listed, same⟩ := List.mem_map.mp earlierName
        rw [← same]
        obtain ⟨e₁, e₂, rfl⟩ := List.append_of_mem listed
        exact ih q e₁ (e₂ ++ pp :: later) (by simp [split]) (by simp at enough; omega)
    · exact absurd (List.mem_singleton.mp self) (noSelf pp (by simp [split]))

/-- A passkey provider whose identity provider is itself. -/
def selfReferringPasskey : ConfigPasskey where
  name := "passkey"
  identityProvider := "passkey"
  endpoint := "https://login.example.com/passkey"
  domain := ""

/-- `exampleConfig` with `selfReferringPasskey` as its only identity provider. -/
def selfReferringConfig : Config :=
  { exampleConfig with passkeyProviders := [selfReferringPasskey] }

def selfReferringChecked : Config :=
  { exampleChecked with passkeyProviders := [selfReferringPasskey] }

/-- `Check` accepts a passkey provider that names itself as its identity provider, in a
configuration with no OIDC or SAML provider: following the reference never leaves it. -/
theorem check_accepts_self_referring_passkey :
    selfReferringConfig.check examplePlatform = .ok selfReferringChecked ∧
      selfReferringChecked.providerNames = [selfReferringPasskey.name] ∧
      selfReferringChecked.passkeyProviders = [selfReferringPasskey] ∧
      selfReferringPasskey.identityProvider = selfReferringPasskey.name :=
  ⟨rfl, rfl, rfl, rfl⟩

theorem check_ok_passkey_refers_selfReferring :
    selfReferringPasskey.identityProvider ∈ ([] : List String) ++ [] ++ [] ++
      [selfReferringPasskey.name] :=
  @check_ok_passkey_refers examplePlatform selfReferringConfig selfReferringChecked rfl [] []
    selfReferringPasskey rfl

/-- An OIDC provider found through its discovery document. -/
def exampleOIDC : ConfigOIDC where
  name := "google"
  discoveryURL := "https://accounts.google.com/.well-known/openid-configuration"
  authEndpoint := ""
  tokenEndpoint := ""
  redirectURL := "https://login.example.com/oidc"
  clientID := "client"
  clientSecret := "secret"
  domain := ""

/-- `exampleConfig` with `exampleOIDC` and a passkey provider that authenticates with it. -/
def chainedConfig : Config :=
  { exampleConfig with
    oidcProviders := [exampleOIDC]
    passkeyProviders := [{ selfReferringPasskey with identityProvider := "google" }] }

def chainedChecked : Config :=
  { exampleChecked with
    oidcProviders := [exampleOIDC]
    passkeyProviders := [{ selfReferringPasskey with identityProvider := "google" }] }

theorem check_ok_passkey_reaches_chained :
    chainedConfig.check examplePlatform = .ok chainedChecked ∧
      (∀ pp ∈ chainedChecked.passkeyProviders, pp.identityProvider ≠ pp.name) ∧
      chainedChecked.followIdentityProvider chainedChecked.passkeyProviders.length "passkey" ∈
        chainedChecked.oidcProviders.map (·.name) ++ chainedChecked.samlProviders.map (·.name) :=
  have checked : chainedConfig.check examplePlatform = .ok chainedChecked := rfl
  have noSelf : ∀ pp ∈ chainedChecked.passkeyProviders, pp.identityProvider ≠ pp.name := by
    decide
  ⟨checked, noSelf, check_ok_passkey_reaches checked noSelf _ (List.mem_cons_self _ _)⟩

/-! ### Proxy protocol versions -/

theorem checkPathOverride_version {pkis : List String} {be : Backend} {field : String} {j : Nat}
    {po po' : PathOverride} (checked : checkPathOverride env pkis be field j po = .ok po') :
    ProxyProtocolLiteral po'.proxyProtocolVersion po'.proxyProtocolVersionByte := by
  simp only [checkPathOverride, except_bind_eq_ok, except_pure_eq_ok, wrapError_eq_ok] at checked
  obtain ⟨_, -, _, -, _, -, _, -, _, version, rfl⟩ := checked
  exact validateProxyProtoVersion_eq_ok.mp version

theorem checkBackend_versions {pkis limits names : List String} {i : Nat} {be be' : Backend}
    (checked : checkBackend env pkis limits names i be = .ok be') :
    ProxyProtocolLiteral be'.proxyProtocolVersion be'.proxyProtocolVersionByte ∧
      ∀ po ∈ be'.pathOverrides,
        ProxyProtocolLiteral po.proxyProtocolVersion po.proxyProtocolVersionByte := by
  simp only [checkBackend, except_bind_eq_ok, except_pure_eq_ok, wrapError_eq_ok] at checked
  obtain ⟨_, -, _, -, _, -, _, -, _, -, _, -, _, -, _, -, _, -, _, version, _, -, _, loop, rfl⟩ :=
    checked
  exact ⟨validateProxyProtoVersion_eq_ok.mp version, forall₂_mem_right
    (rangeMap_forall₂ (fun _ _ _ ok => checkPathOverride_version ok) loop)⟩

/-- In a configuration that `Check` accepts, the version of every backend and of every path
override is the byte `validateProxyProtoVersion` reads from its `ProxyProtocolVersion`:
0 for the empty string, else the low byte of an `int8` literal after a `v`. -/
theorem check_ok_proxy_protocol_literals {cfg cfg' : Config} (checked : cfg.check env = .ok cfg') :
    ∀ be ∈ cfg'.backends,
      ProxyProtocolLiteral be.proxyProtocolVersion be.proxyProtocolVersionByte ∧
        ∀ po ∈ be.pathOverrides,
          ProxyProtocolLiteral po.proxyProtocolVersion po.proxyProtocolVersionByte := by
  obtain ⟨trace⟩ := check_eq_ok checked
  exact forall₂_mem_right (rangeMap_forall₂ (fun _ _ _ ok => checkBackend_versions ok)
    trace.backend_loop)

/-- `exampleConfig` with its backend asking for PROXY protocol version `v3`. -/
def versionConfig : Config :=
  { exampleConfig with
    backends := exampleConfig.backends.map ({ · with proxyProtocolVersion := "v3" }) }

def versionChecked : Config :=
  { exampleChecked with
    backends := exampleChecked.backends.map
      ({ · with proxyProtocolVersion := "v3", proxyProtocolVersionByte := 3 }) }

/-- `Check` accepts PROXY protocol version `v3` and keeps 3 as the backend's version; and
`validateProxyProtoVersion` reads `v0` as 0, `v-1` as 255, and `v+1` and `v01` as 1. -/
theorem check_accepts_proxy_protocol_v3 :
    versionConfig.check examplePlatform = .ok versionChecked ∧
      versionChecked.backends.map (·.proxyProtocolVersionByte) = [3] ∧
      ∀ quote : String → String,
        validateProxyProtoVersion quote "v0" = .ok 0 ∧
        validateProxyProtoVersion quote "v-1" = .ok 255 ∧
        validateProxyProtoVersion quote "v+1" = .ok 1 ∧
        validateProxyProtoVersion quote "v01" = .ok 1 :=
  ⟨rfl, rfl, fun _ => ⟨rfl, rfl, rfl, rfl⟩⟩

theorem check_ok_proxy_protocol_literals_versionConfig :
    versionConfig.check examplePlatform = .ok versionChecked ∧ ProxyProtocolLiteral "v3" 3 :=
  have checked : versionConfig.check examplePlatform = .ok versionChecked := rfl
  ⟨checked, (check_ok_proxy_protocol_literals checked _ (List.mem_cons_self _ _)).1⟩

end TlsProxy
