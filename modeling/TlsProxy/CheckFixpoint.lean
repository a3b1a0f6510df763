import TlsProxy.ServerNameRouting

/-!
# `Check` on a checked configuration

`Check` normalizes as it validates: it upper-cases modes, maps names through IDNA and
fills in defaults.  Run again on the configuration it returned, it accepts it and returns
it unchanged, as long as the platform's own normalizations are idempotent
(`Platform.Normalizing`).  Each loop body, given what it returned, returns it again, and
`rangeLoop_fixpoint` lifts that to the loops.  The second run of the server-name loop
records the checked backends where the first recorded the backends of the mode loop; the
two agree on the names and modes that the PKI loop reads.
-/

namespace TlsProxy

/-- What `Check` needs of the platform to be idempotent: IDNA and `strings.ToUpper` map
their results to themselves, and `ToUpper` keeps the default mode. -/
structure Platform.Normalizing (env : Platform) : Prop where
  idna_idna : ∀ s, env.idnaToASCII (env.idnaToASCII s) = env.idnaToASCII s
  toUpper_toUpper : ∀ s, env.toUpper (env.toUpper s) = env.toUpper s
  toUpper_tcp : env.toUpper modeTCP = modeTCP

variable {env : Platform} (norm : env.Normalizing)

include norm

theorem normalizeMode_normalizeMode (mode : String) :
    normalizeMode env (normalizeMode env mode) = normalizeMode env mode := by
  simp only [normalizeMode]
  by_cases plain : env.toUpper mode = "" ∨ env.toUpper mode = modePlaintext
  · rw [if_pos plain, norm.toUpper_tcp, ite_self]
  · rw [if_neg plain, norm.toUpper_toUpper, if_neg plain]

theorem checkDomain_fixpoint {field urlField url domain domain' : String}
    (checked : checkDomain env field urlField url domain = .ok domain') :
    checkDomain env field urlField url domain' = .ok domain' := by
  simp only [checkDomain] at checked ⊢
  split_ifs at checked with empty
  · cases checked
    simp [empty]
  · split at checked
    · cases checked
    · rename_i host found
      split_ifs at checked with suffix
      cases checked
      by_cases empty' : env.idnaToASCII domain = ""
      · simp [empty']
      · simp [empty', norm.idna_idna, found, suffix]

theorem checkOIDC_fixpoint {i : Nat} {oi oi' : ConfigOIDC} {names names' : List String}
    (checked : checkOIDC env i oi names = .ok (oi', names')) :
    checkOIDC env i oi' names = .ok (oi', names') := by
  simp only [checkOIDC, except_bind_eq_ok, except_pure_eq_ok, Prod.mk.injEq] at checked ⊢
  obtain ⟨_, registered, _, valid, _, domain, rfl, rfl⟩ := checked
  exact ⟨_, registered, _, valid, _, checkDomain_fixpoint norm domain, rfl, rfl⟩

theorem checkSAML_fixpoint {i : Nat} {s s' : ConfigSAML} {names names' : List String}
    (checked : checkSAML env i s names = .ok (s', names')) :
    checkSAML env i s' names = .ok (s', names') := by
  simp only [checkSAML, except_bind_eq_ok, except_pure_eq_ok, Prod.mk.injEq] at checked ⊢
  obtain ⟨_, registered, _, valid, _, domain, rfl, rfl⟩ := checked
  exact ⟨_, registered, _, valid, _, checkDomain_fixpoint norm domain, rfl, rfl⟩

theorem checkPasskey_fixpoint {i : Nat} {pp pp' : ConfigPasskey} {names names' : List String}
    (checked : checkPasskey env i pp names = .ok (pp', names')) :
    checkPasskey env i pp' names = .ok (pp', names') := by
  simp only [checkPasskey, except_bind_eq_ok, except_pure_eq_ok, Prod.mk.injEq] at checked ⊢
  obtain ⟨_, registered, _, valid, _, domain, rfl, rfl⟩ := checked
  exact ⟨_, registered, _, valid, _, checkDomain_fixpoint norm domain, rfl, rfl⟩

omit norm in
/-- The fields the first backend loop reads and writes. -/
def Backend.modeFields (be : Backend) :
    String × Option ClientAuth × Option (List String) × Option String × Option Bool ×
      Option Bool :=
  (be.mode, be.clientAuth, be.alpnProtos, be.backendProto, be.serverCloseEndsConnection,
    be.clientCloseEndsConnection)

/-- The first backend loop returns unchanged any backend that agrees on the fields it reads
and writes with one it returned. -/
theorem checkMode_fixpoint {enableQUIC : Bool} {i : Nat} {be be' z : Backend}
    (checked : checkMode env enableQUIC i be = .ok be') (same : z.modeFields = be'.modeFields) :
    checkMode env enableQUIC i z = .ok z := by
  simp only [checkMode, except_bind_eq_ok, except_pure_eq_ok, failIf_eq_ok] at checked ⊢
  obtain ⟨_, valid, _, passthrough, _, proto, rfl⟩ := checked
  simp only [Backend.modeFields, Prod.mk.injEq] at same
  obtain ⟨mode, clientAuth, alpnProtos, backendProto, serverClose, clientClose⟩ := same
  rw [mode, normalizeMode_normalizeMode norm]
  refine ⟨(), valid, (), clientAuth ▸ passthrough, (), backendProto ▸ proto, ?_⟩
  cases z
  simp only at mode alpnProtos serverClose clientClose ⊢
  subst mode alpnProtos serverClose clientClose
  split_ifs <;> simp

/-! ### The server-name and PKI loops -/

omit norm in
/-- Two tables of the server-name loop that agree on what the later loops read: the names
recorded, each with the mode of its backend, and the pairs seen. -/
def NameTables.Agree (t t' : NameTables) : Prop :=
  t.serverNames.map (fun e => (e.1, e.2.mode)) = t'.serverNames.map (fun e => (e.1, e.2.mode)) ∧
    t.beKeys = t'.beKeys

omit norm in
theorem lookup_mode_congr {k : String} {l m : List (String × Backend)}
    (same : l.map (fun e => (e.1, e.2.mode)) = m.map (fun e => (e.1, e.2.mode))) :
    (l.lookup k).map (·.mode) = (m.lookup k).map (·.mode) := by
  induction l generalizing m with
  | nil => cases m <;> simp_all
  | cons e l ih =>
    obtain ⟨a, x⟩ := e
    rcases m with _ | ⟨⟨b, y⟩, m⟩
    · simp at same
    simp only [List.map_cons, List.cons.injEq, Prod.mk.injEq] at same
    obtain ⟨⟨rfl, modes⟩, same⟩ := same
    rw [List.lookup_cons, List.lookup_cons]
    split
    · simp [modes]
    · exact ih same

omit norm in
theorem recordServerName_agree {field sn : String} {be z : Backend} {alpnProtos : List String}
    {l l' m : List (String × Backend)}
    (recorded : recordServerName env field sn be alpnProtos l = .ok l') (mode : z.mode = be.mode)
    (same : l.map (fun e => (e.1, e.2.mode)) = m.map (fun e => (e.1, e.2.mode))) :
    ∃ m', recordServerName env field sn z alpnProtos m = .ok m' ∧
      l'.map (fun e => (e.1, e.2.mode)) = m'.map (fun e => (e.1, e.2.mode)) := by
  have fresh : l.lookup sn = none ↔ m.lookup sn = none := by
    rw [← Option.map_eq_none' (f := (·.mode)), lookup_mode_congr same, Option.map_eq_none']
  unfold recordServerName at recorded ⊢
  by_cases new : l.lookup sn = none
  · rw [if_pos new] at recorded
    cases recorded
    rw [if_pos (fresh.mp new)]
    exact ⟨_, rfl, by simp [same, mode]⟩
  · rw [if_neg new] at recorded
    rw [if_neg (mt fresh.mpr new)]
    split_ifs at recorded ⊢
    cases recorded
    exact ⟨_, rfl, same⟩

theorem registerServerName_fixpoint {be z : Backend} {i j : Nat} {sn sn' : String}
    {t t' r : NameTables} (registered : registerServerName env be i j sn t = .ok (sn', t'))
    (mode : z.mode = be.mode) (alpnProtos : z.alpnProtos = be.alpnProtos) (agree : t.Agree r) :
    ∃ r', registerServerName env z i j sn' r = .ok (sn', r') ∧ t'.Agree r' := by
  simp only [registerServerName, except_bind_eq_ok, except_pure_eq_ok, Prod.mk.injEq]
    at registered ⊢
  obtain ⟨serverNames, recorded, keys, registeredKeys, rfl, rfl⟩ := registered
  obtain ⟨serverNames', recorded', same⟩ := recordServerName_agree recorded mode agree.1
  rw [norm.idna_idna, alpnProtos]
  exact ⟨_, ⟨serverNames', recorded', keys, agree.2 ▸ registeredKeys, rfl, rfl⟩, same, rfl⟩

/-- The server-name loop returns unchanged a backend with the names, mode and ALPN list of
one it returned, from tables that agree with the first run's. -/
theorem registerServerNames_fixpoint {i : Nat} {be be' z : Backend} {t t' r : NameTables}
    (registered : registerServerNames env i be t = .ok (be', t'))
    (names : z.serverNames = be'.serverNames) (mode : z.mode = be'.mode)
    (alpnProtos : z.alpnProtos = be'.alpnProtos) (agree : t.Agree r) :
    ∃ r', registerServerNames env i z r = .ok (z, r') ∧ t'.Agree r' := by
  have frame := registerServerNames_frame registered
  obtain ⟨loop, -⟩ := registerServerNames_eq_ok registered
  have sameMode : z.mode = be.mode := by rw [mode, frame]
  have sameProtos : z.alpnProtos = be.alpnProtos := by rw [alpnProtos, frame]
  obtain ⟨r', loop', agree'⟩ := rangeLoop_fixpoint (R := Eq)
    (fun _ _ _ _ _ _ _ step same agree => same ▸ registerServerName_fixpoint norm step sameMode
      sameProtos agree) loop (List.forall₂_same.mpr fun _ _ => rfl) agree
  rw [← names] at loop'
  simp only [registerServerNames, except_bind_eq_ok, except_pure_eq_ok]
  exact ⟨r', ⟨_, loop', rfl⟩, agree'⟩

omit norm in
/-- The PKI endpoint test reads of the `serverNames` table only the mode of the backend
recorded for the endpoint's host. -/
theorem checkPKIEndpoint_agree {l m : List (String × Backend)} {field endpoint : String}
    (checked : checkPKIEndpoint env l field endpoint = .ok ())
    (same : l.map (fun e => (e.1, e.2.mode)) = m.map (fun e => (e.1, e.2.mode))) :
    checkPKIEndpoint env m field endpoint = .ok () := by
  unfold checkPKIEndpoint at checked ⊢
  by_cases empty : endpoint = ""
  · rw [if_pos empty]
  rw [if_neg empty] at checked ⊢
  simp only [except_bind_eq_ok, wrapError_eq_ok] at checked ⊢
  obtain ⟨host, parsed, checked⟩ := checked
  refine ⟨host, parsed, ?_⟩
  have modes := lookup_mode_congr same (k := host)
  rcases found : l.lookup host with _ | be <;> rw [found] at checked modes
  · cases checked
  · obtain ⟨be', found', sameMode⟩ := Option.map_eq_some'.mp modes.symm
    rw [found']
    simpa [sameMode] using checked

omit norm in
theorem checkPKI_fixpoint {l m : List (String × Backend)} {i : Nat} {p p' : ConfigPKI}
    {pkis pkis' : List String} (checked : checkPKI env l i p pkis = .ok (p', pkis'))
    (same : l.map (fun e => (e.1, e.2.mode)) = m.map (fun e => (e.1, e.2.mode))) :
    checkPKI env m i p' pkis = .ok (p', pkis') := by
  simp only [checkPKI, except_bind_eq_ok, except_pure_eq_ok, Prod.mk.injEq] at checked ⊢
  obtain ⟨_, registered, _, endpoint, rfl, rfl⟩ := checked
  exact ⟨_, registered, _, checkPKIEndpoint_agree endpoint same, trivial, rfl⟩

/-! ### The second backend loop -/

omit norm in
@[simp] theorem defaultTimeout_defaultTimeout (timeout : Int) :
    defaultTimeout (defaultTimeout timeout) = defaultTimeout timeout := by
  unfold defaultTimeout
  split_ifs <;> simp_all [second]

/-- A checked path override is checked again unchanged, whatever the backend: its mode is
set, so the backend's mode is not read. -/
theorem checkPathOverride_fixpoint {pkis : List String} {be z : Backend} {field : String}
    {j : Nat} {po po' : PathOverride}
    (checked : checkPathOverride env pkis be field j po = .ok po') :
    checkPathOverride env pkis z field j po' = .ok po' := by
  simp only [checkPathOverride, except_bind_eq_ok, except_pure_eq_ok, failIf_eq_ok,
    wrapError_eq_ok] at checked ⊢
  obtain ⟨_, nonempty, _, paths, _, httpMode, _, roots, ver, parsed, rfl⟩ := checked
  dsimp only
  have set : env.toUpper (if po.mode = "" then be.mode else po.mode) ≠ "" := by
    rintro empty
    simp [empty, modeHTTP, modeHTTPS] at httpMode
  rw [if_neg set, norm.toUpper_toUpper, norm.idna_idna, defaultTimeout_defaultTimeout]
  exact ⟨(), nonempty, (), paths, (), httpMode, (), roots, ver, parsed, rfl⟩

omit norm in
/-- `AllowIPs` and `DenyIPs` parse the same when the unexported list is already the result:
a `nil` list keeps it, and a set one replaces it. -/
theorem parseIPs_fixpoint {field : String} {cidrs : Option (List String)}
    {current nets : Option (List IPNet)} (parsed : parseIPs env field cidrs current = .ok nets) :
    parseIPs env field cidrs nets = .ok nets := by
  cases cidrs with
  | none =>
    simp only [parseIPs, Except.ok.injEq] at parsed
    rw [← parsed]
    rfl
  | some cidrs => exact parsed

omit norm in
@[simp] theorem defaultRateLimit_defaultRateLimit (limit : Int) :
    (if (if limit = 0 then 5 else limit) = 0 then 5 else if limit = 0 then 5 else limit) =
      if limit = 0 then 5 else limit := by
  split_ifs <;> simp_all

/-- The second backend loop returns a backend it returned unchanged. -/
theorem checkBackend_fixpoint {pkis limits names : List String} {i : Nat} {be be' : Backend}
    (checked : checkBackend env pkis limits names i be = .ok be') :
    checkBackend env pkis limits names i be' = .ok be' := by
  simp only [checkBackend, except_bind_eq_ok, except_pure_eq_ok, failIf_eq_ok,
    wrapError_eq_ok] at checked ⊢
  obtain ⟨_, named, _, addressed, _, localEmpty, _, limited, _, clientAuth, _, sso, _, roots,
    allow, allowed, deny, denied, ver, parsed, _, http, overrides, loop, rfl⟩ := checked
  dsimp only
  simp only [norm.idna_idna, defaultTimeout_defaultTimeout, defaultRateLimit_defaultRateLimit]
  have sameEmpty : overrides = [] ↔ be.pathOverrides = [] := by
    rw [← List.length_eq_zero, ← List.length_eq_zero,
      (rangeMap_forall₂ (R := fun _ _ => True) (fun _ _ _ _ => trivial) loop).length_eq]
  exact ⟨(), named, (), addressed, (), localEmpty, (), limited, (), clientAuth, (), sso, (), roots,
    allow, parseIPs_fixpoint allowed, deny, parseIPs_fixpoint denied, ver, parsed, (),
    by simpa only [ne_eq, sameEmpty] using http,
    overrides, rangeMap_fixpoint (R := Eq)
      (fun _ _ _ _ step same => same ▸ checkPathOverride_fixpoint norm step) loop
      (List.forall₂_same.mpr fun _ _ => rfl), rfl⟩

omit norm in
theorem registerServerNames_modeFields {i : Nat} {be be' : Backend} {t t' : NameTables}
    (registered : registerServerNames env i be t = .ok (be', t')) :
    be'.modeFields = be.modeFields := by
  rw [registerServerNames_frame registered]
  rfl

omit norm in
theorem checkBackend_modeFields {pkis limits names : List String} {i : Nat} {be be' : Backend}
    (checked : checkBackend env pkis limits names i be = .ok be') :
    be'.modeFields = be.modeFields := by
  simp only [checkBackend, except_bind_eq_ok, except_pure_eq_ok] at checked
  obtain ⟨_, -, _, -, _, -, _, -, _, -, _, -, _, -, _, -, _, -, _, -, _, -, _, -, rfl⟩ := checked
  rfl

omit norm in
theorem checkBWLimit_fixpoint {i : Nat} {l l' : BWLimit} {names names' : List String}
    (checked : checkBWLimit env i l names = .ok (l', names')) :
    checkBWLimit env i l' names = .ok (l', names') := by
  have copy := checked
  simp only [checkBWLimit, except_bind_eq_ok, except_pure_eq_ok, Prod.mk.injEq] at copy
  obtain ⟨_, _, rfl, -⟩ := copy
  exact checked

/-! ### Defaults and the whole of `Check` -/

omit norm in
theorem defaultCacheDir_fixpoint {dir dir' : String} (set : defaultCacheDir env dir = .ok dir') :
    defaultCacheDir env dir' = .ok dir' := by
  by_cases empty : dir' = ""
  · by_cases original : dir = ""
    · subst empty original
      exact set
    · simp only [defaultCacheDir, ne_eq, original, not_false_eq_true, if_true,
        Except.ok.injEq] at set
      exact absurd (set.trans empty) original
  · simp [defaultCacheDir, empty]

omit norm in
theorem defaultMaxOpen_fixpoint {maxOpen maxOpen' : Int}
    (set : defaultMaxOpen env maxOpen = .ok maxOpen') :
    defaultMaxOpen env maxOpen' = .ok maxOpen' := by
  by_cases zero : maxOpen' = 0
  · by_cases original : maxOpen = 0
    · subst zero original
      exact set
    · simp only [defaultMaxOpen, ne_eq, original, not_false_eq_true, if_true,
        Except.ok.injEq] at set
      exact absurd (set.trans zero) original
  · simp [defaultMaxOpen, zero]

omit norm in
/-- The fields `setDefaults` fills in. -/
def Config.defaultFields (cfg : Config) : String × String × Int × Option Bool × String :=
  (cfg.cacheDir, cfg.tlsAddr, cfg.maxOpen, cfg.enableQUIC, cfg.defaultServerName)

/-- `setDefaults` keeps any configuration whose defaulted fields are those it set before. -/
theorem setDefaults_fixpoint {cfg d c : Config} (defaults : cfg.setDefaults env = .ok d)
    (same : c.defaultFields = d.defaultFields) : c.setDefaults env = .ok c := by
  simp only [Config.setDefaults, except_bind_eq_ok, except_pure_eq_ok, failIf_eq_ok]
    at defaults ⊢
  obtain ⟨cacheDir, cached, maxOpen, opened, _, quic, rfl⟩ := defaults
  simp only [Config.defaultFields, Prod.mk.injEq] at same
  obtain ⟨cache, addr, limit, enable, server⟩ := same
  refine ⟨_, cache ▸ defaultCacheDir_fixpoint cached, _, limit ▸ defaultMaxOpen_fixpoint opened,
    (), by simpa [enable] using quic, ?_⟩
  cases c
  simp only at cache addr limit enable server ⊢
  subst cache addr limit enable server
  by_cases noAddr : cfg.tlsAddr = "" <;> simp [noAddr, norm.idna_idna]

/-- `Check` is idempotent: on a platform whose normalizations are idempotent, it accepts
every configuration it returned, and returns it unchanged. -/
theorem check_check {cfg cfg' : Config} (checked : cfg.check env = .ok cfg') :
    cfg'.check env = .ok cfg' := by
  obtain ⟨trace⟩ := check_eq_ok checked
  have result := trace.result
  have defaults : cfg'.setDefaults env = .ok cfg' :=
    setDefaults_fixpoint norm trace.defaults_eq ((congrArg Config.defaultFields result).trans rfl)
  -- the first backend loop meets each checked backend with the fields it set
  have modeLoop :
      rangeMap (checkMode env (cfg'.enableQUIC = some true)) 0 cfg'.backends =
        .ok cfg'.backends := by
    have named := (rangeLoop_forall₂ (R := fun be be' => be'.modeFields = be.modeFields)
      (fun _ => True) (fun _ _ _ _ _ _ step => ⟨registerServerNames_modeFields step, trivial⟩)
      trivial trace.name_loop).1
    have checked := rangeMap_forall₂ (R := fun be be' => be'.modeFields = be.modeFields)
      (fun _ _ _ step => checkBackend_modeFields step) trace.backend_loop
    rw [show cfg'.enableQUIC = trace.defaults.enableQUIC from
      (congrArg Config.enableQUIC result).trans rfl]
    have related : List.Forall₂ (fun y z => z.modeFields = y.modeFields) trace.modes
        cfg'.backends :=
      forall₂_trans (fun _ _ _ first second => second.trans first) named checked
    have fixed : ∀ i x y z, checkMode env (trace.defaults.enableQUIC = some true) i x = .ok y →
        z.modeFields = y.modeFields →
          checkMode env (trace.defaults.enableQUIC = some true) i z = .ok z :=
      fun _ _ _ _ step same => checkMode_fixpoint norm step same
    exact rangeMap_fixpoint fixed trace.mode_loop related
  -- the server-name loop records the checked backends, which agree on names and modes
  have renamed : List.Forall₂ (fun y z => z.serverNames = y.serverNames ∧ z.mode = y.mode ∧
      z.alpnProtos = y.alpnProtos) trace.named cfg'.backends :=
    rangeMap_forall₂ (fun _ _ _ step =>
      have c := checkBackend_checked step
      ⟨c.serverNames_eq, c.mode_eq, c.alpnProtos_eq⟩) trace.backend_loop
  have fixed : ∀ i x s y s' z r, registerServerNames env i x s = .ok (y, s') →
      z.serverNames = y.serverNames ∧ z.mode = y.mode ∧ z.alpnProtos = y.alpnProtos →
        s.Agree r → ∃ r', registerServerNames env i z r = .ok (z, r') ∧ s'.Agree r' :=
    fun _ _ _ _ _ _ _ step same agree =>
      registerServerNames_fixpoint norm step same.1 same.2.1 same.2.2 agree
  obtain ⟨tables, nameLoop, agree⟩ : ∃ tables, rangeLoop (registerServerNames env) 0
      cfg'.backends ⟨[], []⟩ = .ok (cfg'.backends, tables) ∧ trace.tables.Agree tables :=
    rangeLoop_fixpoint fixed trace.name_loop renamed ⟨rfl, rfl⟩
  obtain ⟨pkis, pkiLoop, rfl⟩ : ∃ pkis, rangeLoop (checkPKI env tables.serverNames) 0 cfg'.pki [] =
      .ok (cfg'.pki, pkis) ∧ trace.pkis = pkis :=
    rangeLoop_fixpoint (R := Eq) (S := Eq)
      (fun _ _ _ _ _ _ _ step same same' => by
        subst same same'
        exact ⟨_, checkPKI_fixpoint step agree.1, rfl⟩)
      trace.pki_loop (List.forall₂_same.mpr fun _ _ => rfl) rfl
  have mkdir : env.mkdirAll cfg'.cacheDir = .ok () := by
    rw [show cfg'.cacheDir = trace.defaults.cacheDir from
      (congrArg Config.cacheDir result).trans rfl]
    exact trace.mkdir
  have oidc : rangeLoop (checkOIDC env) 0 cfg'.oidcProviders [] =
      .ok (cfg'.oidcProviders, trace.oidcNames) :=
    rangeLoop_fixpoint_eq trace.oidc_loop fun _ _ _ _ _ => checkOIDC_fixpoint norm
  have saml : rangeLoop (checkSAML env) 0 cfg'.samlProviders trace.oidcNames =
      .ok (cfg'.samlProviders, trace.samlNames) :=
    rangeLoop_fixpoint_eq trace.saml_loop fun _ _ _ _ _ => checkSAML_fixpoint norm
  have passkey : rangeLoop (checkPasskey env) 0 cfg'.passkeyProviders trace.samlNames =
      .ok (cfg'.passkeyProviders, trace.names) :=
    rangeLoop_fixpoint_eq trace.passkey_loop fun _ _ _ _ _ => checkPasskey_fixpoint norm
  have bwLimit : rangeLoop (checkBWLimit env) 0 cfg'.bwLimits [] =
      .ok (cfg'.bwLimits, trace.limits) :=
    rangeLoop_fixpoint_eq trace.bwLimit_loop fun _ _ _ _ _ => checkBWLimit_fixpoint
  have backend : rangeMap (checkBackend env trace.pkis trace.limits trace.names) 0 cfg'.backends =
      .ok cfg'.backends :=
    rangeMap_fixpoint (R := Eq) (fun _ _ _ _ step same => same ▸ checkBackend_fixpoint norm step)
      trace.backend_loop (List.forall₂_same.mpr fun _ _ => rfl)
  simp only [Config.check, defaults, except_ok_bind, oidc, saml, passkey, modeLoop, nameLoop,
    pkiLoop, bwLimit, backend, mkdir]
  rfl

omit norm

/-! ### The example platform -/

theorem char_toNat_ofNat {n : Nat} (small : n < 55296) : (Char.ofNat n).toNat = n := by
  have valid : n.isValidChar := Or.inl small
  simp [Char.ofNat, valid, Char.ofNatAux, Char.toNat, UInt32.toNat, BitVec.toNat_ofNatLt]

theorem char_toUpper_toUpper (c : Char) : c.toUpper.toUpper = c.toUpper := by
  unfold Char.toUpper
  by_cases lower : c.toNat ≥ 97 ∧ c.toNat ≤ 122
  · rw [if_pos lower, char_toNat_ofNat (by omega), if_neg (by omega)]
  · rw [if_neg lower, if_neg lower]

/-- ASCII case mapping and the identity for IDNA are idempotent. -/
theorem examplePlatform_normalizing : examplePlatform.Normalizing where
  idna_idna _ := rfl
  toUpper_toUpper s := by
    simp [examplePlatform, String.toList, Function.comp_def, char_toUpper_toUpper]
  toUpper_tcp := by decide

theorem check_check_exampleConfig :
    examplePlatform.Normalizing ∧ exampleConfig.check examplePlatform = .ok exampleChecked ∧
      exampleChecked.check examplePlatform = .ok exampleChecked :=
  have checked : exampleConfig.check examplePlatform = .ok exampleChecked := rfl
  ⟨examplePlatform_normalizing, checked, check_check examplePlatform_normalizing checked⟩

end TlsProxy
