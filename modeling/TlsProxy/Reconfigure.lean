import TlsProxy.ProxyState

/-!
# Reconfiguration

`Reconfigure` does nothing when the new configuration serializes as the current one.
Otherwise it walks the new backends in order: every server name of a backend is mapped
to it, a backend with client authentication gets a TLS configuration that requires and
verifies client certificates, and certificates named by `ClientCAs` and `ForwardRootCAs`
are loaded.  The first certificate that fails to load ends the call with its error and
nothing published; otherwise the mapping and the configuration are replaced together.
So a server name is routed to the last backend that lists it.
-/

namespace TlsProxy.Internal

variable (rt : Runtime)

/-- The TLS configuration `Reconfigure` gives a backend with `ClientAuth` set. -/
def Backend.clientTLSConfig (be : Backend) : Except String TLSConfig :=
  if be.clientCAs ≠ "" then
    (fun pool => ⟨.requireAndVerifyClientCert, some pool⟩) <$> loadCerts rt be.clientCAs
  else .ok ⟨.requireAndVerifyClientCert, none⟩

/-- `be.tlsConfig` after the loop: set for a backend with `ClientAuth`, kept otherwise. -/
def Backend.loadTLSConfig (be : Backend) : Except String (Option TLSConfig) :=
  if be.clientAuth then some <$> be.clientTLSConfig rt else .ok be.tlsConfig

/-- The pool `Reconfigure` loads from `ForwardRootCAs` when it is set. -/
def Backend.loadForwardRootCAs (be : Backend) : Except String (Option CertPool) :=
  if be.forwardRootCAs ≠ "" then some <$> loadCerts rt be.forwardRootCAs
  else .ok be.forwardRootPool

/-- The unexported fields the loop of `Reconfigure` sets on one backend. -/
def Backend.prepare (be : Backend) : Except String Backend := do
  let tlsConfig ← be.loadTLSConfig rt
  let forwardRootPool ← be.loadForwardRootCAs rt
  pure { be with tlsConfig, forwardRootPool }

/-- `for _, sn := range be.ServerNames { mapping[sn] = be }`. -/
def insertNames (be : Backend) : List String → (String → Option Backend) → String → Option Backend
  | [], mapping => mapping
  | sn :: names, mapping => insertNames be names fun k => if k = sn then some be else mapping k

/-- The loop of `Reconfigure` over `cfg.Backends`: the backends with their unexported fields
set and the new mapping, or the first certificate error. -/
def buildMapping : List Backend → (String → Option Backend) →
    Except String (List Backend × (String → Option Backend))
  | [], mapping => .ok ([], mapping)
  | be :: bes, mapping => do
    let be ← be.prepare rt
    let (bes, mapping) ← buildMapping bes (insertNames be be.serverNames mapping)
    pure (be :: bes, mapping)

/-- `Reconfigure`: the error it returns, if any, and the proxy after the call. -/
def Proxy.reconfigure (p : Proxy) (cfg : Config) : Option String × Proxy :=
  if rt.marshal p.cfg = rt.marshal (some cfg) then (none, p)
  else
    match buildMapping rt cfg.backends fun _ => none with
    | .error e => (some e, p)
    | .ok (backends, mapping) => (none, { p with mapping, cfg := some { cfg with backends } })

/-- `New`: a proxy with no configuration, reconfigured with `cfg`; the error of that
`Reconfigure` is dropped. -/
def Proxy.new (cfg : Config) : Proxy :=
  (Proxy.reconfigure rt ⟨none, fun _ => none, 0⟩ cfg).2

/-- `be` is the last backend of `bes` whose server names include `sn`. -/
def IsLastServing (bes : List Backend) (sn : String) (be : Backend) : Prop :=
  ∃ earlier later, bes = earlier ++ be :: later ∧ sn ∈ be.serverNames ∧
    ∀ b ∈ later, sn ∉ b.serverNames

/-- `prepare` fails only with the error of a certificate that does not load. -/
def CertsFail (be : Backend) (e : String) : Prop :=
  (be.clientAuth ∧ be.clientCAs ≠ "" ∧ loadCerts rt be.clientCAs = .error e) ∨
    (be.forwardRootCAs ≠ "" ∧ loadCerts rt be.forwardRootCAs = .error e)

/-- The backend as the loop of `Reconfigure` leaves it when its certificates load: with
`ClientAuth` it requires and verifies client certificates, against the pool loaded from
`ClientCAs` when that is set, and the pool loaded from `ForwardRootCAs`, when that is set,
becomes its forward roots. -/
def Backend.loaded (be : Backend) : Backend :=
  { be with
    tlsConfig := if be.clientAuth then
        some ⟨.requireAndVerifyClientCert,
          if be.clientCAs = "" then none else (loadCerts rt be.clientCAs).toOption⟩
      else be.tlsConfig
    forwardRootPool := if be.forwardRootCAs = "" then be.forwardRootPool
      else (loadCerts rt be.forwardRootCAs).toOption }

@[simp] theorem Backend.loaded_serverNames (be : Backend) :
    (be.loaded rt).serverNames = be.serverNames := rfl

variable {rt}

theorem insertNames_apply (be : Backend) :
    ∀ (names : List String) (mapping : String → Option Backend) (sn : String),
      insertNames be names mapping sn = if sn ∈ names then some be else mapping sn
  | [], _, _ => by simp [insertNames]
  | name :: names, mapping, sn => by
    rw [insertNames, insertNames_apply be names]
    by_cases named : sn ∈ names <;> by_cases same : sn = name <;> simp [named, same]

theorem loadTLSConfig_eq_ok {be : Backend} {tlsConfig : Option TLSConfig}
    (loaded : be.loadTLSConfig rt = .ok tlsConfig) : tlsConfig = (be.loaded rt).tlsConfig := by
  unfold Backend.loadTLSConfig Backend.clientTLSConfig at loaded
  cases pool : loadCerts rt be.clientCAs <;> split_ifs at loaded <;>
    simp_all [Backend.loaded, Functor.map, Except.map, Except.toOption]

theorem loadForwardRootCAs_eq_ok {be : Backend} {roots : Option CertPool}
    (loaded : be.loadForwardRootCAs rt = .ok roots) : roots = (be.loaded rt).forwardRootPool := by
  unfold Backend.loadForwardRootCAs at loaded
  cases pool : loadCerts rt be.forwardRootCAs <;> split_ifs at loaded <;>
    simp_all [Backend.loaded, Functor.map, Except.map, Except.toOption]

/-- `prepare` succeeds only with the backend of `Backend.loaded`. -/
theorem prepare_eq_ok_loaded {be be' : Backend} (prepared : be.prepare rt = .ok be') :
    be' = be.loaded rt := by
  simp only [Backend.prepare, except_bind_eq_ok, except_pure_eq_ok] at prepared
  obtain ⟨tlsConfig, tls, forwardRootPool, roots, rfl⟩ := prepared
  rw [loadTLSConfig_eq_ok tls, loadForwardRootCAs_eq_ok roots]
  rfl

/-- `prepare` sets the unexported fields and nothing else. -/
theorem prepare_eq_ok {be be' : Backend} (prepared : be.prepare rt = .ok be') :
    ∃ tlsConfig forwardRootPool, be' = { be with tlsConfig, forwardRootPool } :=
  ⟨_, _, prepare_eq_ok_loaded prepared⟩

theorem loadTLSConfig_eq_error {be : Backend} {e : String}
    (failed : be.loadTLSConfig rt = .error e) :
    be.clientAuth ∧ be.clientCAs ≠ "" ∧ loadCerts rt be.clientCAs = .error e := by
  unfold Backend.loadTLSConfig Backend.clientTLSConfig at failed
  cases loaded : loadCerts rt be.clientCAs <;> split_ifs at failed <;>
    simp_all [Functor.map, Except.map]

theorem loadForwardRootCAs_eq_error {be : Backend} {e : String}
    (failed : be.loadForwardRootCAs rt = .error e) :
    be.forwardRootCAs ≠ "" ∧ loadCerts rt be.forwardRootCAs = .error e := by
  unfold Backend.loadForwardRootCAs at failed
  cases loaded : loadCerts rt be.forwardRootCAs <;> split_ifs at failed <;>
    simp_all [Functor.map, Except.map]

theorem prepare_eq_error {be : Backend} {e : String} (failed : be.prepare rt = .error e) :
    CertsFail rt be e := by
  unfold Backend.prepare at failed
  cases tls : be.loadTLSConfig rt with
  | error e' =>
    simp only [tls, bind, Except.bind, Except.error.injEq] at failed
    exact .inl (failed ▸ loadTLSConfig_eq_error tls)
  | ok tlsConfig =>
    cases roots : be.loadForwardRootCAs rt with
    | error e' =>
      simp only [tls, roots, bind, Except.bind, Except.error.injEq] at failed
      exact .inr (failed ▸ loadForwardRootCAs_eq_error roots)
    | ok pool => simp [tls, roots, bind, Except.bind, pure, Except.pure] at failed

theorem prepare_fails_of_certsFail {be : Backend} {e : String} (fails : CertsFail rt be e) :
    ∃ e', be.prepare rt = .error e' := by
  unfold Backend.prepare
  cases tls : be.loadTLSConfig rt with
  | error e' => exact ⟨e', by simp [tls, bind, Except.bind]⟩
  | ok tlsConfig =>
    rcases fails with ⟨auth, set, loaded⟩ | ⟨set, loaded⟩
    · simp [Backend.loadTLSConfig, Backend.clientTLSConfig, auth, set, loaded, Functor.map,
        Except.map] at tls
    · exact ⟨e, by simp [tls, Backend.loadForwardRootCAs, set, loaded, bind, Except.bind,
        Functor.map, Except.map]⟩

theorem not_certsFail_of_prepare_eq_ok {be be' : Backend} (prepared : be.prepare rt = .ok be')
    (e : String) : ¬CertsFail rt be e := fun fails => by
  obtain ⟨e', failed⟩ := prepare_fails_of_certsFail fails
  simp [failed] at prepared

/-- The backends the loop prepared are those of `Backend.loaded`, none of them with a
certificate that fails to load. -/
theorem prepared_eq_map_loaded {bes bes' : List Backend}
    (related : List.Forall₂ (fun be be' => be.prepare rt = .ok be') bes bes') :
    bes' = bes.map (·.loaded rt) ∧ ∀ be ∈ bes, ∀ e, ¬CertsFail rt be e := by
  induction related with
  | nil => simp
  | cons prepared _ ih =>
    rw [prepare_eq_ok_loaded prepared, ih.1]
    exact ⟨rfl, List.forall_mem_cons.2 ⟨not_certsFail_of_prepare_eq_ok prepared, ih.2⟩⟩

theorem buildMapping_eq_ok :
    ∀ {bes bes' : List Backend} {mapping mapping' : String → Option Backend},
    buildMapping rt bes mapping = .ok (bes', mapping') →
      List.Forall₂ (fun be be' => be.prepare rt = .ok be') bes bes' ∧
        ∀ sn, mapping' sn = (bes'.reverse.find? fun be => sn ∈ be.serverNames).or (mapping sn)
  | [], _, _, _, built => by
    simp only [buildMapping, Except.ok.injEq, Prod.mk.injEq] at built
    obtain ⟨rfl, rfl⟩ := built
    simp
  | be :: bes, bes', mapping, mapping', built => by
    simp only [buildMapping, except_bind_eq_ok, except_pure_eq_ok] at built
    obtain ⟨b, prepared, ⟨bs, m⟩, built, result⟩ := built
    obtain ⟨rfl, rfl⟩ := Prod.mk.inj result
    obtain ⟨related, lookup⟩ := buildMapping_eq_ok built
    refine ⟨.cons prepared related, fun sn => ?_⟩
    dsimp only
    rw [lookup, List.reverse_cons, List.find?_append, Option.or_assoc, insertNames_apply]
    by_cases listed : sn ∈ b.serverNames <;> simp [listed]

/-- The loop fails with the error of the first backend whose certificates do not load. -/
theorem buildMapping_eq_error : ∀ {bes : List Backend} {mapping : String → Option Backend}
    {e : String}, buildMapping rt bes mapping = .error e →
      ∃ earlier be later, bes = earlier ++ be :: later ∧
        (∀ b ∈ earlier, ∀ e', ¬CertsFail rt b e') ∧ CertsFail rt be e
  | [], _, _, built => nomatch built
  | be :: bes, mapping, e, built => by
    cases prepared : be.prepare rt with
    | error e' =>
      simp only [buildMapping, prepared, bind, Except.bind, Except.error.injEq] at built
      exact ⟨[], be, bes, rfl, by simp, built ▸ prepare_eq_error prepared⟩
    | ok b =>
      cases rest : buildMapping rt bes (insertNames b b.serverNames mapping) with
      | error e' =>
        simp only [buildMapping, prepared, rest, bind, Except.bind, Except.error.injEq] at built
        obtain ⟨earlier, be', later, rfl, clean, fails⟩ := buildMapping_eq_error rest
        exact ⟨be :: earlier, be', later, rfl,
          List.forall_mem_cons.2 ⟨not_certsFail_of_prepare_eq_ok prepared, clean⟩, built ▸ fails⟩
      | ok r => simp [buildMapping, prepared, rest, bind, Except.bind, pure, Except.pure] at built

theorem find?_reverse_eq_some {bes : List Backend} {sn : String} {be : Backend} :
    (bes.reverse.find? fun b => sn ∈ b.serverNames) = some be ↔ IsLastServing bes sn be := by
  rw [List.find?_eq_some]
  constructor
  · rintro ⟨listed, later, earlier, split, unlisted⟩
    refine ⟨earlier.reverse, later.reverse, ?_, by simpa using listed, by simpa using unlisted⟩
    rw [← List.reverse_reverse bes, split]
    simp
  · rintro ⟨earlier, later, rfl, listed, unlisted⟩
    exact ⟨by simpa using listed, later.reverse, earlier.reverse, by simp, by simpa using unlisted⟩

theorem serverNames_of_prepared {bes bes' : List Backend}
    (prepared : List.Forall₂ (fun be be' : Backend =>
      ∃ tlsConfig forwardRootPool, be' = { be with tlsConfig, forwardRootPool }) bes bes') :
    bes'.map (·.serverNames) = bes.map (·.serverNames) := by
  induction prepared with
  | nil => rfl
  | cons step _ ih =>
    obtain ⟨_, _, rfl⟩ := step
    simp [ih]

/-- `Reconfigure` keeps the connection counter, and either keeps the configuration or
publishes the new one with its backends prepared. -/
theorem reconfigure_frame (p : Proxy) (c : Config) :
    (p.reconfigure rt c).2.numOpen = p.numOpen ∧
      ((p.reconfigure rt c).2.cfg = p.cfg ∨
        ∃ backends, (p.reconfigure rt c).2.cfg = some { c with backends }) := by
  unfold Proxy.reconfigure
  split_ifs
  · exact ⟨rfl, .inl rfl⟩
  · split
    · exact ⟨rfl, .inl rfl⟩
    · exact ⟨rfl, .inr ⟨_, rfl⟩⟩

/-- The three ways `Reconfigure` ends, each with the condition that selects it.  When the
configuration serializes as the current one, nothing changes.  Otherwise, when a certificate
of some backend fails to load, the call returns the error of the first such backend, wherever
it stands in the list, and the proxy is as it was.  Otherwise the new configuration and
mapping are published together: every backend as `Backend.loaded` leaves it (with
`ClientAuth`, a TLS configuration that requires and verifies client certificates against the
`ClientCAs` pool), and each server name goes to the last backend listing it. -/
theorem reconfigure_outcomes (p : Proxy) (c : Config) :
    (∃ e, p.reconfigure rt c = (some e, p) ∧ rt.marshal p.cfg ≠ rt.marshal (some c) ∧
        ∃ earlier be later, c.backends = earlier ++ be :: later ∧
          (∀ b ∈ earlier, ∀ e', ¬CertsFail rt b e') ∧ CertsFail rt be e) ∨
      (p.reconfigure rt c = (none, p) ∧ rt.marshal p.cfg = rt.marshal (some c)) ∨
      (rt.marshal p.cfg ≠ rt.marshal (some c) ∧ (∀ be ∈ c.backends, ∀ e, ¬CertsFail rt be e) ∧
        ∃ p', p.reconfigure rt c = (none, p') ∧
          p'.cfg = some { c with backends := c.backends.map (·.loaded rt) } ∧
          p'.numOpen = p.numOpen ∧
          ∀ sn, (∀ be, p'.backend rt sn = .ok be ↔
              IsLastServing (c.backends.map (·.loaded rt)) sn be) ∧
            (p'.backend rt sn = .error ("unexpected SNI: " ++ rt.quote sn) ↔
              ∀ be ∈ c.backends, sn ∉ be.serverNames)) := by
  unfold Proxy.reconfigure
  split_ifs with same
  · exact .inr (.inl ⟨rfl, same⟩)
  cases built : buildMapping rt c.backends (fun _ => none) with
  | error e => exact .inl ⟨e, rfl, same, buildMapping_eq_error built⟩
  | ok result =>
    obtain ⟨bes, mapping⟩ := result
    obtain ⟨related, lookup⟩ := buildMapping_eq_ok built
    obtain ⟨rfl, clean⟩ := prepared_eq_map_loaded related
    refine .inr (.inr ⟨same, clean, _, rfl, rfl, rfl, fun sn => ⟨fun be => ?_, ?_⟩⟩)
    · rw [Proxy.backend_eq_ok]
      dsimp only
      rw [lookup, Option.or_none, find?_reverse_eq_some]
    · rw [Proxy.backend_eq_error]
      dsimp only
      rw [lookup, Option.or_none, List.find?_eq_none]
      simp

/-! ### Reconfiguring with the configuration in place

`yaml.Marshal` skips unexported fields, so it does not see the certificates that
`Reconfigure` loads into the backends.  A configuration once in place therefore serializes as
the one it came from, and `Reconfigure` with that configuration returns at its first test:
it reloads nothing, whatever the certificate files hold by then. -/

/-- `yaml.Marshal` writes only exported fields: it does not see what `Reconfigure` sets. -/
def Runtime.MarshalsExported (rt : Runtime) : Prop :=
  ∀ (c : Config) (bes : List Backend),
    List.Forall₂ (fun be be' => ∃ tlsConfig forwardRootPool,
      be' = { be with tlsConfig, forwardRootPool }) c.backends bes →
    rt.marshal (some { c with backends := bes }) = rt.marshal (some c)

/-- After a `Reconfigure` with `c` that returned no error, another `Reconfigure` with `c`
changes nothing and returns no error, on any runtime with the same `yaml.Marshal`: the
certificates are not loaded again, even when the files they came from now fail to load. -/
theorem reconfigure_again_keeps (exported : rt.MarshalsExported) {rt' : Runtime}
    (marshal : rt'.marshal = rt.marshal) {p p' : Proxy} {c : Config}
    (applied : p.reconfigure rt c = (none, p')) : p'.reconfigure rt' c = (none, p') := by
  unfold Proxy.reconfigure at applied
  split_ifs at applied with same
  · cases applied
    simp only [Proxy.reconfigure, marshal, if_pos same]
  · split at applied
    · cases applied
    · rename_i bes mapping built
      cases applied
      have prepared := (buildMapping_eq_ok built).1.imp fun _ _ => prepare_eq_ok
      simp only [Proxy.reconfigure, marshal, exported c bes prepared, if_true]

/-- A runtime whose `yaml.Marshal` writes the server names, and whose one certificate file
is `/etc/ca.pem`. -/
def namesRuntime : Runtime where
  readFile name := if name = "/etc/ca.pem" then .ok "PEM" else .error "open: no such file"
  pemCerts pem := if pem = "" then [] else [pem]
  marshal cfg := match cfg with
    | none => "null"
    | some cfg => toString (cfg.backends.map (·.serverNames))
  quote s := "\"" ++ s ++ "\""

/-- A configuration whose backend forwards with the root certificates of `/etc/ca.pem`. -/
def caConfig : Config :=
  ⟨"", ":443", "", "", 100,
    [⟨["a.example.com"], ["192.0.2.1:443"], true, false, "", "/etc/ca.pem", 0, false, "", none,
      none, 0⟩]⟩

theorem reconfigure_again_keeps_removedFile :
    namesRuntime.MarshalsExported ∧
      ({ namesRuntime with readFile := fun _ => .error "open: no such file" } : Runtime).marshal =
        namesRuntime.marshal ∧
      Proxy.reconfigure namesRuntime ⟨none, fun _ => none, 0⟩ caConfig =
        (none, (Proxy.reconfigure namesRuntime ⟨none, fun _ => none, 0⟩ caConfig).2) ∧
      Proxy.reconfigure { namesRuntime with readFile := fun _ => .error "open: no such file" }
          (Proxy.reconfigure namesRuntime ⟨none, fun _ => none, 0⟩ caConfig).2 caConfig =
        (none, (Proxy.reconfigure namesRuntime ⟨none, fun _ => none, 0⟩ caConfig).2) :=
  have exported : namesRuntime.MarshalsExported := fun _ _ prepared => by
    simp only [namesRuntime, serverNames_of_prepared prepared]
  have applied : Proxy.reconfigure namesRuntime ⟨none, fun _ => none, 0⟩ caConfig =
      (none, (Proxy.reconfigure namesRuntime ⟨none, fun _ => none, 0⟩ caConfig).2) := rfl
  ⟨exported, rfl, applied, reconfigure_again_keeps exported rfl applied⟩

/-! ### `New`

`New` calls `Reconfigure` on a proxy with no configuration and returns the proxy with a nil
error whatever `Reconfigure` returned. -/

/-- `New` leaves the proxy without a configuration exactly when a certificate of `cfg` does
not load; otherwise the proxy is configured from `cfg`, its backends prepared. -/
theorem new_cfg_eq_none_iff (cfg : Config) (fresh : rt.marshal none ≠ rt.marshal (some cfg)) :
    ((Proxy.new rt cfg).cfg = none ↔ ∃ be ∈ cfg.backends, ∃ e, CertsFail rt be e) ∧
      ∀ c, (Proxy.new rt cfg).cfg = some c → ∃ backends, c = { cfg with backends } := by
  unfold Proxy.new Proxy.reconfigure
  rw [if_neg fresh]
  cases built : buildMapping rt cfg.backends fun _ => none with
  | error e =>
    obtain ⟨earlier, be, later, split, -, fails⟩ := buildMapping_eq_error built
    simpa using ⟨be, by simp [split], e, fails⟩
  | ok result =>
    refine ⟨?_, fun c configured => ⟨result.1, by simpa [eq_comm] using configured⟩⟩
    simpa using (prepared_eq_map_loaded (buildMapping_eq_ok built).1).2

end TlsProxy.Internal
