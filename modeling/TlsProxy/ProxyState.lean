import TlsProxy.RangeLoops

/-!
# The state of the TLS proxy

`package internal` (`proxy.go`) runs the proxy: `Reconfigure` publishes a server-name
mapping, every accepted connection is handled by its own goroutine, and `Backend.dial`
picks upstream addresses round robin.  This file holds the state those functions share.
The declarations of `Config` and `Backend` are in a file of the package that is not
part of this development; their fields here are the ones `proxy.go` reads and writes.
A `*Backend` is represented by its value: the fields `Reconfigure` sets are set before
the backend is published, and `next`, the one field written afterwards, is modelled
with `dial`.
-/

namespace TlsProxy.Internal

/-- `*x509.CertPool`: the certificates parsed from a PEM bundle. -/
structure CertPool where
  certs : List String
  deriving DecidableEq, Repr

/-- The `tls.ClientAuthType`s this package uses. -/
inductive ClientAuthType
  | noClientCert
  | requireAndVerifyClientCert
  deriving DecidableEq, Repr

/-- The fields of a `*tls.Config` that this package sets besides `GetCertificate`. -/
structure TLSConfig where
  clientAuth : ClientAuthType
  clientCAs : Option CertPool
  deriving DecidableEq, Repr

/-- A backend.  `tlsConfig`, `forwardRootPool` (the unexported `forwardRootCAs`) and `next`
are unexported; the others are read from the configuration document. -/
structure Backend where
  serverNames : List String
  addresses : List String
  useTLS : Bool
  insecureSkipVerify : Bool
  forwardServerName : String
  forwardRootCAs : String
  forwardTimeout : Int
  clientAuth : Bool
  clientCAs : String
  tlsConfig : Option TLSConfig
  forwardRootPool : Option CertPool
  next : Nat
  deriving DecidableEq, Repr

structure Config where
  httpAddr : String
  tlsAddr : String
  cacheDir : String
  email : String
  maxOpen : Int
  backends : List Backend
  deriving DecidableEq, Repr

/-- The calls `proxy.go` makes outside the package: `os.ReadFile`, the certificates that
`AppendCertsFromPEM` finds in a byte string, `yaml.Marshal` with its error ignored as the
source ignores it, and the `%q` verb of `fmt`. -/
structure Runtime where
  readFile : String → Except String String
  pemCerts : String → List String
  marshal : Option Config → String
  quote : String → String

/-- `loadCerts`: a file name when `s` starts with `/`, else PEM text. -/
def loadCerts (rt : Runtime) (s : String) : Except String CertPool := do
  let b ← if s.length > 0 ∧ s.get 0 = '/' then rt.readFile s else pure s
  let certs := rt.pemCerts b
  if certs = [] then throw "invalid certs" else pure ⟨certs⟩

/-- The fields of `Proxy` that reconfiguration and the connection handlers use:
`p.cfg`, `p.mapping` and `p.numOpen`. -/
structure Proxy where
  cfg : Option Config
  mapping : String → Option Backend
  numOpen : Int

/-- `p.backend(sni)`: the mapping's backend for `sni`. -/
def Proxy.backend (rt : Runtime) (p : Proxy) (sni : String) : Except String Backend :=
  match p.mapping sni with
  | none => .error ("unexpected SNI: " ++ rt.quote sni)
  | some be => .ok be

theorem Proxy.backend_eq_ok {rt : Runtime} {p : Proxy} {sni : String} {be : Backend} :
    p.backend rt sni = .ok be ↔ p.mapping sni = some be := by
  unfold Proxy.backend
  split <;> simp_all

theorem Proxy.backend_eq_error {rt : Runtime} {p : Proxy} {sni : String} :
    p.backend rt sni = .error ("unexpected SNI: " ++ rt.quote sni) ↔ p.mapping sni = none := by
  unfold Proxy.backend
  split <;> simp_all

end TlsProxy.Internal
