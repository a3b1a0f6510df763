import TlsProxy.ConnectionHandling
import TlsProxy.ShutdownRace

/-!
# Starting the proxy

`Start` first reads `p.cfg.HTTPAddr`, so on a proxy whose configuration is nil it
dereferences a nil pointer.  `New` returns such a proxy, with a nil error, when a certificate
of its configuration does not load.  Otherwise `Start` listens on the HTTP address, if one
is set, and on the TLS address, and leaves two goroutines running: the one that closes the
listeners once the context is cancelled (`Shutdown`), and the accept loop.

The accept loop has no exit.  An error of `Accept` is logged and the loop continues, so once
the listener is closed every pass fails at once and the goroutine never stops.
-/

namespace TlsProxy.Internal

/-- `net.Listen("tcp", addr)` for the HTTP server and `tls.Listen("tcp", addr, ...)`: the
error of each, if any, and the address the TLS listener is bound to, as `listener.Addr()`
prints it. -/
structure Network where
  listen : String → Except String Unit
  listenTLS : String → Except String String

/-- How `Start` ends: the nil-pointer panic of `p.cfg.HTTPAddr`, the error of a listen, or
the goroutines started, with an HTTP server when `HTTPAddr` is set and the TLS listener at
`addr`. -/
inductive StartOutcome
  | nilDereference
  | error (e : String)
  | started (hasHTTP : Bool) (addr : String)
  deriving DecidableEq, Repr

/-- `Start` up to the goroutines it leaves running. -/
def Proxy.start (net : Network) (p : Proxy) : StartOutcome :=
  match p.cfg with
  | none => .nilDereference
  | some cfg =>
    match (if cfg.httpAddr ≠ "" then net.listen cfg.httpAddr else .ok ()) with
    | .error e => .error e
    | .ok () =>
      match net.listenTLS cfg.tlsAddr with
      | .error e => .error e
      | .ok addr => .started (cfg.httpAddr != "") addr

theorem start_eq_nilDereference {net : Network} {p : Proxy} :
    p.start net = .nilDereference ↔ p.cfg = none := by
  unfold Proxy.start
  split
  · simp_all
  · split
    · simp_all
    · split <;> simp_all

variable {rt : Runtime}

/-- `Start` on the proxy that `New` returns dereferences a nil configuration exactly when a
certificate of the configuration does not load, though `New` returned no error. -/
theorem new_start_panics_iff (net : Network) (cfg : Config)
    (fresh : rt.marshal none ≠ rt.marshal (some cfg)) :
    (Proxy.new rt cfg).start net = .nilDereference ↔
      ∃ be ∈ cfg.backends, ∃ e, CertsFail rt be e :=
  start_eq_nilDereference.trans (new_cfg_eq_none_iff cfg fresh).1

/-- A backend with client authentication whose `ClientCAs` file does not exist. -/
def missingCAsConfig : Config :=
  { webConfig 100 true with
    backends := [{ webBackend true with clientCAs := "/etc/tlsproxy/client-ca.pem" }] }

theorem new_start_panics_iff_missingCAs :
    exampleRuntime.marshal none ≠ exampleRuntime.marshal (some missingCAsConfig) ∧
      ((Proxy.new exampleRuntime missingCAsConfig).start
          ⟨fun _ => .ok (), fun _ => .ok "[::]:443"⟩ =
          .nilDereference ↔
        ∃ be ∈ missingCAsConfig.backends, ∃ e, CertsFail exampleRuntime be e) :=
  ⟨by decide, new_start_panics_iff _ missingCAsConfig (by decide)⟩

/-- `Reconfigure` fails on `missingCAsConfig`, but `New` drops the error and returns a proxy
with no configuration, on which `Start` dereferences nil, whatever the network does. -/
theorem new_drops_reconfigure_error :
    (Proxy.reconfigure exampleRuntime ⟨none, fun _ => none, 0⟩ missingCAsConfig).1 =
        some "open: no such file or directory" ∧
      (Proxy.new exampleRuntime missingCAsConfig).cfg = none ∧
      ∀ net, (Proxy.new exampleRuntime missingCAsConfig).start net = .nilDereference :=
  ⟨rfl, rfl, fun _ => rfl⟩

/-! ### The accept loop -/

/-- The error `Accept` returns once the listener at `addr` is closed, as `%v` prints it: the
`*net.OpError` of the TCP listener's `accept`, wrapping `net.ErrClosed`. -/
def errClosed (addr : String) : String :=
  "accept tcp " ++ addr ++ ": use of closed network connection"

/-- The TLS listener as `Accept` sees it: its address, closed or not, and the connections
waiting. -/
structure Listener where
  addr : String
  closed : Bool
  backlog : List Nat

/-- `listener.Accept()`: the error of a closed listener, or the next waiting connection;
`none` while it blocks. -/
def Listener.accept (l : Listener) : Option (Except String Nat × Listener) :=
  if l.closed then some (.error (errClosed l.addr), l)
  else
    match l.backlog with
    | [] => none
    | conn :: rest => some (.ok conn, { l with backlog := rest })

/-- What the accept goroutine has done: its log lines, and the connections it passed to
`handleConnection`, each in a goroutine of its own. -/
structure AcceptLoop where
  log : List String
  handled : List Nat
  deriving DecidableEq, Repr

/-- The body of `for { ... }` after `Accept` returned: log the error and `continue`, or
start `handleConnection`. -/
def AcceptLoop.pass (g : AcceptLoop) : Except String Nat → AcceptLoop
  | .error err => { g with log := g.log ++ ["ERR Accept: " ++ err] }
  | .ok conn => { g with handled := g.handled ++ [conn] }

/-- The goroutines `Start` leaves running: the shutdown goroutine and a call of `Stop`, the
address of the TLS listener and the connections waiting in it, and the accept loop.  The
listener is closed once the shutdown goroutine has closed it. -/
structure Started where
  shutdown : Shutdown
  addr : String
  backlog : List Nat
  loop : AcceptLoop
  deriving DecidableEq, Repr

/-- A step of the shutdown machine, a client connecting, or one pass of the accept loop. -/
inductive StartedAction
  | shutdown (a : ShutdownAction)
  | connect (conn : Nat)
  | accept
  deriving DecidableEq, Repr

def Started.listener (w : Started) : Listener :=
  ⟨w.addr, w.shutdown.listenerClosed, w.backlog⟩

/-- Nothing runs once the process has died. -/
def Started.step (w : Started) : StartedAction → Option Started
  | .shutdown a => (w.shutdown.step a).map fun s => { w with shutdown := s }
  | .connect conn =>
    if w.shutdown.crashed ∨ w.shutdown.listenerClosed then none
    else some { w with backlog := w.backlog ++ [conn] }
  | .accept =>
    if w.shutdown.crashed then none
    else w.listener.accept.map fun (result, l) =>
      { w with backlog := l.backlog, loop := w.loop.pass result }

def Started.run (w : Started) : List StartedAction → Option Started
  | [] => some w
  | a :: acts => (w.step a).bind (·.run acts)

/-- Right after `Start` returned with the TLS listener at `addr`; the accept loop has logged
where it accepts. -/
def Started.start (hasHTTP : Bool) (addr : String) : Started :=
  ⟨Shutdown.start hasHTTP, addr, [], ⟨["INFO Accepting TLS connections on " ++ addr], []⟩⟩

/-- The goroutine wakes only on a cancelled context, and once it has closed the listener
the process is alive: `Stop` alone cannot kill it then. -/
structure ClosedInv (s : Shutdown) : Prop where
  shutdown : ShutdownInv s
  woken : s.watcher ≠ .waiting → s.done = true
  closed : s.listenerClosed → s.watcher = .finished ∧ s.crashed = false

theorem closedInv_step {s s' : Shutdown} {a : ShutdownAction} (inv : ClosedInv s)
    (moves : s.Moves a s') : ClosedInv s' := by
  have shutdown := shutdownInv_step inv.shutdown moves
  obtain ⟨⟨cleared, -⟩, woken, closed⟩ := inv
  cases moves with
  | parentCancel => exact ⟨shutdown, fun _ => rfl, closed⟩
  | stop => exact ⟨shutdown, woken, closed⟩
  | stopSkip => exact ⟨shutdown, woken, closed⟩
  | stopCall => exact ⟨shutdown, fun _ => rfl, closed⟩
  | stopNil _ checked unset => exact absurd (cleared.mp unset) (by simp [checked])
  | stopClear => exact ⟨shutdown, woken, closed⟩
  -- the listener is still open while the goroutine has not reached its close
  | wake _ waiting cancelled =>
    exact ⟨shutdown, fun _ => cancelled, fun open_ => absurd (closed open_).1 (by simp [waiting])⟩
  | watchCall _ woken' _ =>
    exact ⟨shutdown, fun _ => rfl, fun open_ => absurd (closed open_).1 (by simp [woken'])⟩
  | watchNil _ woken' _ =>
    exact ⟨shutdown, woken, fun open_ => absurd (closed open_).1 (by simp [woken'])⟩
  -- the goroutine closes the listener, alive
  | watchClose alive closing =>
    exact ⟨shutdown, fun _ => woken (by simp [closing]), fun _ => ⟨rfl, alive⟩⟩

theorem closedInv_started_step {w w' : Started} {a : StartedAction}
    (inv : ClosedInv w.shutdown) (stepped : w.step a = some w') : ClosedInv w'.shutdown := by
  cases a with
  | shutdown a =>
    obtain ⟨s, shutdownStep, rfl⟩ := Option.map_eq_some'.mp stepped
    exact closedInv_step inv (Shutdown.step_moves shutdownStep)
  | connect conn =>
    simp only [Started.step] at stepped
    split at stepped <;> simp at stepped
    exact stepped ▸ inv
  | accept =>
    simp only [Started.step] at stepped
    split at stepped
    · simp at stepped
    · obtain ⟨_, -, rfl⟩ := Option.map_eq_some'.mp stepped
      exact inv

theorem closedInv_run : ∀ {w w' : Started} (acts : List StartedAction),
    ClosedInv w.shutdown → w.run acts = some w' → ClosedInv w'.shutdown
  | _, _, [], inv, ran => Option.some.inj ran ▸ inv
  | _, _, a :: acts, inv, ran => by
    simp only [Started.run, Option.bind_eq_some] at ran
    obtain ⟨w₁, stepped, ran⟩ := ran
    exact closedInv_run acts (closedInv_started_step inv stepped) ran

theorem closedInv_start (hasHTTP : Bool) (addr : String) :
    ClosedInv (Started.start hasHTTP addr).shutdown := by
  refine ⟨⟨?_, ?_⟩, ?_, ?_⟩ <;> simp [Started.start, Shutdown.start]

/-- No step moves the listener. -/
theorem Started.step_addr {w w' : Started} {a : StartedAction} (stepped : w.step a = some w') :
    w'.addr = w.addr := by
  cases a with
  | shutdown a =>
    obtain ⟨s, -, rfl⟩ := Option.map_eq_some'.mp stepped
    rfl
  | connect conn =>
    simp only [Started.step] at stepped
    split at stepped <;> simp at stepped
    exact stepped ▸ rfl
  | accept =>
    simp only [Started.step] at stepped
    split at stepped
    · simp at stepped
    · obtain ⟨_, -, rfl⟩ := Option.map_eq_some'.mp stepped
      rfl

theorem Started.run_addr : ∀ {w w' : Started} (acts : List StartedAction),
    w.run acts = some w' → w'.addr = w.addr
  | _, _, [], ran => by rw [Option.some.inj ran]
  | _, _, a :: acts, ran => by
    simp only [Started.run, Option.bind_eq_some] at ran
    obtain ⟨w₁, stepped, ran⟩ := ran
    exact (run_addr acts ran).trans (Started.step_addr stepped)

/-- On a closed listener a pass of the loop fails in `Accept` at once and logs the error. -/
theorem accept_closed {w : Started} (closed : w.shutdown.listenerClosed = true)
    (alive : w.shutdown.crashed = false) :
    w.step .accept = some { w with loop := w.loop.pass (.error (errClosed w.addr)) } := by
  simp [Started.step, Started.listener, Listener.accept, closed, alive]

theorem run_accept_closed : ∀ (n : Nat) {w : Started}, w.shutdown.listenerClosed = true →
    w.shutdown.crashed = false →
    w.run (List.replicate n .accept) =
      some { w with loop := { w.loop with
        log := w.loop.log ++ List.replicate n ("ERR Accept: " ++ errClosed w.addr) } }
  | 0, _, _, _ => by simp [Started.run]
  | n + 1, w, closed, alive => by
    rw [List.replicate_succ, Started.run, accept_closed closed alive, Option.some_bind,
      run_accept_closed n (w := { w with loop := w.loop.pass (.error (errClosed w.addr)) }) closed
        alive]
    simp [AcceptLoop.pass, List.replicate_succ]

/-- From any point of any run after `Start` at which the listener has been closed, when the
context has been cancelled, the accept loop can make any number `n` of further passes,
each one an `Accept` that fails and a logged error, and is then where it was: the loop
does not exit. -/
theorem accept_loop_never_exits (hasHTTP : Bool) (addr : String) (acts : List StartedAction)
    {w : Started} (ran : (Started.start hasHTTP addr).run acts = some w)
    (closed : w.shutdown.listenerClosed = true) (n : Nat) :
    w.shutdown.done = true ∧
      w.run (List.replicate n .accept) =
        some { w with loop := { w.loop with
          log := w.loop.log ++ List.replicate n ("ERR Accept: " ++ errClosed addr) } } := by
  have inv := closedInv_run acts (closedInv_start hasHTTP addr) ran
  obtain ⟨finished, alive⟩ := inv.closed closed
  have listening : w.addr = addr := Started.run_addr acts ran
  exact ⟨inv.woken (by simp [finished]), listening ▸ run_accept_closed n closed alive⟩

/-- The parent context is cancelled and the shutdown goroutine closes the listener. -/
def cancelAndClose : List StartedAction :=
  [.shutdown .parentCancel, .shutdown .wake, .shutdown .watchCancel, .shutdown .watchClose]

theorem accept_loop_never_exits_cancelAndClose :
    ∃ w, (Started.start false "[::]:443").run cancelAndClose = some w ∧
      w.shutdown.listenerClosed = true ∧ w.shutdown.done = true ∧
      w.run (List.replicate 3 .accept) =
        some { w with loop := { w.loop with
          log := w.loop.log ++ List.replicate 3 ("ERR Accept: " ++ errClosed "[::]:443") } } :=
  ⟨_, rfl, rfl, accept_loop_never_exits false "[::]:443" cancelAndClose rfl rfl 3⟩

end TlsProxy.Internal
