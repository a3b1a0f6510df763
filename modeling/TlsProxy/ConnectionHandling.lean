import TlsProxy.Reconfigure

/-!
# Connection handling

Every accepted connection is handled by a goroutine running `handleConnection`.  It counts
itself with `incNumOpen(1)` and defers `incNumOpen(-1)`; it is refused when the count it
got back is at least `MaxOpen`; during the TLS handshake `GetConfigForClient` looks the
ClientHello's server name up with `p.backend` and hands back that backend's `tlsConfig`;
after the handshake the connection's server name is looked up once more and the backend
found then is dialed and forwarded to.  Handlers interleave with each other and with
`Reconfigure`.

Two steps of the source are merged with their neighbours, since no other goroutine can
tell them apart: the start of the goroutine with its `incNumOpen(1)`, and each `return`
with the deferred `extConn.Close()` and `incNumOpen(-1)`.  Handlers are kept newest first,
so a handler's list suffix is the handlers counted before it.  The counter is the number of
handlers still counted, and of the handlers past the admission check at most `MaxOpen - 1`
run at once; when `Reconfigure` changes `MaxOpen`, fewer than the largest `MaxOpen` in place
during the run.  The two lookups of a connection's server name are not atomic: a
reconfiguration between them sends the connection to a backend whose `tlsConfig` its
handshake never used.
-/

namespace TlsProxy.Internal

/-- Where a run of `handleConnection` is.  `hello` is the backend `GetConfigForClient` found
for the ClientHello, `be` the backend found after the handshake. -/
inductive Stage
  | counted
  | handshake
  | handshaking (sni : String) (hello : Backend)
  | established (sni : String) (hello : Backend)
  | dialing (hello be : Backend)
  | forwarding (hello be : Backend)
  | closed
  deriving DecidableEq, Repr

/-- Between `incNumOpen(1)` and `incNumOpen(-1)`. -/
def Stage.active : Stage → Bool
  | .closed => false
  | _ => true

@[simp] theorem Stage.active_closed : Stage.closed.active = false := rfl

/-- Past the admission check and not returned. -/
def Stage.admitted : Stage → Bool
  | .counted | .closed => false
  | _ => true

/-- A run of `handleConnection`: its local `numOpen`, the count `incNumOpen(1)` returned. -/
structure Handler where
  numOpen : Int
  stage : Stage
  deriving DecidableEq, Repr

/-- The proxy and every handler, newest first. -/
structure World where
  proxy : Proxy
  handlers : List Handler

/-- A step of the system; `i` picks a handler by its place in the list.  The client picks
the server name of its ClientHello and whether the handshake completes, and the network
whether the dial succeeds. -/
inductive Action
  | accept
  | gate (i : Nat)
  | hello (i : Nat) (sni : String)
  | handshake (i : Nat) (ok : Bool)
  | resolve (i : Nat)
  | dial (i : Nat) (ok : Bool)
  | finish (i : Nat)
  | reconfigure (cfg : Config)

/-- `Accept` and the start of `handleConnection`: `numOpen := p.incNumOpen(1)`. -/
def World.accept (w : World) : World :=
  ⟨{ w.proxy with numOpen := w.proxy.numOpen + 1 }, ⟨w.proxy.numOpen + 1, .counted⟩ :: w.handlers⟩

def World.move (w : World) (i : Nat) (h : Handler) : World :=
  { w with handlers := w.handlers.set i h }

/-- A `return` of handler `i` with its deferred `extConn.Close()` and `p.incNumOpen(-1)`. -/
def World.exit (w : World) (i : Nat) (numOpen : Int) : World :=
  ⟨{ w.proxy with numOpen := w.proxy.numOpen - 1 }, w.handlers.set i ⟨numOpen, .closed⟩⟩

section Steps

variable (rt : Runtime)

def World.step (w : World) : Action → Option World
  | .accept => some w.accept
  | .gate i =>
    match w.handlers[i]?, w.proxy.cfg with
    | some ⟨v, .counted⟩, some cfg =>
      some (if v ≥ cfg.maxOpen then w.exit i v else w.move i ⟨v, .handshake⟩)
    | _, _ => none
  | .hello i sni =>
    match w.handlers[i]? with
    | some ⟨v, .handshake⟩ =>
      match w.proxy.backend rt sni with
      | .ok be => some (w.move i ⟨v, .handshaking sni be⟩)
      | .error _ => some (w.exit i v)
    | _ => none
  | .handshake i ok =>
    match w.handlers[i]? with
    | some ⟨v, .handshaking sni hello⟩ =>
      some (if ok then w.move i ⟨v, .established sni hello⟩ else w.exit i v)
    | _ => none
  | .resolve i =>
    match w.handlers[i]? with
    | some ⟨v, .established sni hello⟩ =>
      match w.proxy.backend rt sni with
      | .ok be => some (w.move i ⟨v, .dialing hello be⟩)
      | .error _ => some (w.exit i v)
    | _ => none
  | .dial i ok =>
    match w.handlers[i]? with
    | some ⟨v, .dialing hello be⟩ =>
      some (if ok then w.move i ⟨v, .forwarding hello be⟩ else w.exit i v)
    | _ => none
  | .finish i =>
    match w.handlers[i]? with
    | some ⟨v, .forwarding _ _⟩ => some (w.exit i v)
    | _ => none
  | .reconfigure cfg => some { w with proxy := (w.proxy.reconfigure rt cfg).2 }

def World.run (w : World) : List Action → Option World
  | [] => some w
  | a :: acts => (w.step rt a).bind (·.run acts)

/-- The `MaxOpen` of the configuration in place at each state of a run, from the first state
to the last one the run reaches. -/
def World.maxOpens (w : World) : List Action → List Int
  | [] => w.proxy.cfg.toList.map (·.maxOpen)
  | a :: acts => w.proxy.cfg.toList.map (·.maxOpen) ++
    match w.step rt a with
    | some w' => w'.maxOpens acts
    | none => []

/-- The moves of an admitted handler that do not end it. -/
inductive Advance (p : Proxy) : Stage → Stage → Prop
  | hello {sni : String} {be : Backend} :
      p.backend rt sni = .ok be → Advance p .handshake (.handshaking sni be)
  | handshake {sni : String} {hello : Backend} :
      Advance p (.handshaking sni hello) (.established sni hello)
  | resolve {sni : String} {hello be : Backend} :
      p.backend rt sni = .ok be → Advance p (.established sni hello) (.dialing hello be)
  | dial {hello be : Backend} : Advance p (.dialing hello be) (.forwarding hello be)

/-- What a step can do: accept, admit a counted handler whose count is below `MaxOpen`,
advance an admitted handler, end an active one, or reconfigure. -/
inductive Moves (w : World) : Action → World → Prop
  | accept : Moves w .accept w.accept
  | pass {i : Nat} {h : Handler} {cfg : Config} : w.handlers[i]? = some h →
      h.stage = .counted → w.proxy.cfg = some cfg → h.numOpen < cfg.maxOpen →
      Moves w (.gate i) (w.move i ⟨h.numOpen, .handshake⟩)
  | advance {a : Action} {i : Nat} {h : Handler} {stage : Stage} : w.handlers[i]? = some h →
      Advance rt w.proxy h.stage stage → Moves w a (w.move i ⟨h.numOpen, stage⟩)
  | exit {a : Action} {i : Nat} {h : Handler} : w.handlers[i]? = some h → h.stage.active →
      Moves w a (w.exit i h.numOpen)
  | reconfigure (cfg : Config) :
      Moves w (.reconfigure cfg) { w with proxy := (w.proxy.reconfigure rt cfg).2 }

variable {rt}

theorem World.step_moves {w w' : World} {a : Action} (stepped : w.step rt a = some w') :
    Moves rt w a w' := by
  cases a with
  | accept => exact Option.some.inj stepped ▸ .accept
  | gate i =>
    simp only [World.step] at stepped
    split at stepped
    next v cfg found configured =>
      obtain rfl := Option.some.inj stepped
      by_cases refused : v ≥ cfg.maxOpen
      · rw [if_pos refused]
        exact .exit found rfl
      · rw [if_neg refused]
        exact .pass found rfl configured (lt_of_not_ge refused)
    next => contradiction
  | hello i sni =>
    simp only [World.step] at stepped
    split at stepped
    next v found =>
      split at stepped <;> obtain rfl := Option.some.inj stepped
      next be resolved => exact .advance found (.hello resolved)
      next => exact .exit found rfl
    next => contradiction
  | handshake i ok =>
    simp only [World.step] at stepped
    split at stepped
    next v sni hello found =>
      obtain rfl := Option.some.inj stepped
      cases ok
      · exact .exit found rfl
      · exact .advance found .handshake
    next => contradiction
  | resolve i =>
    simp only [World.step] at stepped
    split at stepped
    next v sni hello found =>
      split at stepped <;> obtain rfl := Option.some.inj stepped
      next be resolved => exact .advance found (.resolve resolved)
      next => exact .exit found rfl
    next => contradiction
  | dial i ok =>
    simp only [World.step] at stepped
    split at stepped
    next v hello be found =>
      obtain rfl := Option.some.inj stepped
      cases ok
      · exact .exit found rfl
      · exact .advance found .dial
    next => contradiction
  | finish i =>
    simp only [World.step] at stepped
    split at stepped
    next v hello be found => exact Option.some.inj stepped ▸ .exit found rfl
    next => contradiction
  | reconfigure cfg => exact Option.some.inj stepped ▸ .reconfigure cfg

theorem World.run_invariant (P : World → Prop) (Q : Action → Prop)
    (preserved : ∀ {w a w'}, Q a → P w → Moves rt w a w' → P w') :
    ∀ {w w' : World} (acts : List Action), (∀ a ∈ acts, Q a) → P w → w.run rt acts = some w' → P w'
  | _, _, [], _, inv, ran => Option.some.inj ran ▸ inv
  | w, _, a :: acts, allowed, inv, ran => by
    simp only [World.run, Option.bind_eq_some] at ran
    obtain ⟨w₁, stepped, ran⟩ := ran
    exact run_invariant P Q preserved acts (fun b member => allowed b (.tail _ member))
      (preserved (allowed a (.head _)) inv (w.step_moves stepped)) ran

theorem Advance.admitted {p : Proxy} {stage stage' : Stage} (advance : Advance rt p stage stage') :
    stage.admitted ∧ stage'.admitted := by
  cases advance <;> exact ⟨rfl, rfl⟩

theorem Stage.active_of_admitted : ∀ {stage : Stage}, stage.admitted → stage.active
  | .counted, admitted | .closed, admitted => nomatch admitted
  | .handshake, _ | .handshaking _ _, _ | .established _ _, _ | .dialing _ _, _
  | .forwarding _ _, _ => rfl

end Steps

/-! ## The counter -/

theorem countP_set {α : Type} (f : α → Bool) {x y : α} :
    ∀ {l : List α} {i : Nat}, l[i]? = some x →
      (l.set i y).countP f + (if f x then 1 else 0) = l.countP f + (if f y then 1 else 0)
  | [], _, found => nomatch found
  | z :: l, 0, found => by
    obtain rfl : z = x := by simpa using found
    simp only [List.set_cons_zero, List.countP_cons]
    omega
  | z :: l, i + 1, found => by
    have := countP_set f (y := y) (l := l) (i := i) (by simpa using found)
    simp only [List.set_cons_succ, List.countP_cons]
    omega

theorem countP_set_le {α : Type} (f : α → Bool) {x y : α} (less : f y → f x) {l : List α}
    {i : Nat} (found : l[i]? = some x) : (l.set i y).countP f ≤ l.countP f := by
  have := countP_set f (y := y) found
  by_cases counted : f y
  · simp_all
  · simp only [counted, Bool.false_eq_true, if_false, Nat.add_zero] at this
    omega

/-- Each counted handler's `numOpen` is at least the number of handlers still counted that
were counted no later than it: when it was counted they were all counted, and a handler
that is no longer counted is never counted again. -/
def Fits : List Handler → Prop
  | [] => True
  | h :: rest => (h.stage.active → ((h :: rest).countP (·.stage.active) : Int) ≤ h.numOpen) ∧
      Fits rest

theorem fits_set {h : Handler} (h' : Handler) (sameCount : h'.numOpen = h.numOpen)
    (stillActive : h'.stage.active → h.stage.active) :
    ∀ {l : List Handler} {i : Nat}, Fits l → l[i]? = some h → Fits (l.set i h')
  | [], _, _, found => nomatch found
  | z :: l, i, fits, found => by
    have shrinks := countP_set_le (·.stage.active) stillActive found
    cases i with
    | zero =>
      obtain rfl : z = h := by simpa using found
      refine ⟨fun active => ?_, fits.2⟩
      have := fits.1 (stillActive active)
      simp only [List.set_cons_zero] at shrinks ⊢
      omega
    | succ i =>
      refine ⟨fun active => ?_, fits_set h' sameCount stillActive fits.2 (by simpa using found)⟩
      have := fits.1 active
      simp only [List.set_cons_succ] at shrinks ⊢
      omega

/-- The counter is the number of counted handlers, and every handler fits. -/
structure Counted (w : World) : Prop where
  count : w.proxy.numOpen = w.handlers.countP (·.stage.active)
  fits : Fits w.handlers

theorem counted_move {w : World} {i : Nat} {h h' : Handler} (inv : Counted w)
    (found : w.handlers[i]? = some h) (sameCount : h'.numOpen = h.numOpen)
    (active : h.stage.active) (active' : h'.stage.active) : Counted (w.move i h') := by
  have counts := countP_set (·.stage.active) (y := h') found
  simp only [active, active', if_true] at counts
  exact ⟨by simp only [World.move, inv.count]; omega,
    fits_set h' sameCount (fun _ => active) inv.fits found⟩

theorem counted_exit {w : World} {i : Nat} {h : Handler} (inv : Counted w)
    (found : w.handlers[i]? = some h) (active : h.stage.active) :
    Counted (w.exit i h.numOpen) := by
  have counts := countP_set (·.stage.active) (y := ⟨h.numOpen, .closed⟩) found
  simp only [active, Stage.active_closed, if_true, Bool.false_eq_true, if_false,
    Nat.add_zero] at counts
  exact ⟨by simp only [World.exit, inv.count]; omega,
    fits_set ⟨h.numOpen, .closed⟩ (h := h) rfl (nomatch ·) inv.fits found⟩

theorem counted_step {rt : Runtime} {w w' : World} {a : Action} (inv : Counted w)
    (moves : Moves rt w a w') : Counted w' := by
  cases moves with
  | accept =>
    have grows : (w.accept.handlers.countP (·.stage.active) : Int) = w.proxy.numOpen + 1 := by
      simp [World.accept, inv.count, Stage.active]
    exact ⟨grows.symm, ⟨fun _ => grows.le, inv.fits⟩⟩
  | pass found counted _ _ => exact counted_move inv found rfl (by rw [counted]; rfl) rfl
  | advance found advance =>
    exact counted_move inv found rfl (Stage.active_of_admitted advance.admitted.1)
      (Stage.active_of_admitted advance.admitted.2)
  | exit found active => exact counted_exit inv found active
  | reconfigure cfg => exact ⟨(reconfigure_frame w.proxy cfg).1.trans inv.count, inv.fits⟩

theorem forall_mem_set {α : Type} {P : α → Prop} {l : List α} {i : Nat} {y : α}
    (all : ∀ x ∈ l, P x) (new : P y) : ∀ x ∈ l.set i y, P x := fun x member =>
  (List.mem_or_eq_of_mem_set member).elim (all x) (· ▸ new)

/-- Every admitted handler got a count below `m`. -/
def Capped (m : Int) (w : World) : Prop :=
  ∀ h ∈ w.handlers, h.stage.admitted → h.numOpen < m

/-- A step from a state whose configuration has `MaxOpen` at most `m` admits only counts below
`m`; nothing else admits a handler. -/
theorem capped_step {rt : Runtime} {m : Int} {w w' : World} {a : Action}
    (maxOpen : ∀ cfg, w.proxy.cfg = some cfg → cfg.maxOpen ≤ m) (below : Capped m w)
    (moves : Moves rt w a w') : Capped m w' := by
  cases moves with
  | accept =>
    intro h member admitted
    rcases List.mem_cons.mp member with rfl | old
    · exact absurd admitted Bool.false_ne_true
    · exact below h old admitted
  | pass found _ configured counted =>
    exact forall_mem_set below fun _ => counted.trans_le (maxOpen _ configured)
  | @advance _ i h stage found advance =>
    exact forall_mem_set below fun _ => below h (List.getElem?_mem found) advance.admitted.1
  | exit found _ => exact forall_mem_set below (nomatch ·)
  | reconfigure cfg => exact below

/-- Along a run whose configurations in place all have `MaxOpen` at most `m`, every admitted
handler got a count below `m`. -/
theorem capped_run {rt : Runtime} {m : Int} : ∀ {w w' : World} (acts : List Action),
    (∀ x ∈ w.maxOpens rt acts, x ≤ m) → Capped m w → w.run rt acts = some w' → Capped m w'
  | _, _, [], _, below, ran => Option.some.inj ran ▸ below
  | w, _, a :: acts, caps, below, ran => by
    simp only [World.run, Option.bind_eq_some] at ran
    obtain ⟨w₁, stepped, ran⟩ := ran
    simp only [World.maxOpens, stepped, List.mem_append] at caps
    exact capped_run acts (fun x member => caps x (.inr member))
      (capped_step (fun cfg configured => caps _ (.inl (by simp [configured]))) below
        (w.step_moves stepped)) ran

/-- Of the handlers past the admission check, the one counted last got a count at least
their number, and below `m`. -/
theorem admitted_bound {m : Int} : ∀ {l : List Handler}, Fits l →
    (∀ h ∈ l, h.stage.admitted → h.numOpen < m) →
      l.countP (·.stage.admitted) = 0 ∨ (l.countP (·.stage.admitted) : Int) < m
  | [], _, _ => .inl rfl
  | h :: rest, fits, below => by
    by_cases admitted : h.stage.admitted
    · have fewer : (h :: rest).countP (·.stage.admitted) ≤ (h :: rest).countP (·.stage.active) :=
        List.countP_mono_left fun _ _ => Stage.active_of_admitted
      have fitting := fits.1 (Stage.active_of_admitted admitted)
      have := below h (.head _) admitted
      omega
    · rw [List.countP_cons_of_neg (fun x : Handler => x.stage.admitted) _ admitted]
      exact admitted_bound fits.2 fun x member => below x (.tail _ member)

theorem counted_run (rt : Runtime) {p : Proxy} (idle : p.numOpen = 0) {acts : List Action}
    {w : World} (ran : World.run rt ⟨p, []⟩ acts = some w) : Counted w :=
  World.run_invariant Counted (fun _ => True) (fun _ inv moves => counted_step inv moves) acts
    (fun _ _ => trivial) (⟨by simp [idle], trivial⟩ : Counted ⟨p, []⟩) ran

/-- The counter counts the handlers between `incNumOpen(1)` and `incNumOpen(-1)`, so it is
never negative and is zero when every handler is done; while the `MaxOpen` in place stays the
same, fewer than `MaxOpen` handlers are past the admission check at once. -/
theorem numOpen_counts_handlers (rt : Runtime) (p : Proxy) (idle : p.numOpen = 0)
    (acts : List Action) {w : World} (ran : World.run rt ⟨p, []⟩ acts = some w) :
    w.proxy.numOpen = w.handlers.countP (·.stage.active) ∧ 0 ≤ w.proxy.numOpen ∧
      ((∀ h ∈ w.handlers, h.stage = .closed) → w.proxy.numOpen = 0) ∧
      ∀ cfg, p.cfg = some cfg →
        (∀ x ∈ World.maxOpens rt ⟨p, []⟩ acts, x = cfg.maxOpen) →
        w.handlers.countP (·.stage.admitted) = 0 ∨
          (w.handlers.countP (·.stage.admitted) : Int) < cfg.maxOpen := by
  have counted := counted_run rt idle ran
  refine ⟨counted.count, by rw [counted.count]; omega, fun done => ?_,
    fun cfg _ same => ?_⟩
  · rw [counted.count, List.countP_eq_zero.mpr fun h member => by simp [done h member]]
    rfl
  · exact admitted_bound counted.fits (capped_run acts (fun x member => (same x member).le)
      (fun _ member => nomatch member) ran)

/-! ## Runs -/

/-- A runtime for concrete runs: a certificate is any non-empty PEM text, and `marshal`
tells the configurations used here apart as `yaml.Marshal` does, by whether a backend asks
for client certificates. -/
def exampleRuntime : Runtime where
  readFile _ := .error "open: no such file or directory"
  pemCerts pem := if pem = "" then [] else [pem]
  marshal cfg := match cfg with
    | none => "null"
    | some cfg =>
      if cfg.backends.any (·.clientAuth) then "clientAuth: true" else "clientAuth: false"
  quote s := "\"" ++ s ++ "\""

def webBackend (clientAuth : Bool) : Backend :=
  ⟨["a.example.com"], ["192.0.2.1:443"], false, false, "", "", 0, clientAuth, "", none, none, 0⟩

def webConfig (maxOpen : Int) (clientAuth : Bool) : Config :=
  ⟨"", ":443", "", "", maxOpen, [webBackend clientAuth]⟩

/-- A connection whose handshake ran with the backend of the first configuration, and which
was resolved again after a reconfiguration that turned on client authentication. -/
def reloadDuringHandshake : List Action :=
  [.accept, .gate 0, .hello 0 "a.example.com", .reconfigure (webConfig 100 true),
    .handshake 0 true, .resolve 0, .dial 0 true]

theorem forwards_past_handshake_backend :
    ∃ w, World.run exampleRuntime ⟨Proxy.new exampleRuntime (webConfig 100 false), []⟩
        reloadDuringHandshake = some w ∧
      ∃ h ∈ w.handlers, ∃ hello be, h.stage = .forwarding hello be ∧ hello ≠ be ∧
        be.clientAuth = true ∧ hello.tlsConfig = none :=
  ⟨_, rfl, _, List.mem_cons_self _ _, _, _, rfl, by decide, rfl, rfl⟩

/-- With `MaxOpen` 1 and no connection open, a new connection counts itself as 1, which does
not exceed `MaxOpen`, and is refused. -/
theorem refuses_within_limit :
    (Proxy.new exampleRuntime (webConfig 1 false)).cfg.map (·.maxOpen) = some 1 ∧
      (Proxy.new exampleRuntime (webConfig 1 false)).numOpen = 0 ∧
      World.run exampleRuntime ⟨Proxy.new exampleRuntime (webConfig 1 false), []⟩
        [.accept, .gate 0] = some ⟨Proxy.new exampleRuntime (webConfig 1 false), [⟨1, .closed⟩]⟩ :=
  ⟨rfl, rfl, rfl⟩

/-- Two connections: the first is forwarded and ends, the second is still in its handshake. -/
def twoConnections : List Action :=
  [.accept, .accept, .gate 0, .gate 1, .hello 1 "a.example.com", .handshake 1 true, .resolve 1,
    .dial 1 true, .finish 1]

theorem numOpen_counts_handlers_twoConnections :
    (Proxy.new exampleRuntime (webConfig 100 false)).numOpen = 0 ∧
      ∃ w, World.run exampleRuntime ⟨Proxy.new exampleRuntime (webConfig 100 false), []⟩
          twoConnections = some w ∧
        (w.proxy.numOpen = w.handlers.countP (·.stage.active) ∧ 0 ≤ w.proxy.numOpen ∧
          ((∀ h ∈ w.handlers, h.stage = .closed) → w.proxy.numOpen = 0) ∧
          ∀ cfg, (Proxy.new exampleRuntime (webConfig 100 false)).cfg = some cfg →
            (∀ x ∈ World.maxOpens exampleRuntime
              ⟨Proxy.new exampleRuntime (webConfig 100 false), []⟩ twoConnections,
              x = cfg.maxOpen) →
              w.handlers.countP (·.stage.admitted) = 0 ∨
                (w.handlers.countP (·.stage.admitted) : Int) < cfg.maxOpen) :=
  ⟨rfl, _, rfl, numOpen_counts_handlers exampleRuntime _ rfl twoConnections rfl⟩

/-- `Reconfigure` may change `MaxOpen`, but fewer handlers than the largest `MaxOpen` in place
during a run are ever past the admission check at once: each was admitted with a count below
the `MaxOpen` in place when it was checked, and a lower `MaxOpen` refuses new handlers without
stopping the admitted ones.  `m` is any bound of the `MaxOpen`s in place, the largest one
among them. -/
theorem admitted_below_largest_maxOpen (rt : Runtime) (p : Proxy) (idle : p.numOpen = 0)
    (acts : List Action) {m : Int} (largest : ∀ x ∈ World.maxOpens rt ⟨p, []⟩ acts, x ≤ m)
    {w : World} (ran : World.run rt ⟨p, []⟩ acts = some w) :
    w.handlers.countP (·.stage.admitted) = 0 ∨
      (w.handlers.countP (·.stage.admitted) : Int) < m :=
  admitted_bound (counted_run rt idle ran).fits
    (capped_run acts largest (fun _ member => nomatch member) ran)

/-- Two connections admitted under `MaxOpen` 100, then a reconfiguration to `MaxOpen` 1. -/
def lowerMaxOpen : List Action :=
  [.accept, .accept, .gate 0, .gate 1, .reconfigure (webConfig 1 true)]

theorem admitted_below_largest_maxOpen_lowered :
    (Proxy.new exampleRuntime (webConfig 100 false)).numOpen = 0 ∧
      (∀ x ∈ World.maxOpens exampleRuntime
        ⟨Proxy.new exampleRuntime (webConfig 100 false), []⟩ lowerMaxOpen, x ≤ 100) ∧
      ∃ w, World.run exampleRuntime ⟨Proxy.new exampleRuntime (webConfig 100 false), []⟩
          lowerMaxOpen = some w ∧
        (w.handlers.countP (·.stage.admitted) = 0 ∨
          (w.handlers.countP (·.stage.admitted) : Int) < 100) :=
  have largest : ∀ x ∈ World.maxOpens exampleRuntime
      ⟨Proxy.new exampleRuntime (webConfig 100 false), []⟩ lowerMaxOpen, x ≤ 100 := by decide
  ⟨rfl, largest, _, rfl,
    admitted_below_largest_maxOpen exampleRuntime _ rfl lowerMaxOpen largest rfl⟩

/-- After the reconfiguration `MaxOpen` is 1, and both handlers are still past the check. -/
example : (World.run exampleRuntime ⟨Proxy.new exampleRuntime (webConfig 100 false), []⟩
    lowerMaxOpen).map
      (fun w => (w.handlers.countP (·.stage.admitted), w.proxy.cfg.map (·.maxOpen))) =
        some (2, some 1) := by
  decide

end TlsProxy.Internal
