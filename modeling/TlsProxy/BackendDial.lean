import TlsProxy.ProxyState

/-!
# Round-robin dialing of a backend's addresses

`Backend.dial` takes the backend's lock, reads `Addresses[next]`, advances `next` modulo
the number of addresses and releases the lock; then it dials the address.  The first pass
sets the budget `max` to the number of addresses and every failure spends one unit of it.
One call of `dial` is modelled as a small machine: `lock` is the block under `be.mu` and
`complete` is the rest of an iteration, with the outcome of the dial as its argument.
Run alone, a call dials the addresses in rotation from `next`, up to the first that
answers or all of them.  Any number of calls can run at once, sharing `next`; the cursor
stays in range whatever the interleaving, and a call that fails has failed exactly as many
dials as there are addresses, though under contention they need not be distinct
addresses: another call may have moved the cursor between two of its own attempts.
-/

namespace TlsProxy.Internal

variable {Conn : Type}

/-- The `tls.Config` of an upstream TLS connection. -/
structure ClientTLSConfig where
  insecureSkipVerify : Bool
  serverName : String
  rootCAs : Option CertPool
  deriving DecidableEq, Repr

/-- What `dial` hands to the dialer besides the address: the fields of the `net.Dialer`,
and for a TLS backend the TLS configuration of `tls.DialWithDialer`. -/
structure DialConfig where
  timeout : Int
  keepAlive : Int
  tls : Option ClientTLSConfig
  deriving DecidableEq, Repr

/-- Durations are in nanoseconds, as `time.Duration` counts them. -/
def Backend.dialConfig (be : Backend) : DialConfig where
  timeout := be.forwardTimeout
  keepAlive := 30 * 1000000000
  tls := if be.useTLS then some ⟨be.insecureSkipVerify, be.forwardServerName, be.forwardRootPool⟩
    else none

/-- Where a call of `dial` is: at the top of its loop, waiting for the dial of an
address, returned, or panicked on an index out of range. -/
inductive DialPc (Conn : Type)
  | top
  | dialing (addr : String)
  | done (result : Except String Conn)
  | panicked

/-- The locals of one call of `dial`.  `tried` lists the addresses it dialed and `log`
the lines `ERR dial %q: %v` it printed, one per failed dial. -/
structure DialCall (Conn : Type) where
  max : Int
  pc : DialPc Conn
  tried : List String
  log : List (String × String)

def DialCall.start : DialCall Conn := ⟨0, .top, [], []⟩

/-- The block of `dial` under `be.mu`. -/
def DialCall.lock (call : DialCall Conn) (be : Backend) : DialCall Conn × Backend :=
  let sz := be.addresses.length
  let max : Int := if call.max = 0 then sz else call.max
  match be.addresses[be.next]? with
  | none => ({ call with max, pc := .panicked }, be)
  | some addr =>
    ({ call with max, pc := .dialing addr, tried := call.tried ++ [addr] },
      { be with next := (be.next + 1) % sz })

/-- The rest of an iteration, once the dial of `addr` has given `outcome`. -/
def DialCall.complete (call : DialCall Conn) (addr : String) (outcome : Except String Conn) :
    DialCall Conn :=
  match outcome with
  | .ok c => { call with pc := .done (.ok c) }
  | .error e =>
    let max := call.max - 1
    { call with max, log := call.log ++ [(addr, e)],
                pc := if max > 0 then .top else .done (.error e) }

/-- One step of a call of `dial` with no other call on the backend; `net` is the network. -/
def dialStep (net : DialConfig → String → Except String Conn) :
    DialCall Conn × Backend → DialCall Conn × Backend
  | (call, be) =>
    match call.pc with
    | .top => call.lock be
    | .dialing addr => (call.complete addr (net be.dialConfig addr), be)
    | _ => (call, be)

/-- `be.dial()`: a call run step by step, one lock and one dial per address at most. -/
def Backend.dial (net : DialConfig → String → Except String Conn) (be : Backend) :
    DialCall Conn × Backend :=
  (dialStep net)^[2 * be.addresses.length + 1] (DialCall.start, be)

/-- The address `i` places after `c` in the rotation, `Addresses[(c+i) % n]`. -/
def rotationAt (addresses : List String) (c i : Nat) : String :=
  addresses.getD ((c + i) % addresses.length) ""

section Sequential

variable (net : DialConfig → String → Except String Conn) (be : Backend)

@[simp] theorem dialConfig_next (next : Nat) : { be with next }.dialConfig = be.dialConfig := rfl

theorem rotationAt_succ (c i : Nat) :
    rotationAt be.addresses ((c + 1) % be.addresses.length) i =
      rotationAt be.addresses c (i + 1) := by
  simp only [rotationAt, Nat.mod_add_mod, Nat.add_right_comm, Nat.add_assoc]

theorem lock_inRange (call : DialCall Conn) {c : Nat} (inRange : c < be.addresses.length) :
    call.lock { be with next := c } =
      ({ call with max := if call.max = 0 then (be.addresses.length : Int) else call.max,
                   pc := .dialing (rotationAt be.addresses c 0),
                   tried := call.tried ++ [rotationAt be.addresses c 0] },
        { be with next := (c + 1) % be.addresses.length }) := by
  have found : be.addresses[c]? = some (rotationAt be.addresses c 0) := by
    rw [rotationAt, Nat.add_zero, Nat.mod_eq_of_lt inRange, List.getD_eq_getElem?_getD,
      List.getElem?_eq_getElem inRange, Option.getD_some]
  simp only [DialCall.lock, found]

/-- One iteration of the loop: the lock, then the dial of the address under the cursor. -/
theorem dial_iteration (call : DialCall Conn) {c : Nat} (inRange : c < be.addresses.length)
    (top : call.pc = .top) :
    let addr := rotationAt be.addresses c 0
    let max : Int := if call.max = 0 then be.addresses.length else call.max
    (dialStep net)^[2] (call, { be with next := c }) =
      ((DialCall.mk max (.dialing addr) (call.tried ++ [addr]) call.log).complete addr
          (net be.dialConfig addr),
        { be with next := (c + 1) % be.addresses.length }) := by
  simp only [Function.iterate_succ_apply, Function.iterate_zero_apply, dialStep, top,
    lock_inRange be call inRange, dialConfig_next]

/-- What the loop of `dial` does from its top with the cursor at `c` and `budget` dials
left: it dials the rotation from `c` up to the first success, `k` addresses with
`0 < k ≤ budget`, or all of the budget. -/
def LoopResult (call : DialCall Conn) (c budget : Nat) : Prop :=
  ∃ k, 0 < k ∧ k ≤ budget ∧
    (∀ i < k - 1, (net be.dialConfig (rotationAt be.addresses c i)).isOk = false) ∧
    (k < budget → (net be.dialConfig (rotationAt be.addresses c (k - 1))).isOk = true) ∧
    ((dialStep net)^[2 * k] (call, { be with next := c })).1.pc =
      .done (net be.dialConfig (rotationAt be.addresses c (k - 1))) ∧
    ((dialStep net)^[2 * k] (call, { be with next := c })).1.tried =
      call.tried ++ (List.range k).map (rotationAt be.addresses c) ∧
    ((dialStep net)^[2 * k] (call, { be with next := c })).2 =
      { be with next := (c + k) % be.addresses.length }

/-- A loop whose first dial succeeds stops after it. -/
theorem loopResult_of_ok (call : DialCall Conn) {c budget : Nat} {conn : Conn}
    (inRange : c < be.addresses.length) (top : call.pc = .top) (positive : 0 < budget)
    (connected : net be.dialConfig (rotationAt be.addresses c 0) = .ok conn) :
    LoopResult net be call c budget := by
  refine ⟨1, Nat.one_pos, positive, by simp, fun _ => by simp [connected, Except.toBool], ?_⟩
  simp [dial_iteration net be call inRange top, connected, DialCall.complete, List.range_succ]

/-- The loop of `dial` from its top, with `m + 1` dials of budget left. -/
theorem dial_loop (m : Nat) : ∀ (call : DialCall Conn) (c : Nat), c < be.addresses.length →
    call.pc = .top → (if call.max = 0 then (be.addresses.length : Int) else call.max) = m + 1 →
    LoopResult net be call c (m + 1) := by
  induction m with
  | zero =>
    intro call c inRange top budget
    cases outcome : net be.dialConfig (rotationAt be.addresses c 0) with
    | ok conn => exact loopResult_of_ok net be call inRange top Nat.one_pos outcome
    | error e =>
      refine ⟨1, Nat.one_pos, le_refl 1, by simp, by simp, ?_⟩
      have iteration := dial_iteration net be call inRange top
      rw [budget] at iteration
      simp [iteration, outcome, DialCall.complete, List.range_succ]
  | succ m ih =>
    intro call c inRange top budget
    cases outcome : net be.dialConfig (rotationAt be.addresses c 0) with
    | ok conn => exact loopResult_of_ok net be call inRange top (Nat.succ_pos _) outcome
    | error e =>
      have iteration := dial_iteration net be call inRange top
      rw [budget] at iteration
      let addr := rotationAt be.addresses c 0
      let retry : DialCall Conn :=
        (DialCall.mk (↑(m + 1) + 1) (.dialing addr) (call.tried ++ [addr]) call.log).complete
          addr (.error e)
      have top' : retry.pc = .top := by simp [retry, DialCall.complete]
      have budget' :
          (if retry.max = 0 then (be.addresses.length : Int) else retry.max) = m + 1 := by
        simp [retry, DialCall.complete]; omega
      obtain ⟨k, pos, le, fails, succeeds, pc, tried, next⟩ :=
        ih retry ((c + 1) % be.addresses.length) (Nat.mod_lt _ (by omega)) top' budget'
      have shift : rotationAt be.addresses ((c + 1) % be.addresses.length) =
          fun i => rotationAt be.addresses c (i + 1) := funext (rotationAt_succ be c)
      have steps : (dialStep net)^[2 * (k + 1)] (call, { be with next := c }) =
          (dialStep net)^[2 * k] (retry, { be with next := (c + 1) % be.addresses.length }) := by
        rw [Nat.mul_succ, Function.iterate_add_apply, iteration, outcome]
      simp only [shift] at fails succeeds pc tried
      refine ⟨k + 1, by omega, by omega, fun i lt => ?_, fun lt => ?_, ?_, ?_, ?_⟩
      · rcases i with _ | i
        · simp [outcome, Except.toBool]
        · exact fails i (by omega)
      · simpa [Nat.sub_add_cancel pos] using succeeds (by omega)
      · rw [steps, pc, Nat.sub_add_cancel pos, Nat.add_sub_cancel]
      · rw [steps, tried, List.range_succ_eq_map]
        simp [retry, DialCall.complete, Function.comp_def]
      · rw [steps, next, Nat.mod_add_mod, Nat.add_assoc, Nat.add_comm 1 k]

theorem dialStep_done (call : DialCall Conn) {result : Except String Conn}
    (done : call.pc = .done result) (be : Backend) : dialStep net (call, be) = (call, be) := by
  simp [dialStep, done]

/-- A call of `dial` with no other call on the backend dials the addresses in rotation
from the cursor, `Addresses[(next+i) % n]` for `i < k`, where `k` is one more than the
position of the first address that answers, or `n` when none does.  It returns that
address's connection or the last error, and leaves the cursor `k` places further on. -/
theorem dial_tries_rotation (inRange : be.next < be.addresses.length) :
    ∃ k, 0 < k ∧ k ≤ be.addresses.length ∧
      (∀ i < k - 1, (net be.dialConfig (rotationAt be.addresses be.next i)).isOk = false) ∧
      (k < be.addresses.length →
        (net be.dialConfig (rotationAt be.addresses be.next (k - 1))).isOk = true) ∧
      (be.dial net).1.pc = .done (net be.dialConfig (rotationAt be.addresses be.next (k - 1))) ∧
      (be.dial net).1.tried = (List.range k).map (rotationAt be.addresses be.next) ∧
      (be.dial net).2 = { be with next := (be.next + k) % be.addresses.length } := by
  have budget : (if (DialCall.start : DialCall Conn).max = 0 then (be.addresses.length : Int)
      else (DialCall.start : DialCall Conn).max) = ↑(be.addresses.length - 1) + 1 := by
    simp [DialCall.start]; omega
  obtain ⟨k, pos, le, fails, succeeds, pc, tried, next⟩ :=
    dial_loop net be (be.addresses.length - 1) DialCall.start be.next inRange rfl budget
  have finished : be.dial net = (dialStep net)^[2 * k] (DialCall.start, be) := by
    have split : 2 * be.addresses.length + 1 = (2 * be.addresses.length + 1 - 2 * k) + 2 * k := by
      omega
    rw [Backend.dial, split, Function.iterate_add_apply]
    exact Function.iterate_fixed (dialStep_done net _ pc _) _
  rw [Nat.sub_add_cancel (Nat.zero_lt_of_lt inRange)] at le succeeds
  exact ⟨k, pos, le, fails, succeeds, finished ▸ pc, finished ▸ tried, finished ▸ next⟩

end Sequential

/-! ## Concurrent calls -/

/-- The backend and every call of `dial` on it, in the order they started. -/
structure DialWorld (Conn : Type) where
  be : Backend
  calls : List (DialCall Conn)

/-- A step of one call: a new call starts, a call takes the lock, or the dial of a call
returns `outcome`, which the network picks. -/
inductive DialAction (Conn : Type)
  | start
  | lock (i : Nat)
  | complete (i : Nat) (outcome : Except String Conn)

def DialWorld.step (w : DialWorld Conn) : DialAction Conn → Option (DialWorld Conn)
  | .start => some { w with calls := w.calls ++ [DialCall.start] }
  | .lock i =>
    match w.calls[i]? with
    | some call =>
      match call.pc with
      | .top => some ⟨(call.lock w.be).2, w.calls.set i (call.lock w.be).1⟩
      | _ => none
    | none => none
  | .complete i outcome =>
    match w.calls[i]? with
    | some call =>
      match call.pc with
      | .dialing addr => some { w with calls := w.calls.set i (call.complete addr outcome) }
      | _ => none
    | none => none

def DialWorld.run (w : DialWorld Conn) : List (DialAction Conn) → Option (DialWorld Conn)
  | [] => some w
  | a :: acts => (w.step a).bind (·.run acts)

/-- What a step can do. -/
theorem DialWorld.step_cases {w w' : DialWorld Conn} {a : DialAction Conn}
    (stepped : w.step a = some w') :
    w' = { w with calls := w.calls ++ [DialCall.start] } ∨
      (∃ i call, w.calls[i]? = some call ∧ call.pc = .top ∧
        w' = ⟨(call.lock w.be).2, w.calls.set i (call.lock w.be).1⟩) ∨
      (∃ i call addr outcome, w.calls[i]? = some call ∧ call.pc = .dialing addr ∧
        w' = { w with calls := w.calls.set i (call.complete addr outcome) }) := by
  cases a with
  | start => exact .inl (Option.some.inj stepped).symm
  | lock i =>
    simp only [DialWorld.step] at stepped
    split at stepped <;> try contradiction
    split at stepped <;> try contradiction
    exact .inr (.inl ⟨i, _, ‹_›, ‹_›, (Option.some.inj stepped).symm⟩)
  | complete i outcome =>
    simp only [DialWorld.step] at stepped
    split at stepped <;> try contradiction
    split at stepped <;> try contradiction
    exact .inr (.inr ⟨i, _, _, outcome, ‹_›, ‹_›, (Option.some.inj stepped).symm⟩)

theorem DialWorld.run_invariant (P : DialWorld Conn → Prop)
    (preserved : ∀ {w w' : DialWorld Conn} {a : DialAction Conn}, P w → w.step a = some w' → P w') :
    ∀ {w w' : DialWorld Conn} (acts : List (DialAction Conn)), P w → w.run acts = some w' → P w'
  | _, _, [], inv, ran => Option.some.inj ran ▸ inv
  | w, _, a :: acts, inv, ran => by
    simp only [DialWorld.run, Option.bind_eq_some] at ran
    obtain ⟨w₁, stepped, ran⟩ := ran
    exact run_invariant P preserved acts (preserved inv stepped) ran

/-- The books of one call against `n` addresses: its budget and the dials it made add up
to `n`, and every dial but the one in flight is logged as failed.  A failed call dialed
`n` times, failed every time and returned the last error; no call panics. -/
def DialCall.Accounted (n : Nat) (call : DialCall Conn) : Prop :=
  match call.pc with
  | .top => (call.max = 0 ∧ call.tried = [] ∧ call.log = []) ∨
      (0 < call.max ∧ call.tried.length + call.max = n ∧ call.log.map Prod.fst = call.tried)
  | .dialing addr => 0 < call.max ∧ call.tried.length + call.max = n + 1 ∧
      call.log.map Prod.fst ++ [addr] = call.tried
  | .done (.ok _) => call.tried.length ≤ n
  | .done (.error e) => call.tried.length = n ∧ call.log.map Prod.fst = call.tried ∧
      call.log.getLast?.map Prod.snd = some e
  | .panicked => False

section Concurrent

variable (be₀ : Backend)

/-- What holds of every state that concurrent calls of `dial` reach from `be₀`. -/
structure DialInv (w : DialWorld Conn) : Prop where
  frame : w.be = { be₀ with next := w.be.next }
  inRange : w.be.next < be₀.addresses.length
  accounted : ∀ call ∈ w.calls, call.Accounted be₀.addresses.length

theorem start_accounted (n : Nat) : (DialCall.start : DialCall Conn).Accounted n := by
  simp [DialCall.Accounted, DialCall.start]

theorem lock_accounted {call : DialCall Conn} {be : Backend} (top : call.pc = .top)
    (inRange : be.next < be.addresses.length) (accounted : call.Accounted be.addresses.length) :
    (call.lock be).1.Accounted be.addresses.length ∧
      (call.lock be).2 = { be with next := (be.next + 1) % be.addresses.length } := by
  have locked := lock_inRange be call inRange
  simp only at locked
  rw [locked]
  unfold DialCall.Accounted at accounted ⊢
  rw [top] at accounted
  refine ⟨?_, rfl⟩
  rcases accounted with ⟨fresh, tried, log⟩ | ⟨positive, total, log⟩
  · simp [fresh, tried, log]
    omega
  · simp only [positive.ne', if_false, List.length_append, List.length_singleton]
    exact ⟨positive, by omega, by rw [log]⟩

theorem complete_accounted {call : DialCall Conn} {n : Nat} {addr : String}
    (outcome : Except String Conn) (dialing : call.pc = .dialing addr)
    (accounted : call.Accounted n) : (call.complete addr outcome).Accounted n := by
  unfold DialCall.Accounted at accounted
  rw [dialing] at accounted
  obtain ⟨positive, total, log⟩ := accounted
  cases outcome with
  | ok conn => simp only [DialCall.complete, DialCall.Accounted]; omega
  | error e =>
    by_cases more : call.max - 1 > 0
    · simp only [DialCall.complete, DialCall.Accounted, if_pos more]
      refine .inr ⟨more, by omega, by simp [log]⟩
    · simp only [DialCall.complete, DialCall.Accounted, if_neg more]
      refine ⟨by omega, by simp [log], by simp⟩

theorem dialInv_step {w w' : DialWorld Conn} {a : DialAction Conn} (inv : DialInv be₀ w)
    (stepped : w.step a = some w') : DialInv be₀ w' := by
  have nonempty : 0 < be₀.addresses.length := by have := inv.inRange; omega
  have calls_set {i : Nat} {call' : DialCall Conn}
      (accounted : call'.Accounted be₀.addresses.length) :
      ∀ call ∈ w.calls.set i call', call.Accounted be₀.addresses.length := fun call member =>
    (List.mem_or_eq_of_mem_set member).elim (inv.accounted call) (· ▸ accounted)
  obtain rfl | ⟨i, call, found, top, rfl⟩ | ⟨i, call, addr, outcome, found, dialing, rfl⟩ :=
    DialWorld.step_cases stepped
  case inl =>
    refine ⟨inv.frame, inv.inRange, fun call member => ?_⟩
    rcases List.mem_append.mp member with old | fresh
    · exact inv.accounted call old
    · exact List.mem_singleton.mp fresh ▸ start_accounted _
  case inr.inl =>
    have addresses : w.be.addresses = be₀.addresses := by rw [inv.frame]
    have inRange : w.be.next < w.be.addresses.length := addresses ▸ inv.inRange
    obtain ⟨accounted, moved⟩ := lock_accounted top inRange
      (addresses ▸ inv.accounted call (List.getElem?_mem found))
    rw [addresses] at accounted moved
    refine ⟨?_, ?_, calls_set accounted⟩ <;> simp only [moved]
    · rw [inv.frame]
    · exact Nat.mod_lt _ nonempty
  case inr.inr =>
    exact ⟨inv.frame, inv.inRange, calls_set (complete_accounted outcome dialing
      (inv.accounted call (List.getElem?_mem found)))⟩

theorem dialInv_initial (inRange : be₀.next < be₀.addresses.length) :
    DialInv be₀ (⟨be₀, []⟩ : DialWorld Conn) :=
  ⟨rfl, inRange, fun _ member => nomatch member⟩

/-- Whatever the interleaving of calls of `dial`, the cursor stays in range, nothing but
the cursor changes, and no call panics. -/
theorem dial_cursor_in_range (inRange : be₀.next < be₀.addresses.length)
    (acts : List (DialAction Conn)) {w : DialWorld Conn}
    (ran : DialWorld.run ⟨be₀, []⟩ acts = some w) :
    w.be = { be₀ with next := w.be.next } ∧ w.be.next < be₀.addresses.length ∧
      ∀ call ∈ w.calls, call.pc ≠ .panicked := by
  have inv := DialWorld.run_invariant (DialInv be₀) (dialInv_step be₀) acts
    (dialInv_initial be₀ inRange) ran
  refine ⟨inv.frame, inv.inRange, fun call member panicked => ?_⟩
  have accounted := inv.accounted call member
  unfold DialCall.Accounted at accounted
  rw [panicked] at accounted
  exact accounted

/-- A call that returns an error has dialed as many times as there are addresses, each dial
failed, and the error is the last one. -/
theorem dial_failure_after_budget (inRange : be₀.next < be₀.addresses.length)
    (acts : List (DialAction Conn)) {w : DialWorld Conn}
    (ran : DialWorld.run ⟨be₀, []⟩ acts = some w) :
    ∀ call ∈ w.calls, ∀ e, call.pc = .done (.error e) →
      call.tried.length = be₀.addresses.length ∧ call.log.map Prod.fst = call.tried ∧
        call.log.getLast?.map Prod.snd = some e := by
  intro call member e failed
  have accounted := (DialWorld.run_invariant (DialInv be₀) (dialInv_step be₀) acts
    (dialInv_initial be₀ inRange) ran).accounted call member
  unfold DialCall.Accounted at accounted
  rw [failed] at accounted
  exact accounted

theorem length_flatMap_set {α β : Type} (f : α → List β) {x y : α} :
    ∀ {l : List α} {i : Nat}, l[i]? = some x →
      ((l.set i y).flatMap f).length + (f x).length = (l.flatMap f).length + (f y).length
  | [], _, found => nomatch found
  | z :: l, 0, found => by
    obtain rfl : z = x := by simpa using found
    simp only [List.set_cons_zero, List.flatMap_cons, List.length_append]
    omega
  | z :: l, i + 1, found => by
    have := length_flatMap_set f (y := y) (l := l) (i := i) (by simpa using found)
    simp only [List.set_cons_succ, List.flatMap_cons, List.length_append]
    omega

theorem complete_tried (call : DialCall Conn) (addr : String) (outcome : Except String Conn) :
    (call.complete addr outcome).tried = call.tried := by
  cases outcome <;> rfl

theorem rotation_step {w w' : DialWorld Conn} {a : DialAction Conn} (inv : DialInv be₀ w)
    (rotated : w.be.next = (be₀.next + (w.calls.flatMap (·.tried)).length) % be₀.addresses.length)
    (stepped : w.step a = some w') :
    w'.be.next = (be₀.next + (w'.calls.flatMap (·.tried)).length) % be₀.addresses.length := by
  obtain rfl | ⟨i, call, found, top, rfl⟩ | ⟨i, call, addr, outcome, found, dialing, rfl⟩ :=
    DialWorld.step_cases stepped
  · simpa [DialCall.start] using rotated
  · have addresses : w.be.addresses = be₀.addresses := by rw [inv.frame]
    have locked := lock_inRange w.be call (addresses ▸ inv.inRange)
    simp only at locked
    have longer : (call.lock w.be).1.tried.length = call.tried.length + 1 := by simp [locked]
    have moved : (call.lock w.be).2.next = (w.be.next + 1) % be₀.addresses.length := by
      rw [locked, addresses]
    have grows := length_flatMap_set (·.tried) (y := (call.lock w.be).1) found
    simp only [longer] at grows
    dsimp only
    rw [moved, rotated, Nat.mod_add_mod]
    congr 1
    omega
  · have same := length_flatMap_set (·.tried) (y := call.complete addr outcome) found
    simp only [complete_tried] at same
    simp only
    rw [rotated]
    congr 2
    omega

/-- Whatever the interleaving, all calls share one rotation: the cursor has moved on once
for every dial of every call. -/
theorem dial_rotates_globally (inRange : be₀.next < be₀.addresses.length)
    (acts : List (DialAction Conn)) {w : DialWorld Conn}
    (ran : DialWorld.run ⟨be₀, []⟩ acts = some w) :
    w.be.next = (be₀.next + (w.calls.flatMap (·.tried)).length) % be₀.addresses.length :=
  (DialWorld.run_invariant
    (fun w => DialInv be₀ w ∧
      w.be.next = (be₀.next + (w.calls.flatMap (·.tried)).length) % be₀.addresses.length)
    (fun ⟨inv, rotated⟩ stepped =>
      ⟨dialInv_step be₀ inv stepped, rotation_step be₀ inv rotated stepped⟩)
    acts ⟨dialInv_initial be₀ inRange, (Nat.mod_eq_of_lt inRange).symm⟩ ran).2

end Concurrent

def twoAddresses : Backend :=
  ⟨["web"], ["192.0.2.1:443", "192.0.2.2:443"], false, false, "", "", 0, false, "", none, none, 0⟩

/-- Two calls start; each takes an address, the first call's dial fails and it takes the
cursor again, which the second call has moved back to the first address. -/
def contendedDials : List (DialAction String) :=
  [.start, .start, .lock 0, .lock 1, .complete 0 (.error "connection refused"), .lock 0,
    .complete 0 (.error "connection refused")]

/-- Under contention a failed call may have dialed one address twice and another never. -/
theorem dial_contended_retries_address :
    ∃ w, DialWorld.run ⟨twoAddresses, []⟩ contendedDials = some w ∧ ∃ call ∈ w.calls,
      call.pc = .done (.error "connection refused") ∧
        call.tried = ["192.0.2.1:443", "192.0.2.1:443"] ∧ "192.0.2.2:443" ∉ call.tried :=
  ⟨_, rfl, _, List.mem_cons_self _ _, rfl, rfl, by decide⟩

theorem dial_failure_after_budget_contended :
    twoAddresses.next < twoAddresses.addresses.length ∧
    ∃ w, DialWorld.run ⟨twoAddresses, []⟩ contendedDials = some w ∧
      ∀ call ∈ w.calls, ∀ e, call.pc = .done (.error e) →
        call.tried.length = twoAddresses.addresses.length ∧ call.log.map Prod.fst = call.tried ∧
          call.log.getLast?.map Prod.snd = some e :=
  ⟨by decide, _, rfl, dial_failure_after_budget twoAddresses (by decide) contendedDials rfl⟩

theorem dial_rotates_globally_contended :
    twoAddresses.next < twoAddresses.addresses.length ∧
    ∃ w, DialWorld.run ⟨twoAddresses, []⟩ contendedDials = some w ∧
      w.be.next =
        (twoAddresses.next + (w.calls.flatMap (·.tried)).length) % twoAddresses.addresses.length :=
  ⟨by decide, _, rfl, dial_rotates_globally twoAddresses (by decide) contendedDials rfl⟩

/-- Round robin: a call alone dials the rotation from the cursor, and concurrent calls keep
the cursor in range. -/
theorem dial_rotates (net : DialConfig → String → Except String Conn) (be : Backend)
    (inRange : be.next < be.addresses.length) :
    (∃ k, 0 < k ∧ k ≤ be.addresses.length ∧
      (∀ i < k - 1, (net be.dialConfig (rotationAt be.addresses be.next i)).isOk = false) ∧
      (k < be.addresses.length →
        (net be.dialConfig (rotationAt be.addresses be.next (k - 1))).isOk = true) ∧
      (be.dial net).1.pc = .done (net be.dialConfig (rotationAt be.addresses be.next (k - 1))) ∧
      (be.dial net).1.tried = (List.range k).map (rotationAt be.addresses be.next) ∧
      (be.dial net).2 = { be with next := (be.next + k) % be.addresses.length }) ∧
    ∀ (acts : List (DialAction Conn)) (w : DialWorld Conn), DialWorld.run ⟨be, []⟩ acts = some w →
      w.be = { be with next := w.be.next } ∧ w.be.next < be.addresses.length ∧
        ∀ call ∈ w.calls, call.pc ≠ .panicked :=
  ⟨dial_tries_rotation net be inRange, fun acts _ ran => dial_cursor_in_range be inRange acts ran⟩

/-- Three addresses, the cursor on the last one, and a network where only the second
address answers. -/
def threeAddresses : Backend :=
  ⟨["web"], ["192.0.2.1:443", "192.0.2.2:443", "192.0.2.3:443"], false, false, "", "", 0, false,
    "", none, none, 2⟩

def secondAnswers (_ : DialConfig) (addr : String) : Except String String :=
  if addr = "192.0.2.2:443" then .ok addr else .error "connection refused"

theorem dial_rotates_threeAddresses :
    threeAddresses.next < threeAddresses.addresses.length ∧
    (∃ k, 0 < k ∧ k ≤ threeAddresses.addresses.length ∧
      (∀ i < k - 1, (secondAnswers threeAddresses.dialConfig
        (rotationAt threeAddresses.addresses threeAddresses.next i)).isOk = false) ∧
      (k < threeAddresses.addresses.length → (secondAnswers threeAddresses.dialConfig
        (rotationAt threeAddresses.addresses threeAddresses.next (k - 1))).isOk = true) ∧
      (threeAddresses.dial secondAnswers).1.pc = .done (secondAnswers threeAddresses.dialConfig
        (rotationAt threeAddresses.addresses threeAddresses.next (k - 1))) ∧
      (threeAddresses.dial secondAnswers).1.tried =
        (List.range k).map (rotationAt threeAddresses.addresses threeAddresses.next) ∧
      (threeAddresses.dial secondAnswers).2 =
        { threeAddresses with
          next := (threeAddresses.next + k) % threeAddresses.addresses.length }) ∧
    ∀ (acts : List (DialAction String)) (w : DialWorld String),
      DialWorld.run ⟨threeAddresses, []⟩ acts = some w →
        w.be = { threeAddresses with next := w.be.next } ∧
          w.be.next < threeAddresses.addresses.length ∧ ∀ call ∈ w.calls, call.pc ≠ .panicked :=
  ⟨by decide, dial_rotates secondAnswers threeAddresses (by decide)⟩

end TlsProxy.Internal
