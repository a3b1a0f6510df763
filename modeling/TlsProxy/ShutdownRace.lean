import TlsProxy.ProxyState

/-!
# Stopping the proxy

`Start` derives `p.ctx` and `p.cancel` from its context and starts a goroutine that waits
for `p.ctx.Done()`, calls `p.cancel()`, and closes the HTTP server, if there is one, and
the TLS listener.  `Stop` calls `p.cancel()` when it is not nil and then sets it to nil.
Neither holds a lock, and the goroutine reads `p.cancel` again after it wakes up, so
when `Stop` clears the field between its own call and the goroutine's read, the goroutine
calls a nil function and the process dies before the listener is closed.  Each read and
write of the field is one step; a panic ends the process, after which nothing runs.  The
process dies exactly in the runs where the goroutine reads the field after `Stop` cleared it.
-/

namespace TlsProxy.Internal

/-- Where the goroutine started by `Start` is. -/
inductive Watcher
  | waiting
  | woken
  | closing
  | finished
  deriving DecidableEq, Repr

/-- Where a call of `Stop` is: not called, past its nil check, past its call of
`p.cancel()`, or returned. -/
inductive Stopper
  | idle
  | checked
  | called
  | finished
  deriving DecidableEq, Repr

/-- `cancel` is `p.cancel != nil`, `done` is whether `p.ctx.Done()` is closed. -/
structure Shutdown where
  cancel : Bool
  done : Bool
  hasHTTP : Bool
  watcher : Watcher
  stopper : Stopper
  httpClosed : Bool
  listenerClosed : Bool
  crashed : Bool
  deriving DecidableEq, Repr

inductive ShutdownAction
  | parentCancel
  | stop
  | stopCancel
  | stopClear
  | wake
  | watchCancel
  | watchClose
  deriving DecidableEq, Repr

/-- Right after `Start` returned; `hasHTTP` is whether `HTTPAddr` was set. -/
def Shutdown.start (hasHTTP : Bool) : Shutdown :=
  ⟨true, false, hasHTTP, .waiting, .idle, false, false, false⟩

/-- One step of the goroutine, of `Stop`, or the cancellation of the parent context. -/
def Shutdown.step (s : Shutdown) : ShutdownAction → Option Shutdown
  | .parentCancel => if s.crashed then none else some { s with done := true }
  | .stop =>
    match s.crashed, s.stopper with
    | false, .idle => some { s with stopper := if s.cancel then .checked else .finished }
    | _, _ => none
  | .stopCancel =>
    match s.crashed, s.stopper with
    | false, .checked =>
      some (if s.cancel then { s with done := true, stopper := .called }
        else { s with crashed := true })
    | _, _ => none
  | .stopClear =>
    match s.crashed, s.stopper with
    | false, .called => some { s with cancel := false, stopper := .finished }
    | _, _ => none
  | .wake =>
    match s.crashed, s.watcher, s.done with
    | false, .waiting, true => some { s with watcher := .woken }
    | _, _, _ => none
  | .watchCancel =>
    match s.crashed, s.watcher with
    | false, .woken =>
      some (if s.cancel then { s with done := true, watcher := .closing }
        else { s with crashed := true })
    | _, _ => none
  | .watchClose =>
    match s.crashed, s.watcher with
    | false, .closing =>
      some { s with httpClosed := s.httpClosed || s.hasHTTP, listenerClosed := true,
                    watcher := .finished }
    | _, _ => none

def Shutdown.run (s : Shutdown) : List ShutdownAction → Option Shutdown
  | [] => some s
  | a :: acts => (s.step a).bind (·.run acts)

/-- `Stop` cancels and clears the field before the goroutine, woken by the cancellation,
reads it: the goroutine calls nil and the listener is never closed. -/
theorem stop_races_shutdown_goroutine :
    (Shutdown.start false).run [.stop, .stopCancel, .stopClear, .wake, .watchCancel] =
      some { Shutdown.start false with cancel := false, done := true, watcher := .woken,
                                       stopper := .finished, crashed := true } := by
  decide

/-- What a step can do, with the guard that enables it.  A step of a dead process is not
among them. -/
inductive Shutdown.Moves (s : Shutdown) : ShutdownAction → Shutdown → Prop
  | parentCancel : s.crashed = false → Moves s .parentCancel { s with done := true }
  | stop : s.crashed = false → s.stopper = .idle → s.cancel = true →
      Moves s .stop { s with stopper := .checked }
  | stopSkip : s.crashed = false → s.stopper = .idle → s.cancel = false →
      Moves s .stop { s with stopper := .finished }
  | stopCall : s.crashed = false → s.stopper = .checked → s.cancel = true →
      Moves s .stopCancel { s with done := true, stopper := .called }
  | stopNil : s.crashed = false → s.stopper = .checked → s.cancel = false →
      Moves s .stopCancel { s with crashed := true }
  | stopClear : s.crashed = false → s.stopper = .called →
      Moves s .stopClear { s with cancel := false, stopper := .finished }
  | wake : s.crashed = false → s.watcher = .waiting → s.done = true →
      Moves s .wake { s with watcher := .woken }
  | watchCall : s.crashed = false → s.watcher = .woken → s.cancel = true →
      Moves s .watchCancel { s with done := true, watcher := .closing }
  | watchNil : s.crashed = false → s.watcher = .woken → s.cancel = false →
      Moves s .watchCancel { s with crashed := true }
  | watchClose : s.crashed = false → s.watcher = .closing →
      Moves s .watchClose
        { s with httpClosed := s.httpClosed || s.hasHTTP, listenerClosed := true,
                 watcher := .finished }

theorem Shutdown.step_moves {s s' : Shutdown} {a : ShutdownAction}
    (stepped : s.step a = some s') : s.Moves a s' := by
  cases a with
  | parentCancel =>
    simp only [Shutdown.step] at stepped
    split at stepped
    next => contradiction
    next alive => exact Option.some.inj stepped ▸ .parentCancel (by simpa using alive)
  | stop =>
    simp only [Shutdown.step] at stepped
    split at stepped
    next alive idle =>
      obtain rfl := Option.some.inj stepped
      cases set : s.cancel
      · simpa [set] using Moves.stopSkip alive idle set
      · simpa [set] using Moves.stop alive idle set
    next => contradiction
  | stopCancel =>
    simp only [Shutdown.step] at stepped
    split at stepped
    next alive checked =>
      obtain rfl := Option.some.inj stepped
      cases set : s.cancel
      · simpa [set] using Moves.stopNil alive checked set
      · simpa [set] using Moves.stopCall alive checked set
    next => contradiction
  | stopClear =>
    simp only [Shutdown.step] at stepped
    split at stepped
    next alive called => exact Option.some.inj stepped ▸ .stopClear alive called
    next => contradiction
  | wake =>
    simp only [Shutdown.step] at stepped
    split at stepped
    next alive waiting cancelled => exact Option.some.inj stepped ▸ .wake alive waiting cancelled
    next => contradiction
  | watchCancel =>
    simp only [Shutdown.step] at stepped
    split at stepped
    next alive woken =>
      obtain rfl := Option.some.inj stepped
      cases set : s.cancel
      · simpa [set] using Moves.watchNil alive woken set
      · simpa [set] using Moves.watchCall alive woken set
    next => contradiction
  | watchClose =>
    simp only [Shutdown.step] at stepped
    split at stepped
    next alive closing => exact Option.some.inj stepped ▸ .watchClose alive closing
    next => contradiction

/-- Only `Stop` writes the field, once, on its way out; and the process dies only on a nil
field. -/
structure ShutdownInv (s : Shutdown) : Prop where
  cleared : s.cancel = false ↔ s.stopper = .finished
  crash : s.crashed → s.cancel = false

theorem shutdownInv_step {s s' : Shutdown} {a : ShutdownAction} (inv : ShutdownInv s)
    (moves : s.Moves a s') : ShutdownInv s' := by
  obtain ⟨cleared, crash⟩ := inv
  cases moves with
  | parentCancel => exact ⟨cleared, crash⟩
  | stop alive _ set => exact ⟨by simp [set], by simp [alive]⟩
  | stopSkip _ idle unset => exact absurd (cleared.mp unset) (by simp [idle])
  | stopCall alive _ set => exact ⟨by simp [set], by simp [alive]⟩
  -- `Stop` passed its check, so the field is still set: its own call is never nil
  | stopNil _ checked unset => exact absurd (cleared.mp unset) (by simp [checked])
  | stopClear => exact ⟨by simp, fun _ => rfl⟩
  | wake => exact ⟨cleared, crash⟩
  | watchCall => exact ⟨cleared, crash⟩
  | watchNil _ _ unset => exact ⟨cleared, fun _ => unset⟩
  | watchClose => exact ⟨cleared, crash⟩

theorem pair_sublist_append_singleton {α : Type} {x y a : α} {l : List α} :
    [x, y].Sublist (l ++ [a]) ↔ [x, y].Sublist l ∨ (a = y ∧ x ∈ l) := by
  have reversed : [x, y].Sublist (l ++ [a]) ↔ [y, x].Sublist (a :: l.reverse) := by
    rw [← List.reverse_sublist]; simp
  have back : [x, y].Sublist l ↔ [y, x].Sublist l.reverse := by
    rw [← List.reverse_sublist]; simp
  rw [reversed, back, List.sublist_cons_iff]
  simp [eq_comm, and_assoc]

/-- What the steps `done` so far left: the field is nil exactly once `Stop` has cleared it,
and the process has died exactly when the goroutine read the field after that. -/
structure Traced (done : List ShutdownAction) (s : Shutdown) : Prop where
  shutdown : ShutdownInv s
  cleared : s.cancel = false ↔ .stopClear ∈ done
  crashed : s.crashed = true ↔ [ShutdownAction.stopClear, .watchCancel].Sublist done

/-- A step that neither clears nor reads the field, and does not kill the process. -/
theorem traced_quiet {done : List ShutdownAction} {s s' : Shutdown} {a : ShutdownAction}
    (inv : Traced done s) (shutdown : ShutdownInv s') (alive : s.crashed = false)
    (cancel : s'.cancel = s.cancel) (crashed : s'.crashed = s.crashed)
    (notClear : a ≠ .stopClear) (notRead : a ≠ .watchCancel) : Traced (done ++ [a]) s' :=
  ⟨shutdown, by simpa [cancel, notClear.symm] using inv.cleared,
    by simp [crashed, pair_sublist_append_singleton, ← inv.crashed, alive, notRead]⟩

theorem traced_step {done : List ShutdownAction} {s s' : Shutdown} {a : ShutdownAction}
    (inv : Traced done s) (moves : s.Moves a s') : Traced (done ++ [a]) s' := by
  have shutdown := shutdownInv_step inv.shutdown moves
  cases moves with
  | parentCancel alive => exact traced_quiet inv shutdown alive rfl rfl (by simp) (by simp)
  | stop alive => exact traced_quiet inv shutdown alive rfl rfl (by simp) (by simp)
  | stopSkip alive => exact traced_quiet inv shutdown alive rfl rfl (by simp) (by simp)
  | stopCall alive => exact traced_quiet inv shutdown alive rfl rfl (by simp) (by simp)
  | stopNil _ checked unset => exact absurd (inv.shutdown.cleared.mp unset) (by simp [checked])
  | stopClear alive =>
    exact ⟨shutdown, by simp, by simp [pair_sublist_append_singleton, ← inv.crashed, alive]⟩
  | wake alive => exact traced_quiet inv shutdown alive rfl rfl (by simp) (by simp)
  -- the goroutine reads a set field: `Stop` has not cleared it yet, and nothing dies
  | watchCall alive _ set =>
    have notCleared : .stopClear ∉ done := fun cleared => by simp [inv.cleared.mpr cleared] at set
    exact ⟨shutdown, by simpa using inv.cleared,
      by simp [pair_sublist_append_singleton, ← inv.crashed, alive, notCleared]⟩
  -- the goroutine reads the field after `Stop` cleared it, and calls nil
  | watchNil _ _ unset =>
    exact ⟨shutdown, by simpa using inv.cleared,
      by simp [pair_sublist_append_singleton, inv.cleared.mp unset]⟩
  | watchClose alive => exact traced_quiet inv shutdown alive rfl rfl (by simp) (by simp)

theorem traced_run : ∀ {s s' : Shutdown} {done : List ShutdownAction} (acts : List ShutdownAction),
    Traced done s → s.run acts = some s' → Traced (done ++ acts) s'
  | _, _, _, [], inv, ran => by simpa using Option.some.inj ran ▸ inv
  | s, _, done, a :: acts, inv, ran => by
    simp only [Shutdown.run, Option.bind_eq_some] at ran
    obtain ⟨s₁, stepped, ran⟩ := ran
    simpa using traced_run acts (traced_step inv (Shutdown.step_moves stepped)) ran

/-- The process dies exactly when the goroutine reads `p.cancel` after `Stop` has cleared it,
whatever the interleaving: a run in which the goroutine reads the field first, or in which
`Stop` never clears it, does not die; and a dead process has a nil field and a returned
`Stop`. -/
theorem crash_only_after_stop (hasHTTP : Bool) (acts : List ShutdownAction) {s : Shutdown}
    (ran : (Shutdown.start hasHTTP).run acts = some s) :
    (s.crashed = true ↔ [ShutdownAction.stopClear, .watchCancel].Sublist acts) ∧
      (s.crashed = true → s.stopper = .finished ∧ s.cancel = false) := by
  have start : Traced [] (Shutdown.start hasHTTP) := by
    refine ⟨⟨?_, ?_⟩, ?_, ?_⟩ <;> simp [Shutdown.start]
  have inv := traced_run acts start ran
  rw [List.nil_append] at inv
  refine ⟨inv.crashed, fun crashed => ?_⟩
  have cleared := inv.cleared.mpr ((inv.crashed.mp crashed).subset (List.mem_cons_self _ _))
  exact ⟨inv.shutdown.cleared.mp cleared, cleared⟩

/-- `Stop` clearing the field before the goroutine reads it, and the same steps with the
goroutine's read before `Stop` clears it. -/
theorem crash_only_after_stop_race :
    (∃ s, (Shutdown.start false).run [.stop, .stopCancel, .stopClear, .wake, .watchCancel] =
        some s ∧
      (s.crashed = true ↔ [ShutdownAction.stopClear, .watchCancel].Sublist
        [.stop, .stopCancel, .stopClear, .wake, .watchCancel]) ∧
      (s.crashed = true → s.stopper = .finished ∧ s.cancel = false)) ∧
    ∃ s, (Shutdown.start false).run [.stop, .stopCancel, .wake, .watchCancel, .stopClear] =
        some s ∧
      (s.crashed = true ↔ [ShutdownAction.stopClear, .watchCancel].Sublist
        [.stop, .stopCancel, .wake, .watchCancel, .stopClear]) ∧
      (s.crashed = true → s.stopper = .finished ∧ s.cancel = false) :=
  ⟨⟨_, rfl, crash_only_after_stop false _ rfl⟩, ⟨_, rfl, crash_only_after_stop false _ rfl⟩⟩

end TlsProxy.Internal
