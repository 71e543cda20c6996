/-
`(*Net).DialTLSContext`, `(*Net).tlsHandshake`, `(*Net).ListenTLS` and
`(*netListenerTLS).Accept` (`netem/net.go`): TLS on top of the facade's dial and listen.

`DialTLSContext` is sequential up to the `go` statement of `tlsHandshake`; that part is the
function `Net.dialTLSContext`, which either has returned already (a bad address, a failed
dial) or hands over the state in which the handshake starts. From there two goroutines run:
the caller, blocked in a `select` on `ctx.Done()` and on `errch`, and the handshake goroutine,
which runs `tc.HandshakeContext(ctx)` and then sends its result on `errch`, a channel of
capacity one. The context may become done at any moment, the handshake may end at any moment
with any result, and `select` may take either ready case. `Handshake.step` is one move of one
of the three, `Handshake.Reachable` every interleaving of them.

What holds in every reachable state is `Handshake.Inv`: the channel holds at most the one
value the goroutine sent, and only after it sent it; the caller returns a connection only
after receiving `nil`; it closes the dialled connection before returning an error. The send
never blocks (`Handshake.send_enabled`): the goroutine is never left behind on `errch`, which
is what the buffer of one is for. And the caller waits on nothing else: once the handshake has
ended or the context is done, `DialTLSContext` returns within three moves of the goroutines
(`Handshake.returns_promptly`).

`Handshake.ErrInv` says where an error comes from: every error `tlsHandshake` returns is
`ctx.Err()` or the handshake's own, and `conn` is closed only on the way out with an error.
With it, `Net.dialTLSContext_outcome` lists every way `DialTLSContext` can end, and
`Handshake.select_race` shows that the `select` really is a race: with the context done and the
handshake succeeded, the caller may still return either.
-/
import Netem.Dial

set_option autoImplicit false

namespace Netem

/-- The client `*tls.Config` of `DialTLSContext`: the stack's root CAs, and the host as the
caller wrote it for `ServerName` (`NextProtos` is nil). -/
structure TLSConfig where
  rootCAs : Nat
  serverName : String
  deriving DecidableEq, Repr

namespace Handshake

/-- Where `DialTLSContext`'s goroutine is once the handshake goroutine has started. -/
inductive Main where
  /-- blocked in the `select` of `tlsHandshake` -/
  | selecting
  /-- `tlsHandshake` returned `err`; its deferred `tc.SetDeadline(time.Time{})` has run -/
  | returned (err : Option GoError)
  /-- `DialTLSContext` returned this connection and error -/
  | done (conn : Option Conn) (err : Option GoError)

/-- Where the handshake goroutine is. -/
inductive Task where
  /-- inside `tc.HandshakeContext(ctx)` -/
  | handshaking
  /-- at `errch <- err` -/
  | sending (err : Option GoError)
  /-- sent `err` and ended -/
  | exited (err : Option GoError)

/-- The shared state of the two goroutines and of the context. -/
structure State where
  /-- the connection `DialContext` returned -/
  conn : Conn
  config : TLSConfig
  main : Main
  task : Task
  /-- the values buffered in `errch` -/
  errch : List (Option GoError)
  /-- `ctx.Err()` -/
  ctxErr : Option GoError
  /-- the deadline set on `tc` (`none` is `time.Time{}`) -/
  deadline : Option Nat
  /-- whether `conn.Close()` has been called -/
  closed : Bool

/-- One move of the context, of the handshake goroutine, or of the caller. -/
inductive Event where
  /-- `ctx` becomes done with `err` (cancelled, or past its deadline) -/
  | cancel (err : GoError)
  /-- `tc.HandshakeContext(ctx)` returns `err` -/
  | handshakeReturns (err : Option GoError)
  /-- the goroutine executes `errch <- err` -/
  | send
  /-- the `select` takes `case <-ctx.Done()` -/
  | selectDone
  /-- the `select` takes `case err := <-errch` -/
  | selectRecv
  /-- the caller runs the rest of `DialTLSContext` -/
  | finish

/-- `make(chan error, 1)`. -/
def errchCap : Nat := 1

/-- One move, `none` when it is not enabled (a blocked send or receive, a context already
done). Returning from the `select` clears the deadline: the deferred
`tc.SetDeadline(time.Time{})` when `ctx` had a deadline, and without one there was none to
clear. -/
def step (s : State) : Event → Option State
  | .cancel err =>
    match s.ctxErr with
    | none => some { s with ctxErr := some err }
    | some _ => none
  | .handshakeReturns err =>
    match s.task with
    | .handshaking => some { s with task := .sending err }
    | _ => none
  | .send =>
    match s.task with
    | .sending err =>
      if s.errch.length < errchCap then
        some { s with task := .exited err, errch := s.errch ++ [err] }
      else none
    | _ => none
  | .selectDone =>
    match s.main, s.ctxErr with
    | .selecting, some err => some { s with main := .returned (some err), deadline := none }
    | _, _ => none
  | .selectRecv =>
    match s.main, s.errch with
    | .selecting, err :: rest =>
      some { s with main := .returned err, errch := rest, deadline := none }
    | _, _ => none
  | .finish =>
    match s.main with
    | .returned (some err) => some { s with main := .done none (some err), closed := true }
    | .returned none => some { s with main := .done (some (.tlsClient s.conn)) none }
    | _ => none

/-- The state in which the handshake goroutine starts: `tc`'s deadline is `ctx`'s. -/
def State.init (conn : Conn) (config : TLSConfig) (ctxErr : Option GoError)
    (deadline : Option Nat) : State :=
  ⟨conn, config, .selecting, .handshaking, [], ctxErr, deadline, false⟩

/-- The states some interleaving of moves leads to from `s₀`. -/
inductive Reachable (s₀ : State) : State → Prop where
  | init : Reachable s₀ s₀
  | step {s s' : State} (e : Event) : Reachable s₀ s → step s e = some s' → Reachable s₀ s'

/-! ## The invariant -/

/-- What every interleaving keeps. -/
structure Inv (s : State) : Prop where
  /-- nothing is buffered before the goroutine sends -/
  errch_handshaking : s.task = .handshaking → s.errch = []
  errch_sending : ∀ err, s.task = .sending err → s.errch = []
  /-- what is buffered is what the goroutine sent -/
  errch_sent : ∀ err ∈ s.errch, s.task = .exited err
  errch_le : s.errch.length ≤ errchCap
  /-- a sent value waits in the buffer until the caller takes it -/
  errch_exited : ∀ err, s.task = .exited err → s.main = .selecting → s.errch = [err]
  /-- a `nil` from `tlsHandshake` came from the goroutine -/
  returned_nil : s.main = .returned none → s.task = .exited none
  /-- a connection is returned only after a `nil` handshake -/
  done_conn : ∀ c err, s.main = .done (some c) err →
    c = .tlsClient s.conn ∧ err = none ∧ s.task = .exited none
  /-- an error is returned only after `conn.Close()` -/
  done_err : ∀ err, s.main = .done none err → s.closed = true ∧ err.isSome

theorem Inv.init (conn : Conn) (config : TLSConfig) (ctxErr : Option GoError)
    (deadline : Option Nat) : Inv (.init conn config ctxErr deadline) :=
  ⟨fun _ => rfl, fun _ => nofun, fun _ => nofun, by simp [State.init], fun _ => nofun, nofun,
    fun _ _ => nofun, fun _ => nofun⟩

/-- Every move keeps the connection and the config. -/
theorem step_conn {s s' : State} {e : Event} (h : step s e = some s') :
    s'.conn = s.conn ∧ s'.config = s.config := by
  cases e <;> simp only [step] at h <;> (repeat' split at h) <;> cases h <;> exact ⟨rfl, rfl⟩

theorem Inv.step {s s' : State} {e : Event} (hi : Inv s) (h : step s e = some s') : Inv s' := by
  cases e with
  | cancel err =>
    simp only [Handshake.step] at h
    split at h <;> cases h
    exact ⟨hi.errch_handshaking, hi.errch_sending, hi.errch_sent, hi.errch_le, hi.errch_exited,
      hi.returned_nil, hi.done_conn, hi.done_err⟩
  | handshakeReturns err =>
    simp only [Handshake.step] at h
    split at h
    · rename_i ht
      cases h
      have he := hi.errch_handshaking ht
      refine ⟨nofun, fun _ _ => he, fun _ hm => by simp [he] at hm, by simp [he],
        fun _ => nofun, fun hm => by simpa [ht] using hi.returned_nil hm,
        fun c e hm => by simpa [ht] using (hi.done_conn c e hm).2.2, hi.done_err⟩
    · cases h
  | send =>
    simp only [Handshake.step] at h
    split at h
    · rename_i err ht
      split at h
      · cases h
        have he := hi.errch_sending err ht
        refine ⟨nofun, fun _ => nofun, fun x hx => by simp_all, by simp [he, errchCap],
          fun _ h _ => by cases h; simp [he], fun hm => by simpa [ht] using hi.returned_nil hm,
          fun c e hm => by simpa [ht] using (hi.done_conn c e hm).2.2, hi.done_err⟩
      · cases h
    · cases h
  | selectDone =>
    simp only [Handshake.step] at h
    split at h
    · cases h
      exact ⟨hi.errch_handshaking, hi.errch_sending, hi.errch_sent, hi.errch_le,
        fun _ _ => nofun, nofun, fun _ _ => nofun, fun _ => nofun⟩
    · cases h
  | selectRecv =>
    simp only [Handshake.step] at h
    split at h
    · rename_i err rest hm he
      cases h
      have hr : rest = [] := by
        have hlen := hi.errch_le
        rw [he] at hlen
        simpa [errchCap] using hlen
      have hsent := hi.errch_sent err (by simp [he])
      subst hr
      exact ⟨fun _ => rfl, fun _ _ => rfl, fun _ => nofun, by simp, fun _ _ => nofun,
        fun h => by cases h; exact hsent, fun _ _ => nofun, fun _ => nofun⟩
    · cases h
  | finish =>
    simp only [Handshake.step] at h
    split at h
    · cases h
      exact ⟨hi.errch_handshaking, hi.errch_sending, hi.errch_sent, hi.errch_le,
        fun _ _ => nofun, nofun, fun _ _ => nofun, fun _ h => by cases h; exact ⟨rfl, rfl⟩⟩
    · rename_i hm
      cases h
      exact ⟨hi.errch_handshaking, hi.errch_sending, hi.errch_sent, hi.errch_le,
        fun _ _ => nofun, nofun, fun _ _ h => by cases h; exact ⟨rfl, rfl, hi.returned_nil hm⟩,
        fun _ => nofun⟩
    · cases h

theorem Reachable.inv {s₀ s : State} (h₀ : Inv s₀) (h : Reachable s₀ s) : Inv s := by
  induction h with
  | init => exact h₀
  | step _ _ hs ih => exact ih.step hs

theorem Reachable.conn {s₀ s : State} (h : Reachable s₀ s) : s.conn = s₀.conn := by
  induction h with
  | init => rfl
  | step _ _ hs ih => exact (step_conn hs).1.trans ih

/-- The goroutine's send is enabled whenever it is about to send. -/
theorem send_enabled {s : State} (hi : Inv s) {err : Option GoError} (ht : s.task = .sending err) :
    (step s .send).isSome := by
  simp [Handshake.step, ht, hi.errch_sending err ht, errchCap]

/-- A move of the two goroutines, as opposed to one of the context or of the TLS library. -/
def Event.internal : Event → Bool
  | .send | .selectDone | .selectRecv | .finish => true
  | .cancel _ | .handshakeReturns _ => false

/-- **Nobody waits on anybody.** In every reachable state, either both goroutines are done,
or one of them can move, or the handshake is still running: the two goroutines only ever wait
on `tc.HandshakeContext(ctx)` (and on the context, while it runs). -/
theorem progress {conn : Conn} {config : TLSConfig} {ctxErr : Option GoError}
    {deadline : Option Nat} {s : State} (h : Reachable (.init conn config ctxErr deadline) s) :
    (∃ c e r, s.main = .done c e ∧ s.task = .exited r) ∨
    (∃ e, e.internal = true ∧ (step s e).isSome) ∨ s.task = .handshaking := by
  have hi := h.inv (Inv.init conn config ctxErr deadline)
  cases ht : s.task with
  | handshaking => exact .inr (.inr rfl)
  | sending err => exact .inr (.inl ⟨.send, rfl, send_enabled hi ht⟩)
  | exited err =>
    cases hm : s.main with
    | selecting =>
      refine .inr (.inl ⟨.selectRecv, rfl, ?_⟩)
      simp [Handshake.step, hm, hi.errch_exited err ht hm]
    | returned r =>
      refine .inr (.inl ⟨.finish, rfl, ?_⟩)
      cases r <;> simp [Handshake.step, hm]
    | done c e => exact .inl ⟨c, e, err, rfl, rfl⟩

/-- The handshake of a fresh `DialTLSContext` has just returned `nil`. -/
def handshakeReturnedNil : State :=
  { State.init (.stack 0) ⟨0, "ndt0.local"⟩ none none with task := .sending none }

/-- Right after the handshake returned `nil`, nobody is blocked: the goroutine can send. -/
theorem progress_after_handshake :
    Reachable (.init (.stack 0) ⟨0, "ndt0.local"⟩ none none) handshakeReturnedNil ∧
    ((∃ c e r, handshakeReturnedNil.main = .done c e ∧ handshakeReturnedNil.task = .exited r) ∨
      (∃ e, e.internal = true ∧ (step handshakeReturnedNil e).isSome) ∨
      handshakeReturnedNil.task = .handshaking) :=
  have h : Reachable (.init (.stack 0) ⟨0, "ndt0.local"⟩ none none) handshakeReturnedNil :=
    .step (.handshakeReturns none) .init rfl
  ⟨h, progress h⟩

/-- Whether `DialTLSContext` has returned. -/
def Main.isDone : Main → Bool
  | .done _ _ => true
  | _ => false

/-- The moves `evs` in order; `none` as soon as one is not enabled. -/
def run (s : State) : List Event → Option State
  | [] => some s
  | e :: evs => (step s e).bind (run · evs)

/-- **The caller answers promptly.** Once the handshake has returned or the context is done,
`DialTLSContext` returns after at most three moves of the two goroutines, each enabled in
turn: the outer call waits on nothing but the handshake and the context. -/
theorem returns_promptly {conn : Conn} {config : TLSConfig} {ctxErr : Option GoError}
    {deadline : Option Nat} {s : State} (h : Reachable (.init conn config ctxErr deadline) s)
    (hready : s.ctxErr.isSome ∨ s.task ≠ .handshaking) :
    ∃ evs, evs.length ≤ 3 ∧ (∀ e ∈ evs, e.internal = true) ∧
      ∃ s', run s evs = some s' ∧ s'.main.isDone = true := by
  have hi := h.inv (Inv.init conn config ctxErr deadline)
  cases hm : s.main with
  | done c e => exact ⟨[], by simp, by simp, s, rfl, by simp [hm, Main.isDone]⟩
  | returned r =>
    refine ⟨[.finish], by simp, by simp [Event.internal], ?_⟩
    cases r <;> simp [run, step, hm, Main.isDone]
  | selecting =>
    cases hc : s.ctxErr with
    | some err =>
      refine ⟨[.selectDone, .finish], by simp, by simp [Event.internal], ?_⟩
      simp [run, step, hm, hc, Main.isDone]
    | none =>
      cases ht : s.task with
      | handshaking => simp [hc, ht] at hready
      | sending r =>
        refine ⟨[.send, .selectRecv, .finish], by simp, by simp [Event.internal], ?_⟩
        cases r <;> simp [run, step, hm, ht, hi.errch_sending _ ht, errchCap, Main.isDone]
      | exited r =>
        refine ⟨[.selectRecv, .finish], by simp, by simp [Event.internal], ?_⟩
        cases r <;> simp [run, step, hm, hi.errch_exited _ ht hm, Main.isDone]

/-- Right after the handshake returned `nil`, three moves to a connection. -/
theorem returns_promptly_after_handshake :
    Reachable (.init (.stack 0) ⟨0, "ndt0.local"⟩ none none)
      { State.init (.stack 0) ⟨0, "ndt0.local"⟩ none none with task := .sending none } ∧
    ((State.init (.stack 0) ⟨0, "ndt0.local"⟩ none none).ctxErr.isSome ∨
      Task.sending none ≠ .handshaking) ∧
    ∃ evs, evs.length ≤ 3 ∧ (∀ e ∈ evs, e.internal = true) ∧
      ∃ s', run { State.init (.stack 0) ⟨0, "ndt0.local"⟩ none none with task := .sending none }
        evs = some s' ∧ s'.main.isDone = true :=
  have h : Reachable (.init (.stack 0) ⟨0, "ndt0.local"⟩ none none)
      { State.init (.stack 0) ⟨0, "ndt0.local"⟩ none none with task := .sending none } :=
    .step (.handshakeReturns none) .init rfl
  have hready : (State.init (.stack 0) ⟨0, "ndt0.local"⟩ none none).ctxErr.isSome ∨
      Task.sending none ≠ .handshaking := .inr nofun
  ⟨h, hready, returns_promptly h hready⟩

/-! ## The deadline -/

/-- `tc`'s deadline is `ctx`'s (`d`) while the caller waits in the `select`, and none once
`tlsHandshake` has returned. -/
def DeadlineInv (d : Option Nat) (s : State) : Prop :=
  s.deadline = match s.main with
    | .selecting => d
    | _ => none

theorem DeadlineInv.step {d : Option Nat} {s s' : State} {e : Event} (hd : DeadlineInv d s)
    (h : step s e = some s') : DeadlineInv d s' := by
  unfold DeadlineInv at hd ⊢
  cases e <;> simp only [Handshake.step] at h <;> (repeat' split at h) <;> cases h <;>
    simp_all

theorem Reachable.deadlineInv {d : Option Nat} {s₀ s : State} (h₀ : DeadlineInv d s₀)
    (h : Reachable s₀ s) : DeadlineInv d s := by
  induction h with
  | init => exact h₀
  | step _ _ hs ih => exact ih.step hs

/-! ## Where an error comes from -/

/-- The error `tlsHandshake` returned, once it has returned. -/
def Main.err : Main → Option GoError
  | .selecting => none
  | .returned err => err
  | .done _ err => err

/-- What every interleaving keeps about the caller's way out: an error `tlsHandshake` returned
is `ctx.Err()` or the error the goroutine sent, and `conn.Close()` is called only on the way
out with an error. -/
structure ErrInv (s : State) : Prop where
  err_source : ∀ e, s.main.err = some e → s.ctxErr = some e ∨ s.task = .exited (some e)
  closed_done : s.closed = true → ∃ err, s.main = .done none err

theorem ErrInv.init (conn : Conn) (config : TLSConfig) (ctxErr : Option GoError)
    (deadline : Option Nat) : ErrInv (.init conn config ctxErr deadline) :=
  ⟨fun _ h => (by cases h), fun h => (by cases h)⟩

/-- Before `DialTLSContext` returns, the connection is open. -/
theorem ErrInv.open_of_ne_done {s : State} (he : ErrInv s) (hm : ∀ err, s.main ≠ .done none err) :
    s.closed = false := by
  cases hc : s.closed
  · rfl
  · obtain ⟨err, h⟩ := he.closed_done hc
    exact (hm err h).elim

theorem ErrInv.step {s s' : State} {e : Event} (hi : Inv s) (he : ErrInv s)
    (h : step s e = some s') : ErrInv s' := by
  cases e with
  | cancel err =>
    simp only [Handshake.step] at h
    split at h <;> cases h
    rename_i hc
    exact ⟨fun e hm => .inr ((he.err_source e hm).resolve_left (by simp [hc])), he.closed_done⟩
  | handshakeReturns err =>
    simp only [Handshake.step] at h
    split at h <;> cases h
    rename_i ht
    exact ⟨fun e hm => .inl ((he.err_source e hm).resolve_right (by simp [ht])), he.closed_done⟩
  | send =>
    simp only [Handshake.step] at h
    split at h
    · rename_i ht
      split at h <;> cases h
      exact ⟨fun e hm => .inl ((he.err_source e hm).resolve_right (by simp [ht])),
        he.closed_done⟩
    · cases h
  | selectDone =>
    simp only [Handshake.step] at h
    split at h
    · next err hm hc =>
      cases h
      exact ⟨fun e h => (by cases h; exact .inl hc),
        fun h => by simp [he.open_of_ne_done (by simp [hm])] at h⟩
    · cases h
  | selectRecv =>
    simp only [Handshake.step] at h
    split at h
    · next err rest hm hq =>
      cases h
      exact ⟨fun e h => .inr (by cases h; exact hi.errch_sent _ (by simp [hq])),
        fun h => by simp [he.open_of_ne_done (by simp [hm])] at h⟩
    · cases h
  | finish =>
    simp only [Handshake.step] at h
    split at h
    · next err hm =>
      cases h
      exact ⟨fun e h => he.err_source e (by simpa [Main.err, hm] using h), fun _ => ⟨_, rfl⟩⟩
    · next hm =>
      cases h
      exact ⟨fun e h => (by cases h), fun h => by simp [he.open_of_ne_done (by simp [hm])] at h⟩
    · cases h

theorem Reachable.errInv {s₀ s : State} (hi₀ : Inv s₀) (he₀ : ErrInv s₀) (h : Reachable s₀ s) :
    ErrInv s := by
  induction h with
  | init => exact he₀
  | step _ hr hs ih => exact ih.step (hr.inv hi₀) hs

/-- **How `DialTLSContext` returns.** In every interleaving, once it has returned it has either
returned `tls.Client` over the dialled `conn`, after the goroutine sent `nil`, and left `conn`
open; or returned an error after `conn.Close()`, and that error is `ctx.Err()` or the error the
handshake reported, nothing else. -/
theorem done_cases {conn : Conn} {config : TLSConfig} {ctxErr : Option GoError}
    {deadline : Option Nat} {s : State} {c : Option Conn} {err : Option GoError}
    (h : Reachable (.init conn config ctxErr deadline) s) (hm : s.main = .done c err) :
    (c = some (.tlsClient conn) ∧ err = none ∧ s.task = .exited none ∧ s.closed = false) ∨
    (c = none ∧ s.closed = true ∧
      ∃ e, err = some e ∧ (s.ctxErr = some e ∨ s.task = .exited (some e))) := by
  have hi := h.inv (Inv.init conn config ctxErr deadline)
  have he := h.errInv (Inv.init conn config ctxErr deadline)
    (ErrInv.init conn config ctxErr deadline)
  cases c with
  | some c =>
    obtain ⟨rfl, rfl, ht⟩ := hi.done_conn c err hm
    exact .inl ⟨by rw [h.conn]; rfl, rfl, ht, he.open_of_ne_done (by simp [hm])⟩
  | none =>
    obtain ⟨hc, hsome⟩ := hi.done_err err hm
    obtain ⟨e, rfl⟩ := Option.isSome_iff_exists.mp hsome
    exact .inr ⟨rfl, hc, e, rfl, he.err_source e (by simp [hm, Main.err])⟩

/-- **The `select` is a race.** Whenever the caller waits in the `select` while the context is
done and the handshake has succeeded, both answers remain open: some moves of the two
goroutines make `DialTLSContext` return the connection although the context is done, others
make it return `ctx.Err()`, closing a connection whose handshake succeeded. -/
theorem select_race {conn : Conn} {config : TLSConfig} {ctxErr : Option GoError}
    {deadline : Option Nat} {s : State} {e : GoError}
    (h : Reachable (.init conn config ctxErr deadline) s) (hm : s.main = .selecting)
    (hc : s.ctxErr = some e) (ht : s.task = .sending none ∨ s.task = .exited none) :
    (∃ evs, (∀ ev ∈ evs, ev.internal = true) ∧
      ∃ s', run s evs = some s' ∧ s'.main = .done (some (.tlsClient conn)) none) ∧
    (∃ evs, (∀ ev ∈ evs, ev.internal = true) ∧
      ∃ s', run s evs = some s' ∧ s'.main = .done none (some e) ∧ s'.closed = true) := by
  have hi := h.inv (Inv.init conn config ctxErr deadline)
  have hconn : s.conn = conn := h.conn
  refine ⟨?_, ⟨[.selectDone, .finish], by simp [Event.internal], ?_⟩⟩
  · rcases ht with ht | ht
    · refine ⟨[.send, .selectRecv, .finish], by simp [Event.internal], ?_⟩
      simp [run, step, hm, ht, hi.errch_sending _ ht, errchCap, hconn]
    · refine ⟨[.selectRecv, .finish], by simp [Event.internal], ?_⟩
      simp [run, step, hm, hi.errch_exited _ ht hm, hconn]
  · simp [run, step, hm, hc]

/-- Cancelled at entry, and the handshake has just succeeded. -/
def canceledAfterHandshake : State :=
  { State.init (.stack 0) ⟨0, "ndt0.local"⟩ (some contextCanceled) none with
    task := .sending none }

/-- A context cancelled before the handshake even started can still end in a connection, and a
successful handshake can still end in `context canceled`. -/
theorem select_race_canceled :
    Reachable (.init (.stack 0) ⟨0, "ndt0.local"⟩ (some contextCanceled) none)
      canceledAfterHandshake ∧
    canceledAfterHandshake.main = .selecting ∧
    canceledAfterHandshake.ctxErr = some contextCanceled ∧
    (canceledAfterHandshake.task = .sending none ∨ canceledAfterHandshake.task = .exited none) ∧
    (∃ evs, (∀ ev ∈ evs, ev.internal = true) ∧ ∃ s', run canceledAfterHandshake evs = some s' ∧
        s'.main = .done (some (.tlsClient (.stack 0))) none) ∧
    (∃ evs, (∀ ev ∈ evs, ev.internal = true) ∧ ∃ s', run canceledAfterHandshake evs = some s' ∧
        s'.main = .done none (some contextCanceled) ∧ s'.closed = true) :=
  have h : Reachable (.init (.stack 0) ⟨0, "ndt0.local"⟩ (some contextCanceled) none)
      canceledAfterHandshake := .step (.handshakeReturns none) .init rfl
  ⟨h, rfl, rfl, .inl rfl, select_race h rfl rfl (.inl rfl)⟩

end Handshake

namespace Net

variable {W : Type} (rt : Runtime W) (n : Net W) (ctx : Context W)

/-- `(*Net).DialTLSContext` up to the `go` statement of `tlsHandshake`: the early return of a
bad address or a failed dial, or the state the handshake starts in. -/
def dialTLSContext (w : W) (network address : String) : Run W (Except GoError Handshake.State) :=
  match splitHostPort address with
  | .error e =>
    let a := rt.alloc w
    ⟨a.1, [], .error (e.toError a.2)⟩
  | .ok (hostname, _) =>
    let r := n.dialContext rt ctx w network address
    match r.result with
    | .error err => ⟨r.world, r.calls, .error err⟩
    | .ok conn =>
      ⟨r.world, r.calls, .ok (.init conn ⟨n.stack.defaultCertPool r.world, hostname⟩
        (ctx.err r.world) ctx.deadline)⟩

end Net

/-! ## The server side -/

/-- What the server side of `crypto/tls` and a connection's `Close` do, seen from a world. -/
structure TLSServer (W : Type) where
  /-- `tls.Server(conn, config).HandshakeContext(ctx)`, for `ctx` from
  `context.WithTimeout(context.Background(), timeout)`. -/
  handshakeContext : W → Conn → Nat → Nat → W × Option GoError
  /-- `conn.Close()`. -/
  close : W → Conn → W

/-- `netListenerTLS`: the server config, the listener it wraps, the stack. -/
structure NetListenerTLS (W : Type) where
  config : Nat
  listener : Listener W
  stack : UnderlyingNetwork W

/-- `10*time.Second` in nanoseconds, the bound `Accept` puts on a server handshake. -/
def acceptHandshakeTimeout : Nat := 10 * 1000000000

namespace Net

variable {W : Type} (n : Net W)

/-- `(*Net).ListenTCP`. -/
def listenTCP (w : W) (network laddr : String) : W × Except GoError (Listener W) :=
  n.stack.listenTCP w network laddr

/-- `(*Net).ListenTLS`: the stack's TCP listener, wrapped. -/
def listenTLS (w : W) (network laddr : String) (config : Nat) :
    W × Except GoError (NetListenerTLS W) :=
  match n.listenTCP w network laddr with
  | (w, .error err) => (w, .error err)
  | (w, .ok listener) => (w, .ok ⟨config, listener, n.stack⟩)

end Net

namespace NetListenerTLS

variable {W : Type}

/-- `(*netListenerTLS).Accept`: accept, run the server handshake under a ten-second timeout,
and close the accepted connection if it fails. -/
def accept (lw : NetListenerTLS W) (srv : TLSServer W) (w : W) : Run W (Except GoError Conn) :=
  let a := lw.listener.accept w
  match a.2 with
  | .error err => ⟨a.1, [.accept (.error err)], .error err⟩
  | .ok conn =>
    let h := srv.handshakeContext a.1 (.tlsServer conn) lw.config acceptHandshakeTimeout
    match h.2 with
    | some err =>
      ⟨srv.close h.1 conn, [.accept (.ok conn),
        .handshake (.tlsServer conn) acceptHandshakeTimeout (some err), .close conn], .error err⟩
    | none =>
      ⟨h.1, [.accept (.ok conn), .handshake (.tlsServer conn) acceptHandshakeTimeout none],
        .ok (.tlsServer conn)⟩

end NetListenerTLS

namespace Net

variable {W : Type} (rt : Runtime W) (n : Net W) (ctx : Context W)

theorem dialTLSContext_of_error {w : W} {network address : String} {err : GoError}
    (h : (n.dialTLSContext rt ctx w network address).result = .error err) :
    ∃ e, (n.dialContext rt ctx w network address).result = .error e := by
  unfold dialTLSContext at h
  cases hs : splitHostPort address with
  | error e => exact ⟨_, by rw [dialContext_of_split_error rt n ctx hs]⟩
  | ok hp =>
    simp only [hs] at h
    cases hr : (n.dialContext rt ctx w network address).result with
    | error e => exact ⟨e, rfl⟩
    | ok c => simp [hr] at h

theorem dialTLSContext_of_ok {w : W} {network address : String} {s₀ : Handshake.State}
    (h : (n.dialTLSContext rt ctx w network address).result = .ok s₀) :
    ∃ hostname port, splitHostPort address = .ok (hostname, port) ∧
      (n.dialContext rt ctx w network address).result = .ok s₀.conn ∧
      s₀ = .init s₀.conn
        ⟨n.stack.defaultCertPool (n.dialContext rt ctx w network address).world, hostname⟩
        (ctx.err (n.dialContext rt ctx w network address).world) ctx.deadline := by
  unfold dialTLSContext at h
  cases hs : splitHostPort address with
  | error e => simp [hs] at h
  | ok hp =>
    obtain ⟨hostname, port⟩ := hp
    simp only [hs] at h
    cases hr : (n.dialContext rt ctx w network address).result with
    | error e => simp [hr] at h
    | ok c =>
      simp only [hr, Except.ok.injEq] at h
      subst h
      exact ⟨hostname, port, rfl, rfl, rfl⟩

/-- The state `DialTLSContext` hands over on `multi.local:443`: the first address refused, the
second accepted as `.stack 3`. -/
def tlsStart : Handshake.State := .init (.stack 3) ⟨0, "multi.local"⟩ none none

/-- The handshake returned `nil`, the caller received it and returned the connection. -/
def tlsConnected : Handshake.State :=
  { tlsStart with main := .done (some (.tlsClient (.stack 3))) none, task := .exited none }

/-- The context was cancelled during the handshake, the caller took `ctx.Done()`, closed the
connection and returned `context canceled`. -/
def tlsCanceled : Handshake.State :=
  { tlsStart with
    main := .done none (some contextCanceled), ctxErr := some contextCanceled, closed := true }

theorem tlsStart_reachable_connected : Handshake.Reachable tlsStart tlsConnected :=
  .step .finish (.step .selectRecv (.step .send (.step (.handshakeReturns none) .init rfl) rfl)
    rfl) rfl

theorem tlsStart_reachable_canceled : Handshake.Reachable tlsStart tlsCanceled :=
  .step .finish (.step .selectDone (.step (.cancel contextCanceled) .init rfl) rfl) rfl

/-- **The handshake runs under `ctx`'s deadline, and no deadline outlives it.** From the start
of the handshake until `tlsHandshake` returns, `tc`'s deadline is `ctx.Deadline()`; from the
moment `tlsHandshake` returns, its deferred `tc.SetDeadline(time.Time{})` having run, and so
also whenever `DialTLSContext` has returned, there is none. -/
theorem dialTLSContext_deadline (w : W) (network address : String) :
    ∀ s₀, (n.dialTLSContext rt ctx w network address).result = .ok s₀ →
      ∀ s, Handshake.Reachable s₀ s →
        (s.main = .selecting → s.deadline = ctx.deadline) ∧
        (s.main ≠ .selecting → s.deadline = none) := by
  intro s₀ h s hr
  obtain ⟨hostname, port, -, -, hs₀⟩ := dialTLSContext_of_ok rt n ctx h
  have hd := hr.deadlineInv (d := ctx.deadline) (by rw [hs₀]; rfl)
  unfold Handshake.DeadlineInv at hd
  refine ⟨fun hm => by rw [hd, hm], fun hm => ?_⟩
  rw [hd]
  split
  · next heq => exact absurd heq hm
  · rfl

/-- A context with a deadline, for the run below. -/
def deadlineCtx : Context Nat := ⟨fun _ => none, some 4000000000⟩

/-- The state `DialTLSContext` hands over on `multi.local:443` under `deadlineCtx`. -/
def deadlineStart : Handshake.State := .init (.stack 3) ⟨0, "multi.local"⟩ none (some 4000000000)

/-- The same once the handshake returned `nil` and the caller received it: `tlsHandshake` has
returned. -/
def deadlineReturned : Handshake.State :=
  { deadlineStart with main := .returned none, task := .exited none, deadline := none }

/-- On `multi.local:443` under a context with a deadline, the handshake starts with that
deadline on `tc`, and once `tlsHandshake` has returned `nil` there is none. -/
theorem dialTLSContext_deadline_multi :
    (demoNet.dialTLSContext demoRuntime deadlineCtx 1 "tcp" "multi.local:443").result =
      .ok deadlineStart ∧
    Handshake.Reachable deadlineStart deadlineStart ∧
    Handshake.Reachable deadlineStart deadlineReturned ∧
    ((deadlineStart.main = .selecting → deadlineStart.deadline = deadlineCtx.deadline) ∧
      (deadlineStart.main ≠ .selecting → deadlineStart.deadline = none)) ∧
    ((deadlineReturned.main = .selecting → deadlineReturned.deadline = deadlineCtx.deadline) ∧
      (deadlineReturned.main ≠ .selecting → deadlineReturned.deadline = none)) :=
  have h : (demoNet.dialTLSContext demoRuntime deadlineCtx 1 "tcp" "multi.local:443").result =
      .ok deadlineStart := rfl
  have hr : Handshake.Reachable deadlineStart deadlineReturned :=
    .step .selectRecv (.step .send (.step (.handshakeReturns none) .init rfl) rfl) rfl
  ⟨h, .init, hr,
    dialTLSContext_deadline demoRuntime demoNet deadlineCtx 1 "tcp" "multi.local:443" _ h _ .init,
    dialTLSContext_deadline demoRuntime demoNet deadlineCtx 1 "tcp" "multi.local:443" _ h _ hr⟩

/-- A failed `DialContext` is the whole of `DialTLSContext`: its own `SplitHostPort` fails
exactly when `DialContext`'s does, on the same world and the same allocation. -/
theorem dialTLSContext_of_dialContext_error {w : W} {network address : String} {err : GoError}
    (h : (n.dialContext rt ctx w network address).result = .error err) :
    n.dialTLSContext rt ctx w network address =
      ⟨(n.dialContext rt ctx w network address).world,
        (n.dialContext rt ctx w network address).calls, .error err⟩ := by
  unfold dialTLSContext
  cases hs : splitHostPort address with
  | error e =>
    rw [dialContext_of_split_error rt n ctx hs] at h ⊢
    cases h
    rfl
  | ok hp =>
    obtain ⟨hostname, port⟩ := hp
    simp only [h]

/-- **Every way `DialTLSContext` ends.** For every stack, every handshake outcome and every
interleaving with the context: `DialTLSContext` fails before the handshake exactly when
`DialContext` fails, with the same error and the same calls (its own `SplitHostPort` adds
nothing); and once the handshake has started and `DialTLSContext` has returned, it has returned
`tls.Client` over the connection `DialContext` returned and left that connection open, or it has
closed it and returned `ctx.Err()` or the handshake's error. -/
theorem dialTLSContext_outcome (w : W) (network address : String) :
    (∀ err, (n.dialTLSContext rt ctx w network address).result = .error err ↔
      (n.dialContext rt ctx w network address).result = .error err) ∧
    (∀ err, (n.dialContext rt ctx w network address).result = .error err →
      (n.dialTLSContext rt ctx w network address).calls =
        (n.dialContext rt ctx w network address).calls) ∧
    ∀ s₀, (n.dialTLSContext rt ctx w network address).result = .ok s₀ →
      ∀ s c err, Handshake.Reachable s₀ s → s.main = .done c err →
        ((n.dialContext rt ctx w network address).result = .ok s₀.conn ∧
          c = some (.tlsClient s₀.conn) ∧ err = none ∧ s.closed = false) ∨
        (c = none ∧ s.closed = true ∧
          ∃ e, err = some e ∧ (s.ctxErr = some e ∨ s.task = .exited (some e))) := by
  refine ⟨fun err => ⟨fun h => ?_, fun h => by rw [dialTLSContext_of_dialContext_error rt n ctx h]⟩,
    fun err h => by rw [dialTLSContext_of_dialContext_error rt n ctx h],
    fun s₀ h s c err hr hm => ?_⟩
  · obtain ⟨e, he⟩ := dialTLSContext_of_error rt n ctx h
    rw [dialTLSContext_of_dialContext_error rt n ctx he] at h
    cases h
    exact he
  · obtain ⟨hostname, port, -, hd, hs₀⟩ := dialTLSContext_of_ok rt n ctx h
    rw [hs₀] at hr
    rcases Handshake.done_cases hr hm with ⟨hc, herr, -, hcl⟩ | hfail
    · exact .inl ⟨hd, hc, herr, hcl⟩
    · exact .inr hfail

/-- The two ends of the handshake on `multi.local:443`, and the early failure on `ndt0.local:443`,
where `DialContext` returns its empty aggregate: the connection left open, `context canceled`
after closing it, and `DialContext`'s error and calls passed on unchanged. -/
theorem dialTLSContext_outcome_multi :
    ((demoNet.dialTLSContext demoRuntime backgroundCtx 1 "tcp" "ndt0.local:443").result =
        .error (.errDial 1 []) ↔
      (demoNet.dialContext demoRuntime backgroundCtx 1 "tcp" "ndt0.local:443").result =
        .error (.errDial 1 [])) ∧
    (demoNet.dialContext demoRuntime backgroundCtx 1 "tcp" "ndt0.local:443").result =
      .error (.errDial 1 []) ∧
    (demoNet.dialTLSContext demoRuntime backgroundCtx 1 "tcp" "ndt0.local:443").calls =
      (demoNet.dialContext demoRuntime backgroundCtx 1 "tcp" "ndt0.local:443").calls ∧
    (demoNet.dialTLSContext demoRuntime backgroundCtx 1 "tcp" "multi.local:443").result =
      .ok tlsStart ∧
    Handshake.Reachable tlsStart tlsConnected ∧
    tlsConnected.main = .done (some (.tlsClient (.stack 3))) none ∧
    (((demoNet.dialContext demoRuntime backgroundCtx 1 "tcp" "multi.local:443").result =
          .ok tlsStart.conn ∧
        some (Conn.tlsClient (.stack 3)) = some (.tlsClient tlsStart.conn) ∧
        (none : Option GoError) = none ∧ tlsConnected.closed = false) ∨
      (some (Conn.tlsClient (.stack 3)) = none ∧ tlsConnected.closed = true ∧
        ∃ e, (none : Option GoError) = some e ∧
          (tlsConnected.ctxErr = some e ∨ tlsConnected.task = .exited (some e)))) ∧
    Handshake.Reachable tlsStart tlsCanceled ∧
    tlsCanceled.main = .done none (some contextCanceled) ∧
    (((demoNet.dialContext demoRuntime backgroundCtx 1 "tcp" "multi.local:443").result =
          .ok tlsStart.conn ∧
        (none : Option Conn) = some (.tlsClient tlsStart.conn) ∧
        some contextCanceled = none ∧ tlsCanceled.closed = false) ∨
      ((none : Option Conn) = none ∧ tlsCanceled.closed = true ∧
        ∃ e, some contextCanceled = some e ∧
          (tlsCanceled.ctxErr = some e ∨ tlsCanceled.task = .exited (some e)))) :=
  have hfail : (demoNet.dialContext demoRuntime backgroundCtx 1 "tcp" "ndt0.local:443").result =
      .error (.errDial 1 []) := rfl
  have h : (demoNet.dialTLSContext demoRuntime backgroundCtx 1 "tcp" "multi.local:443").result =
      .ok tlsStart := rfl
  have early := dialTLSContext_outcome demoRuntime demoNet backgroundCtx 1 "tcp" "ndt0.local:443"
  have late := (dialTLSContext_outcome demoRuntime demoNet backgroundCtx 1 "tcp"
    "multi.local:443").2.2 tlsStart h
  ⟨early.1 _, hfail, early.2.1 _ hfail, h, tlsStart_reachable_connected, rfl,
    late tlsConnected _ _ tlsStart_reachable_connected rfl, tlsStart_reachable_canceled, rfl,
    late tlsCanceled _ _ tlsStart_reachable_canceled rfl⟩

end Net

end Netem
