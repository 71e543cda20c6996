/-
The world the host-network facade (`netem/net.go`) runs in, and the facade's two resolver
calls, `(*Net).LookupHost` and `(*Net).LookupCNAME`.

The facade is a thin layer over collaborators it does not own: the `UnderlyingNetwork` stack
(dials, resolves), the `context.Context` it is handed, and Go's runtime (allocation,
`net.ParseIP`). None of them is specified here. Each is a field of a structure, a function of
a world `W` returning the world it leaves, so a theorem about the facade holds for every
stack, every resolver, every schedule of cancellation and every allocator. The context is
passed to the stack exactly as the Go code passes it, and `Context.err` is a function of the
world, so `ctx` may become done at any point of a run.

A facade operation is modelled as a `Run`: the world after it, the external calls it made in
order with the answers they got, and its result. A recorded call is one the stack answered so
under the caller's context (`Call.Answered`); `Net.dialContext_calls_stack` proves it of every
call `DialContext` records.
-/
import Netem.HostPort

set_option autoImplicit false

namespace Netem

/-- A `net.Conn`: one the stack dialled or accepted, or a TLS connection over one
(`tls.Client`, `tls.Server`). -/
inductive Conn where
  | stack (id : Nat)
  | tlsClient (conn : Conn)
  | tlsServer (conn : Conn)
  deriving DecidableEq, Repr

/-- A `context.Context` seen from world `W`. -/
structure Context (W : Type) where
  /-- `ctx.Err()`: `none` while `ctx.Done()` is open. -/
  err : W → Option GoError
  /-- `ctx.Deadline()`. -/
  deadline : Option Nat

/-- A `net.Listener`: `Accept` waits for the next connection. -/
structure Listener (W : Type) where
  accept : W → W × Except GoError Conn

/-- The methods of `UnderlyingNetwork` the facade calls. -/
structure UnderlyingNetwork (W : Type) where
  /-- `DialContext(ctx, network, address)`. -/
  dialContext : Context W → W → String → String → W × Except GoError Conn
  /-- `GetaddrinfoLookupANY(ctx, domain)`: the addresses, the canonical name, the error. -/
  getaddrinfoLookupANY : Context W → W → String → W × List String × String × Option GoError
  /-- `DefaultCertPool()`, the root CAs a client trusts. -/
  defaultCertPool : W → Nat
  /-- `ListenTCP(network, addr)`. -/
  listenTCP : W → String → String → W × Except GoError (Listener W)

/-- `Net`: the facade; `Stack` is its only field. -/
structure Net (W : Type) where
  stack : UnderlyingNetwork W

/-- What the facade takes from Go's runtime beyond `SplitHostPort` and `JoinHostPort`: a fresh
address for each value it allocates (`&ErrDial{}`, `fmt.Errorf`, the `*net.AddrError` of a
failed split), and `net.ParseIP`, of which it only asks whether the result is nil. -/
structure Runtime (W : Type) where
  alloc : W → W × Nat
  parseIP : String → Option (List UInt8)

/-- One external call of a facade operation, with the answer it got. -/
inductive Call where
  | getaddrinfoLookupANY (domain : String) (addrs : List String) (cname : String)
      (err : Option GoError)
  | dialContext (network endpoint : String) (answer : Except GoError Conn)
  | accept (answer : Except GoError Conn)
  | handshake (conn : Conn) (timeout : Nat) (answer : Option GoError)
  | close (conn : Conn)

/-- The endpoint and the error of a failed `Stack.DialContext` call. -/
def Call.dialFailure : Call → Option (String × GoError)
  | .dialContext _ endpoint (.error e) => some (endpoint, e)
  | _ => none

/-- The error the resolver answered, if the call is a failed `GetaddrinfoLookupANY`. -/
def Call.lookupError : Call → Option GoError
  | .getaddrinfoLookupANY _ _ _ err => err
  | _ => none

/-- A run of a facade operation: the world it leaves, its calls in order, its result. -/
structure Run (W α : Type) where
  world : W
  calls : List Call
  result : α

namespace Run

variable {W α : Type}

/-- The same run after the calls `cs`. -/
def prepend (cs : List Call) (r : Run W α) : Run W α := { r with calls := cs ++ r.calls }

@[simp] theorem prepend_world (cs : List Call) (r : Run W α) : (r.prepend cs).world = r.world :=
  rfl
@[simp] theorem prepend_calls (cs : List Call) (r : Run W α) :
    (r.prepend cs).calls = cs ++ r.calls := rfl
@[simp] theorem prepend_result (cs : List Call) (r : Run W α) :
    (r.prepend cs).result = r.result := rfl

/-- The failed dials of the run, in order: the endpoint and what the stack answered. -/
def dialFailures (r : Run W α) : List (String × GoError) := r.calls.filterMap Call.dialFailure

/-- What the stack answered to the failed dials of the run, in order. -/
def stackErrors (r : Run W α) : List GoError := r.dialFailures.map Prod.snd

end Run

namespace Net

variable {W : Type} (n : Net W) (ctx : Context W)

/-- `(*Net).LookupHost`: one `GetaddrinfoLookupANY`; addresses and error returned as they
come, the canonical name dropped. -/
def lookupHost (w : W) (domain : String) : Run W (List String × Option GoError) :=
  let a := n.stack.getaddrinfoLookupANY ctx w domain
  ⟨a.1, [.getaddrinfoLookupANY domain a.2.1 a.2.2.1 a.2.2.2], (a.2.1, a.2.2.2)⟩

/-- `(*Net).LookupCNAME`: the same call, the canonical name kept instead. -/
def lookupCNAME (w : W) (domain : String) : Run W (String × Option GoError) :=
  let a := n.stack.getaddrinfoLookupANY ctx w domain
  ⟨a.1, [.getaddrinfoLookupANY domain a.2.1 a.2.2.1 a.2.2.2], (a.2.2.1, a.2.2.2)⟩

end Net

end Netem
