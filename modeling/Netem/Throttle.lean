/-
`cmd/throttle` (`main`), from the moment the NDT0 client has closed `perfch` (lines 104-121):
receive the client's error and the server's error, warn about each, close the topology, and
panic through `netem.Must0` if either failed.

Before that point `main` wires library code that lives outside this source (the DPI engine
with one `DPIThrottleTrafficForTLSSNI` rule, a star topology, `RunNDT0Server`,
`RunNDT0Client`) and prints the samples the client sends; what `main` itself decides is how it
reports the two goroutines' errors, and that is what this file models, over every pair of
errors the two goroutines may send. Three calls were deferred earlier and run when `main` ends,
by returning or by panicking, last deferred first: `listener.Close()` (line 83),
`topology.Close()` (line 66) and `cancel()` (line 28).

Line 113 warns about the server with `errClient.Error()`. `Throttle.report_server_error_lost`
states what follows, for every pair of errors: the server's error is never logged and never
the panic; when only the server failed, evaluating that argument calls `Error()` on a nil
`error`, and the program dies of the runtime's nil dereference before its own
`topology.Close()` and before `Must0(errServer)`.
-/
import Netem.Errors

set_option autoImplicit false

namespace Netem

namespace Throttle

/-- What `main` does from line 104 on that can be seen outside it. -/
inductive Effect where
  /-- `log.Warnf`, with the text it logs -/
  | warn (text : String)
  /-- `topology.Close()` -/
  | closeTopology
  /-- `listener.Close()` -/
  | closeListener
  /-- `cancel()` of the experiment's context -/
  | cancel
  deriving DecidableEq, Repr

/-- How `main` ends. -/
inductive Exit where
  /-- `main` returns -/
  | normal
  /-- `panic(err)`, raised by `netem.Must0` -/
  | panic (err : GoError)
  /-- the runtime panic of calling a method on a nil interface value -/
  | nilDereference

/-- The calls deferred at lines 28, 66 and 83, in the order they run when `main` ends. -/
def deferred : List Effect := [.closeListener, .closeTopology, .cancel]

/-- `netem.Must0(err)`: panic with a non-nil `err`, else go on to `next`. -/
def must0 (err : Option GoError) (next : Exit) : Exit :=
  match err with
  | some e => .panic e
  | none => next

/-- Lines 117-121 and the end of `main`: `topology.Close()`, `Must0(errClient)`,
`Must0(errServer)`, then the deferred calls. -/
def closeAndMust (effects : List Effect) (errClient errServer : Option GoError) :
    List Effect × Exit :=
  (effects ++ .closeTopology :: deferred, must0 errClient (must0 errServer .normal))

/-- Lines 104-121 for the errors received on `clientErrch` and `errch`: warn about the client's
error; if the server's is non-nil, evaluate `errClient.Error()` and warn with it; then close and
`Must0` both. -/
def report (errClient errServer : Option GoError) : List Effect × Exit :=
  let clientWarning : List Effect :=
    match errClient with
    | some e => [.warn ("RunNDT0Client: " ++ e.error)]
    | none => []
  match errServer with
  | some _ =>
    match errClient with
    | some e => closeAndMust (clientWarning ++ [.warn ("RunNDT0Server: " ++ e.error)])
        errClient errServer
    | none => (clientWarning ++ deferred, .nilDereference)
  | none => closeAndMust clientWarning errClient errServer

/-- **The server's error is never reported.** For every pair of errors the two NDT0 goroutines
send: `main` returns normally exactly when neither failed; every panic it raises carries the
client's error, and so does every warning it logs, the one at line 113 meant for the server
included; and when only the server failed, `main` dies of a nil dereference at line 113, with
nothing logged and only the deferred calls run: neither its own `topology.Close()` nor
`Must0(errServer)` is reached. -/
theorem report_server_error_lost (errClient errServer : Option GoError) :
    ((report errClient errServer).2 = .normal ↔ errClient = none ∧ errServer = none) ∧
    (∀ e, (report errClient errServer).2 = .panic e → errClient = some e) ∧
    (∀ text, Effect.warn text ∈ (report errClient errServer).1 →
      ∃ c, errClient = some c ∧
        (text = "RunNDT0Client: " ++ c.error ∨ text = "RunNDT0Server: " ++ c.error)) ∧
    (errClient = none → errServer.isSome →
      report errClient errServer = (deferred, .nilDereference)) := by
  cases errClient <;> cases errServer <;>
    simp [report, closeAndMust, must0, deferred, or_comm]

end Throttle

end Netem
