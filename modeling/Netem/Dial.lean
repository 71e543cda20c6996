/-
`(*Net).DialContext` (`netem/net.go`): split the address, find the IPs to try (the literal
itself, or what `LookupHost` returns), dial them one after the other through the stack, and
return the first connection, or an `*ErrDial` holding one `fmt.Errorf("%s: %w", endpoint, err)`
per failed attempt.

The loop is `dialEach`, recursive on the address list with the `ErrDial`'s `Errors` as an
accumulator, as the Go code appends to `errlist.Errors`. Its whole behaviour is
`dialEach_outcome`: either every attempt failed, one call and one wrapper per address in
order, or the attempts stopped at the first success. Everything said about `DialContext`
below is read off that lemma and the two phases before the loop.
-/
import Netem.Facade

set_option autoImplicit false

namespace Netem

/-! ## The model -/

namespace Net

variable {W : Type} (rt : Runtime W) (n : Net W) (ctx : Context W)

/-- The loop "try each available address" of `DialContext`, for the `*ErrDial` at `ptr` whose
`Errors` are `errs` so far: dial `JoinHostPort(ip, port)`; on an error append its wrapper and
go on, on success return the connection. -/
def dialEach (network port : String) (ptr : Nat) :
    List GoError → List String → W → Run W (Except GoError Conn)
  | errs, [], w => ⟨w, [], .error (.errDial ptr errs)⟩
  | errs, ip :: rest, w =>
    let endpoint := joinHostPort ip port
    match n.stack.dialContext ctx w network endpoint with
    | (w, .ok conn) => ⟨w, [.dialContext network endpoint (.ok conn)], .ok conn⟩
    | (w, .error err) =>
      let a := rt.alloc w
      (dialEach network port ptr (errs ++ [fmtErrorf a.2 endpoint err]) rest a.1).prepend
        [.dialContext network endpoint (.error err)]

/-- "make sure we have IP addresses to try": the literal itself when `net.ParseIP` accepts
it, otherwise what `LookupHost` returns, a resolver error ending the dial. -/
def addresses (w : W) (domain : String) : Run W (Except GoError (List String)) :=
  match rt.parseIP domain with
  | some _ => ⟨w, [], .ok [domain]⟩
  | none =>
    let r := n.lookupHost ctx w domain
    ⟨r.world, r.calls, match r.result with
      | (_, some err) => .error err
      | (addrs, none) => .ok addrs⟩

/-- `(*Net).DialContext(ctx, network, address)`. -/
def dialContext (w : W) (network address : String) : Run W (Except GoError Conn) :=
  match splitHostPort address with
  | .error e =>
    let a := rt.alloc w
    ⟨a.1, [], .error (e.toError a.2)⟩
  | .ok (domain, port) =>
    let r := n.addresses rt ctx w domain
    match r.result with
    | .error err => ⟨r.world, r.calls, .error err⟩
    | .ok addrs =>
      let a := rt.alloc r.world
      (n.dialEach rt ctx network port a.2 [] addrs a.1).prepend r.calls

end Net

/-! ## Runs on concrete inputs

The world is the next free heap address. `ParseIP` accepts the one literal the runs use. The
stack ignores its context; it accepts dials to `10.0.0.1:443` and `10.0.0.3:443` and refuses
all others, and its resolver knows one name with two addresses and answers every other name
with no address and no error. -/

/-- The runtime of the concrete runs. -/
def demoRuntime : Runtime Nat where
  alloc w := (w + 1, w)
  parseIP s := if s = "10.0.0.1" then some [10, 0, 0, 1] else none

/-- `syscall.ECONNREFUSED`. -/
def econnrefused : GoError := .leaf "syscall.Errno" 111 "connection refused"

/-- The stack of the concrete runs. -/
def demoNet : Net Nat where
  stack :=
    { dialContext := fun _ w _ endpoint =>
        if endpoint = "10.0.0.1:443" ∨ endpoint = "10.0.0.3:443" then (w, .ok (.stack w))
        else (w, .error econnrefused)
      getaddrinfoLookupANY := fun _ w domain =>
        if domain = "multi.local" then (w, ["10.0.0.2", "10.0.0.3"], domain, none)
        else (w, [], "", none)
      defaultCertPool := fun _ => 0
      listenTCP := fun w _ _ => (w, .ok ⟨fun w => (w, .ok (.stack w))⟩) }

/-- `context.Canceled`, an `errors.New` sentinel. -/
def contextCanceled : GoError := .leaf "*errors.errorString" 0 "context canceled"

/-- A context cancelled before any run starts. -/
def canceledCtx : Context Nat := ⟨fun _ => some contextCanceled, none⟩

/-- `context.Background()`: never done, no deadline. -/
def backgroundCtx : Context Nat := ⟨fun _ => none, none⟩

/-! ## The loop -/

/-- The calls of attempts that failed, given as `(ip, stack error)` pairs. -/
def failCalls (network port : String) (fs : List (String × GoError)) : List Call :=
  fs.map fun f => .dialContext network (joinHostPort f.1 port) (.error f.2)

/-- The wrappers `DialContext` appends for failed attempts, allocated at `qs`. -/
def failWrappers (port : String) (fs : List (String × GoError)) (qs : List Nat) :
    List GoError :=
  List.zipWith (fun f q => fmtErrorf q (joinHostPort f.1 port) f.2) fs qs

@[simp] theorem failWrappers_cons (port : String) (f : String × GoError)
    (fs : List (String × GoError)) (q : Nat) (qs : List Nat) :
    failWrappers port (f :: fs) (q :: qs) =
      fmtErrorf q (joinHostPort f.1 port) f.2 :: failWrappers port fs qs := rfl

/-- What a dial loop over `addrs` did, in the words of the facade's contract: every attempt
failed, one call per address in order and one wrapper per address in the `*ErrDial` at `ptr`;
or the attempts were the addresses up to the first that succeeded, whose connection is the
result. -/
def DialsOutcome (network port : String) (ptr : Nat) (errs : List GoError)
    (addrs : List String) (calls : List Call) (result : Except GoError Conn) : Prop :=
  (∃ fs qs, fs.map Prod.fst = addrs ∧ qs.length = addrs.length ∧
    calls = failCalls network port fs ∧
    result = .error (.errDial ptr (errs ++ failWrappers port fs qs))) ∨
  (∃ fs x post c, addrs = fs.map Prod.fst ++ x :: post ∧
    calls = failCalls network port fs ++ [.dialContext network (joinHostPort x port) (.ok c)] ∧
    result = .ok c)

theorem failCalls_dialFailure (network port : String) (fs : List (String × GoError)) :
    (failCalls network port fs).filterMap Call.dialFailure =
      fs.map fun f => (joinHostPort f.1 port, f.2) := by
  simp only [failCalls, List.filterMap_map]
  exact congrFun (List.filterMap_eq_map _) fs

/-- An `*ErrDial` a dial loop returns holds the wrappers of the failures its calls record. -/
theorem DialsOutcome.errDial {network port : String} {ptr p : Nat} {addrs : List String}
    {calls : List Call} {result : Except GoError Conn} {ws : List GoError}
    (h : DialsOutcome network port ptr [] addrs calls result)
    (hr : result = .error (.errDial p ws)) :
    ∃ fs qs, qs.length = fs.length ∧ ws = failWrappers port fs qs ∧
      calls.filterMap Call.dialFailure = fs.map fun f => (joinHostPort f.1 port, f.2) := by
  rcases h with ⟨fs, qs, hfs, hqs, rfl, rfl⟩ | ⟨_, _, _, _, _, _, rfl⟩
  · simp only [Except.error.injEq, GoError.errDial.injEq, List.nil_append] at hr
    exact ⟨fs, qs, by rw [hqs, ← hfs, List.length_map], hr.2.symm,
      failCalls_dialFailure _ _ _⟩
  · cases hr

namespace Net

variable {W : Type} (rt : Runtime W) (n : Net W) (ctx : Context W)

@[simp] theorem dialEach_nil (network port : String) (ptr : Nat) (errs : List GoError) (w : W) :
    n.dialEach rt ctx network port ptr errs [] w = ⟨w, [], .error (.errDial ptr errs)⟩ := rfl

theorem dialEach_cons_ok {network port : String} {ptr : Nat} {errs : List GoError}
    {ip : String} {rest : List String} {w w' : W} {c : Conn}
    (h : n.stack.dialContext ctx w network (joinHostPort ip port) = (w', .ok c)) :
    n.dialEach rt ctx network port ptr errs (ip :: rest) w =
      ⟨w', [.dialContext network (joinHostPort ip port) (.ok c)], .ok c⟩ := by
  simp only [dialEach, h]

theorem dialEach_cons_error {network port : String} {ptr : Nat} {errs : List GoError}
    {ip : String} {rest : List String} {w w' : W} {e : GoError}
    (h : n.stack.dialContext ctx w network (joinHostPort ip port) = (w', .error e)) :
    n.dialEach rt ctx network port ptr errs (ip :: rest) w =
      (n.dialEach rt ctx network port ptr
        (errs ++ [fmtErrorf (rt.alloc w').2 (joinHostPort ip port) e]) rest
          (rt.alloc w').1).prepend [.dialContext network (joinHostPort ip port) (.error e)] := by
  simp only [dialEach, h]

/-- **The dial loop.** Whatever the stack answers, the loop dials the addresses in order and
either fails on every one of them, with one wrapper each, or stops at the first success. -/
theorem dialEach_outcome (network port : String) (ptr : Nat) (addrs : List String) :
    ∀ (errs : List GoError) (w : W),
      DialsOutcome network port ptr errs addrs
        (n.dialEach rt ctx network port ptr errs addrs w).calls
        (n.dialEach rt ctx network port ptr errs addrs w).result := by
  induction addrs with
  | nil => intro errs w; exact .inl ⟨[], [], rfl, rfl, rfl, by simp [failWrappers]⟩
  | cons ip rest ih =>
    intro errs w
    cases h : n.stack.dialContext ctx w network (joinHostPort ip port) with
    | mk w' a =>
      cases a with
      | ok c =>
        rw [dialEach_cons_ok rt n ctx h]
        exact .inr ⟨[], ip, rest, c, rfl, rfl, rfl⟩
      | error e =>
        rw [dialEach_cons_error rt n ctx h]
        rcases ih (errs ++ [fmtErrorf (rt.alloc w').2 (joinHostPort ip port) e])
            (rt.alloc w').1 with ⟨fs, qs, hfs, hqs, hc, hr⟩ | ⟨fs, x, post, c, hfs, hc, hr⟩
        · refine .inl ⟨(ip, e) :: fs, (rt.alloc w').2 :: qs, by simp [hfs], by simp [hqs],
            ?_, ?_⟩
          · simp [hc, failCalls]
          · simp [hr, failWrappers]
        · refine .inr ⟨(ip, e) :: fs, x, post, c, by simp [hfs], ?_, by simpa using hr⟩
          simp [hc, failCalls]

theorem addresses_of_literal {w : W} {domain : String} {ip : List UInt8}
    (h : rt.parseIP domain = some ip) :
    n.addresses rt ctx w domain = ⟨w, [], .ok [domain]⟩ := by
  simp only [addresses, h]

theorem addresses_of_lookup {w w' : W} {domain cname : String} {addrs : List String}
    {err : Option GoError} (h : rt.parseIP domain = none)
    (hl : n.stack.getaddrinfoLookupANY ctx w domain = (w', addrs, cname, err)) :
    n.addresses rt ctx w domain = ⟨w', [.getaddrinfoLookupANY domain addrs cname err],
      match err with | some e => .error e | none => .ok addrs⟩ := by
  cases err <;> simp [addresses, lookupHost, h, hl]

theorem dialContext_of_split_error {w : W} {network address : String} {e : AddrError}
    (h : splitHostPort address = .error e) :
    n.dialContext rt ctx w network address =
      ⟨(rt.alloc w).1, [], .error (e.toError (rt.alloc w).2)⟩ := by
  simp only [dialContext, h]

theorem dialContext_of_addresses_error {w : W} {network address domain port : String}
    {err : GoError} (h : splitHostPort address = .ok (domain, port))
    (ha : (n.addresses rt ctx w domain).result = .error err) :
    n.dialContext rt ctx w network address =
      ⟨(n.addresses rt ctx w domain).world, (n.addresses rt ctx w domain).calls,
        .error err⟩ := by
  simp only [dialContext, h, ha]

theorem dialContext_of_addresses_ok {w : W} {network address domain port : String}
    {addrs : List String} (h : splitHostPort address = .ok (domain, port))
    (ha : (n.addresses rt ctx w domain).result = .ok addrs) :
    n.dialContext rt ctx w network address =
      (n.dialEach rt ctx network port (rt.alloc (n.addresses rt ctx w domain).world).2 [] addrs
        (rt.alloc (n.addresses rt ctx w domain).world).1).prepend
        (n.addresses rt ctx w domain).calls := by
  simp only [dialContext, h, ha]

/-- **`DialContext`, call by call.** A malformed address makes no call and returns the
`*AddrError`; a literal IP is dialled alone; otherwise the resolver is called once, its error
returned unchanged with no dial, and its address list dialled in order up to the first
success, with one wrapper per address in the aggregate when every attempt fails. -/
theorem dialContext_spec (w : W) (network address : String) :
    (∀ e, splitHostPort address = .error e →
      (n.dialContext rt ctx w network address).calls = [] ∧
      ∃ p, (n.dialContext rt ctx w network address).result = .error (e.toError p)) ∧
    (∀ h port, splitHostPort address = .ok (h, port) → (rt.parseIP h).isSome →
      ∃ p, DialsOutcome network port p [] [h] (n.dialContext rt ctx w network address).calls
        (n.dialContext rt ctx w network address).result) ∧
    (∀ h port w' addrs cname err, splitHostPort address = .ok (h, port) →
      rt.parseIP h = none →
      n.stack.getaddrinfoLookupANY ctx w h = (w', addrs, cname, err) →
      (∀ e, err = some e →
        (n.dialContext rt ctx w network address).calls =
          [.getaddrinfoLookupANY h addrs cname err] ∧
        (n.dialContext rt ctx w network address).result = .error e) ∧
      (err = none → ∃ p rest,
        (n.dialContext rt ctx w network address).calls =
          .getaddrinfoLookupANY h addrs cname none :: rest ∧
        DialsOutcome network port p [] addrs rest
          (n.dialContext rt ctx w network address).result)) := by
  refine ⟨fun e he => ?_, fun h port hs hip => ?_,
    fun h port w' addrs cname err hs hip hl => ?_⟩
  · rw [dialContext_of_split_error rt n ctx he]
    exact ⟨rfl, _, rfl⟩
  · obtain ⟨ip, hip⟩ := Option.isSome_iff_exists.mp hip
    have ha := addresses_of_literal rt n ctx (w := w) hip
    rw [dialContext_of_addresses_ok rt n ctx hs (by rw [ha])]
    exact ⟨_, by simpa [ha] using dialEach_outcome rt n ctx network port _ [h] [] _⟩
  · have ha := addresses_of_lookup rt n ctx hip hl
    refine ⟨fun e he => ?_, fun he => ?_⟩
    · subst he
      rw [dialContext_of_addresses_error rt n ctx hs (by rw [ha])]
      simp [ha]
    · subst he
      rw [dialContext_of_addresses_ok rt n ctx hs (by rw [ha])]
      exact ⟨_, _, by simp [ha], dialEach_outcome rt n ctx network port _ addrs [] _⟩

/-- The `*ErrDial` of a run whose resolver, if called, did not fail: the wrappers of the
run's stack errors. -/
theorem dialContext_errDial {w : W} {network address : String} {p : Nat} {ws : List GoError}
    (hE : (n.dialContext rt ctx w network address).result = .error (.errDial p ws))
    (hres : ∀ c ∈ (n.dialContext rt ctx w network address).calls, c.lookupError = none) :
    ∃ port fs qs, qs.length = fs.length ∧ ws = failWrappers port fs qs ∧
      (n.dialContext rt ctx w network address).dialFailures =
        fs.map fun f => (joinHostPort f.1 port, f.2) := by
  cases hs : splitHostPort address with
  | error e => rw [dialContext_of_split_error rt n ctx hs] at hE; cases hE
  | ok hp =>
    obtain ⟨h, port⟩ := hp
    cases hip : rt.parseIP h with
    | some ip =>
      have ha := addresses_of_literal rt n ctx (w := w) hip
      rw [dialContext_of_addresses_ok rt n ctx hs (by rw [ha])] at hE ⊢
      simp only [ha, Run.prepend_result, Run.dialFailures, Run.prepend_calls,
        List.nil_append] at hE ⊢
      exact ⟨port, (dialEach_outcome rt n ctx network port _ [h] [] _).errDial hE⟩
    | none =>
      obtain ⟨w', addrs, cname, err, hl⟩ : ∃ w' addrs cname err,
          n.stack.getaddrinfoLookupANY ctx w h = (w', addrs, cname, err) := ⟨_, _, _, _, rfl⟩
      have ha := addresses_of_lookup rt n ctx hip hl
      cases err with
      | some e =>
        rw [dialContext_of_addresses_error rt n ctx hs (by rw [ha])] at hres
        simp [ha, Call.lookupError] at hres
      | none =>
        rw [dialContext_of_addresses_ok rt n ctx hs (by rw [ha])] at hE ⊢
        simp only [ha, Run.prepend_result, Run.dialFailures, Run.prepend_calls,
          List.singleton_append, List.filterMap_cons, Call.dialFailure] at hE ⊢
        exact ⟨port, (dialEach_outcome rt n ctx network port _ addrs [] _).errDial hE⟩

section Is

variable (leafIs : String → Nat → GoError → Bool)

theorem exists_failWrappers_errorsIs {port : String} {t : GoError} :
    ∀ {fs : List (String × GoError)} {qs : List Nat}, qs.length = fs.length →
      (∀ x ∈ failWrappers port fs qs, x.same t = false) →
      ((∃ x ∈ failWrappers port fs qs, errorsIs leafIs x t = true) ↔
        ∃ s ∈ fs.map Prod.snd, errorsIs leafIs s t = true)
  | [], [], _, _ => by simp [failWrappers]
  | f :: fs, q :: qs, hl, hx => by
    simp only [failWrappers_cons, List.mem_cons, forall_eq_or_imp] at hx
    have ih := exists_failWrappers_errorsIs (Nat.succ.inj hl) hx.2
    simp only [failWrappers_cons, List.mem_cons, exists_eq_or_imp, List.map_cons,
      errorsIs_fmtErrorf leafIs hx.1, ih]

/-- **The aggregate matches exactly what the stack reported.** For a run of `DialContext`
that returns its `*ErrDial`, and every target other than the aggregate and its wrappers,
`errors.Is` on the aggregate holds exactly when it holds on one of the errors the stack
answered, however deep the cause sits in it. -/
theorem dialContext_errDial_is {w : W} {network address : String} {p : Nat}
    {ws : List GoError} {t : GoError}
    (hE : (n.dialContext rt ctx w network address).result = .error (.errDial p ws))
    (hres : ∀ c ∈ (n.dialContext rt ctx w network address).calls, c.lookupError = none)
    (hself : (GoError.errDial p ws).same t = false) (hwrap : ∀ x ∈ ws, x.same t = false) :
    errorsIs leafIs (.errDial p ws) t = true ↔
      ∃ s ∈ (n.dialContext rt ctx w network address).stackErrors,
        errorsIs leafIs s t = true := by
  obtain ⟨port, fs, qs, hl, rfl, hs⟩ := dialContext_errDial rt n ctx hE hres
  rw [errorsIs_errDial_iff leafIs hself, Run.stackErrors, hs, List.map_map,
    exists_failWrappers_errorsIs leafIs hl hwrap]
  rfl

/-- The concrete run on `multi.local:80`: its resolver call did not fail. -/
theorem refused_lookupError :
    ∀ c ∈ (demoNet.dialContext demoRuntime backgroundCtx 1 "tcp" "multi.local:80").calls,
      c.lookupError = none := by
  intro c hc
  change c ∈ [.getaddrinfoLookupANY "multi.local" ["10.0.0.2", "10.0.0.3"] "multi.local" none,
    .dialContext "tcp" "10.0.0.2:80" (.error econnrefused),
    .dialContext "tcp" "10.0.0.3:80" (.error econnrefused)] at hc
  simp only [List.mem_cons, List.not_mem_nil, or_false] at hc
  rcases hc with rfl | rfl | rfl <;> rfl

/-- `syscall.ECONNRESET`, an error no dial of the concrete runs answers. -/
def econnreset : GoError := .leaf "syscall.Errno" 104 "connection reset by peer"

/-- The aggregate of the refused run on `multi.local:80`. -/
def refusedErrDial : GoError :=
  .errDial 1 [fmtErrorf 2 "10.0.0.2:80" econnrefused, fmtErrorf 3 "10.0.0.3:80" econnrefused]

/-- Both addresses of `multi.local` refuse: the aggregate holds two wrappers of
`ECONNREFUSED`, and through the theorem it matches `ECONNREFUSED`, which the stack answered,
and not `ECONNRESET`, which it did not. -/
theorem dialContext_errDial_is_refused :
    (demoNet.dialContext demoRuntime backgroundCtx 1 "tcp" "multi.local:80").result =
      .error refusedErrDial ∧
    (∀ c ∈ (demoNet.dialContext demoRuntime backgroundCtx 1 "tcp" "multi.local:80").calls,
      c.lookupError = none) ∧
    refusedErrDial.same econnrefused = false ∧ refusedErrDial.same econnreset = false ∧
    (∀ x ∈ [fmtErrorf 2 "10.0.0.2:80" econnrefused, fmtErrorf 3 "10.0.0.3:80" econnrefused],
      x.same econnrefused = false ∧ x.same econnreset = false) ∧
    (errorsIs (fun _ _ _ => false) refusedErrDial econnrefused = true ↔
      ∃ s ∈ (demoNet.dialContext demoRuntime backgroundCtx 1 "tcp" "multi.local:80").stackErrors,
        errorsIs (fun _ _ _ => false) s econnrefused = true) ∧
    (errorsIs (fun _ _ _ => false) refusedErrDial econnreset = true ↔
      ∃ s ∈ (demoNet.dialContext demoRuntime backgroundCtx 1 "tcp" "multi.local:80").stackErrors,
        errorsIs (fun _ _ _ => false) s econnreset = true) ∧
    errorsIs (fun _ _ _ => false) refusedErrDial econnrefused = true ∧
    errorsIs (fun _ _ _ => false) refusedErrDial econnreset = false := by
  have hres := refused_lookupError
  have hwrap : ∀ x ∈ [fmtErrorf 2 "10.0.0.2:80" econnrefused,
      fmtErrorf 3 "10.0.0.3:80" econnrefused],
      x.same econnrefused = false ∧ x.same econnreset = false := by decide
  have hE : (demoNet.dialContext demoRuntime backgroundCtx 1 "tcp" "multi.local:80").result =
      .error (.errDial 1 [fmtErrorf 2 "10.0.0.2:80" econnrefused,
        fmtErrorf 3 "10.0.0.3:80" econnrefused]) := rfl
  have hrefused := dialContext_errDial_is demoRuntime demoNet backgroundCtx (fun _ _ _ => false)
    (t := econnrefused) hE hres rfl fun x hx => (hwrap x hx).1
  have hreset := dialContext_errDial_is demoRuntime demoNet backgroundCtx (fun _ _ _ => false)
    (t := econnreset) hE hres rfl fun x hx => (hwrap x hx).2
  have hstack : (demoNet.dialContext demoRuntime backgroundCtx 1 "tcp"
      "multi.local:80").stackErrors = [econnrefused, econnrefused] := rfl
  refine ⟨rfl, hres, rfl, rfl, hwrap, hrefused, hreset,
    hrefused.mpr ⟨econnrefused, by simp [hstack], rfl⟩, ?_⟩
  rw [Bool.eq_false_iff]
  intro h
  obtain ⟨s, hs, hst⟩ := hreset.mp h
  rw [hstack, List.mem_cons, List.mem_singleton, or_self] at hs
  subst hs
  exact absurd hst (by decide)

end Is

theorem failWrappers_error (port : String) :
    ∀ {fs : List (String × GoError)} {qs : List Nat}, qs.length = fs.length →
      (failWrappers port fs qs).map GoError.error =
        fs.map fun f => joinHostPort f.1 port ++ ": " ++ f.2.error
  | [], [], _ => rfl
  | f :: fs, q :: qs, h => by
    simp [fmtErrorf, GoError.error, failWrappers_error port (Nat.succ.inj h)]

/-- **The aggregate's text reports every attempt.** When `DialContext` returns its `*ErrDial`,
`Error()` is `"dial failed: "` followed by `endpoint: cause` for each failed dial, in the order
of the attempts, separated by `"; "`. -/
theorem dialContext_errDial_error {w : W} {network address : String} {p : Nat}
    {ws : List GoError}
    (hE : (n.dialContext rt ctx w network address).result = .error (.errDial p ws))
    (hres : ∀ c ∈ (n.dialContext rt ctx w network address).calls, c.lookupError = none) :
    (GoError.errDial p ws).error = "dial failed: " ++ String.intercalate "; "
      ((n.dialContext rt ctx w network address).dialFailures.map
        fun f => f.1 ++ ": " ++ f.2.error) := by
  obtain ⟨port, fs, qs, hl, rfl, hs⟩ := dialContext_errDial rt n ctx hE hres
  rw [hs, GoError.error_errDial, ErrDial.error, GoError.errorList_eq, failWrappers_error port hl,
    List.map_map]
  rfl

/-- The text of the refused run on `multi.local:80`. -/
theorem dialContext_errDial_error_refused :
    (demoNet.dialContext demoRuntime backgroundCtx 1 "tcp" "multi.local:80").result =
      .error (.errDial 1 [fmtErrorf 2 "10.0.0.2:80" econnrefused,
        fmtErrorf 3 "10.0.0.3:80" econnrefused]) ∧
    (∀ c ∈ (demoNet.dialContext demoRuntime backgroundCtx 1 "tcp" "multi.local:80").calls,
      c.lookupError = none) ∧
    (GoError.errDial 1 [fmtErrorf 2 "10.0.0.2:80" econnrefused,
      fmtErrorf 3 "10.0.0.3:80" econnrefused]).error = "dial failed: " ++ String.intercalate "; "
      ((demoNet.dialContext demoRuntime backgroundCtx 1 "tcp" "multi.local:80").dialFailures.map
        fun f => f.1 ++ ": " ++ f.2.error) :=
  ⟨rfl, refused_lookupError, dialContext_errDial_error demoRuntime demoNet backgroundCtx rfl
    refused_lookupError⟩

/-! ## A literal IP -/

/-- A literal IP is dialled once, under the `ctx` the caller passed, done or not, and the
connection the stack answers is returned. -/
theorem dialContext_of_literal {w w' : W} {network address h port : String} {ip : List UInt8}
    {c : Conn} (hs : splitHostPort address = .ok (h, port)) (hip : rt.parseIP h = some ip)
    (hd : n.stack.dialContext ctx (rt.alloc w).1 network (joinHostPort h port) = (w', .ok c)) :
    n.dialContext rt ctx w network address =
      ⟨w', [.dialContext network (joinHostPort h port) (.ok c)], .ok c⟩ := by
  have ha := addresses_of_literal rt n ctx (w := w) hip
  rw [dialContext_of_addresses_ok rt n ctx hs (by rw [ha])]
  simp only [ha, dialEach_cons_ok rt n ctx hd, Run.prepend, List.nil_append]

/-- **A literal IP reaches the stack intact.** For an address whose host is an IP literal,
`DialContext` makes one call, a `Stack.DialContext` on an endpoint that splits back into that
host and the port. -/
theorem dialContext_literal_endpoint {w : W} {network address h port : String}
    (hs : splitHostPort address = .ok (h, port)) (hip : (rt.parseIP h).isSome) :
    ∃ endpoint answer, (n.dialContext rt ctx w network address).calls =
      [.dialContext network endpoint answer] ∧ splitHostPort endpoint = .ok (h, port) := by
  obtain ⟨ip, hip⟩ := Option.isSome_iff_exists.mp hip
  have ha := addresses_of_literal rt n ctx (w := w) hip
  have hwf := (splitHostPort_form (show splitHostPort address = .ok (⟨h.data⟩, ⟨port.data⟩)
    from hs)).1
  have hsplit := splitHostPort_of_form hwf (joinHostPort_form h port)
  rw [dialContext_of_addresses_ok rt n ctx hs (by rw [ha])]
  simp only [ha, Run.prepend_calls, List.nil_append]
  rcases hd : n.stack.dialContext ctx (rt.alloc w).1 network (joinHostPort h port) with
    ⟨w', c | c⟩ <;> simp only [dialEach, hd] <;> exact ⟨_, _, rfl, hsplit⟩

/-- `10.0.0.1:443` is dialled as itself. -/
theorem dialContext_literal_endpoint_demo :
    splitHostPort "10.0.0.1:443" = .ok ("10.0.0.1", "443") ∧
    (demoRuntime.parseIP "10.0.0.1").isSome ∧
    ∃ endpoint answer,
      (demoNet.dialContext demoRuntime backgroundCtx 1 "tcp" "10.0.0.1:443").calls =
        [.dialContext "tcp" endpoint answer] ∧ splitHostPort endpoint = .ok ("10.0.0.1", "443") :=
  have hs : splitHostPort "10.0.0.1:443" = .ok ("10.0.0.1", "443") := rfl
  have hip : (demoRuntime.parseIP "10.0.0.1").isSome := rfl
  ⟨hs, hip, dialContext_literal_endpoint demoRuntime demoNet backgroundCtx hs hip⟩

/-! ## An empty resolver answer -/

/-- A resolver that answers no address and no error sends `DialContext` through a loop of no
iteration: it returns an `*ErrDial` with no errors, not a resolution error. -/
theorem dialContext_of_lookup_empty {w w' : W} {network address h port cname : String}
    (hs : splitHostPort address = .ok (h, port)) (hip : rt.parseIP h = none)
    (hl : n.stack.getaddrinfoLookupANY ctx w h = (w', [], cname, none)) :
    n.dialContext rt ctx w network address =
      ⟨(rt.alloc w').1, [.getaddrinfoLookupANY h [] cname none],
        .error (.errDial (rt.alloc w').2 [])⟩ := by
  have ha := addresses_of_lookup rt n ctx hip hl
  rw [dialContext_of_addresses_ok rt n ctx hs (by rw [ha])]
  simp [ha, Run.prepend]

/-- A name with no address and no resolver error: `DialContext` returns `&ErrDial{}`, whose
text is `"dial failed: "` and which matches no target but itself. -/
theorem dialContext_empty_errDial :
    (demoNet.dialContext demoRuntime backgroundCtx 1 "tcp" "ndt0.local:443").result =
      .error (.errDial 1 []) ∧ (GoError.errDial 1 []).error = "dial failed: " :=
  have hl : demoNet.stack.getaddrinfoLookupANY backgroundCtx 1 "ndt0.local" = (1, [], "", none) :=
    rfl
  have h : demoNet.dialContext demoRuntime backgroundCtx 1 "tcp" "ndt0.local:443" = _ :=
    dialContext_of_lookup_empty demoRuntime demoNet backgroundCtx
      (show splitHostPort "ndt0.local:443" = .ok ("ndt0.local", "443") from rfl)
      (show demoRuntime.parseIP "ndt0.local" = none from rfl) hl
  ⟨by rw [h]; rfl, rfl⟩

/-! ## The context -/

/-- Two contexts under which the resolver and the stack answer alike in every world. -/
def AnswersAlike (ctx₁ ctx₂ : Context W) : Prop :=
  (∀ w network endpoint,
    n.stack.dialContext ctx₁ w network endpoint =
      n.stack.dialContext ctx₂ w network endpoint) ∧
  (∀ w domain,
    n.stack.getaddrinfoLookupANY ctx₁ w domain = n.stack.getaddrinfoLookupANY ctx₂ w domain)

section Congr

variable {n} {ctx₁ ctx₂ : Context W} (h : n.AnswersAlike ctx₁ ctx₂)
include h

theorem dialEach_congr_ctx (network port : String) (ptr : Nat) (addrs : List String) :
    ∀ (errs : List GoError) (w : W),
      n.dialEach rt ctx₁ network port ptr errs addrs w =
        n.dialEach rt ctx₂ network port ptr errs addrs w := by
  induction addrs with
  | nil => intro errs w; rfl
  | cons ip rest ih => intro errs w; simp only [dialEach, h.1, ih]

theorem addresses_congr_ctx (w : W) (domain : String) :
    n.addresses rt ctx₁ w domain = n.addresses rt ctx₂ w domain := by
  simp only [addresses, lookupHost, h.2]

/-- `DialContext` never reads its context: under two contexts to which the resolver and the
stack answer alike, the runs are the same, calls included, whether a context is done at entry,
becomes done between two attempts, or never. -/
theorem dialContext_congr_ctx (w : W) (network address : String) :
    n.dialContext rt ctx₁ w network address = n.dialContext rt ctx₂ w network address := by
  simp only [dialContext, addresses_congr_ctx rt h, dialEach_congr_ctx rt h]

end Congr

/-- A context cancelled at entry does not stop `DialContext` from dialling a literal IP, nor
a stack that ignores it from connecting: the code has no check of `ctx` before a dial. -/
theorem dialContext_dials_when_cancelled :
    canceledCtx.err 1 = some contextCanceled ∧
    (demoNet.dialContext demoRuntime canceledCtx 1 "tcp" "10.0.0.1:443").calls =
      [.dialContext "tcp" "10.0.0.1:443" (.ok (.stack 2))] ∧
    (demoNet.dialContext demoRuntime canceledCtx 1 "tcp" "10.0.0.1:443").result =
      .ok (.stack 2) :=
  have hd : demoNet.stack.dialContext canceledCtx (demoRuntime.alloc 1).1 "tcp"
      (joinHostPort "10.0.0.1" "443") = (2, .ok (.stack 2)) := rfl
  have h := dialContext_of_literal demoRuntime demoNet canceledCtx
    (show splitHostPort "10.0.0.1:443" = .ok ("10.0.0.1", "443") from rfl)
    (show demoRuntime.parseIP "10.0.0.1" = some [10, 0, 0, 1] from rfl) hd
  ⟨rfl, by rw [h]; rfl, by rw [h]⟩

end Net

end Netem
