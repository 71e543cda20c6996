/-
`cmd/dnsping` (`main`): send `-count` DNS queries for `dns.google` to the DNS server at
`1.1.1.1`, one after the other, and print each round trip's time and answer. (`8.8.8.8` is only
the label of the query line, and the address the server's record answers.)

Everything `main` does before its loop builds a fixed topology out of library code (a star,
two links, a PCAP dumper, a DNS server); `Must1` and `Must0` only guard that setup. What the
program itself decides is the loop, and that is what this file models: `DNSPing.pings` is the
loop body run `n` times, `DNSPing.main` the `for` statement around it. The library and the
runtime are the fields of `DNSPing.Env`, functions of an abstract world, so every theorem
below holds for every network, every resolver answer and every clock. A run records the
lines it prints and, for each iteration, the round trip it made (`DNSPing.Trip`): the query,
`t0`, the answer of `DNSRoundTrip` and `delta`.

The loop's contract (`DNSPing.main_lines`): every recorded round trip is a fresh
`NewDNSRequestA("dns.google")` sent by `DNSRoundTrip` in the world that request left, with
`t0` and `delta` read around it; each iteration prints its query line and then the reply that
round trip's answer calls for (`Trip.reply`: `err.Error()` for a failed round trip, the parsed
`Rcode`, addresses and CNAME for an answer), and a failed round trip does not end the loop;
without a panic there are exactly `-count` round trips, none when the count is zero or
negative; the only way out before that is the panic of `Must2` on the last round trip's
response, which `DNSParseResponse` rejected. And the program paces itself
(`DNSPing.main_starts_spaced`): on a clock that never goes back and a `time.Sleep` that sleeps
at least what it is asked, two round trips start at least a second apart, however long each
takes. How `fmt.Printf` renders a line (`time.Duration.String`, `%v`) is not modelled: a line
keeps the values it prints.
-/
import Mathlib.Data.List.Chain
import Netem.Errors

set_option autoImplicit false

namespace Netem

namespace DNSPing

/-- `flag.Int("count", 10, ...)`: the default of `-count`. -/
def countDefault : Int := 10

/-- `1 * time.Second`, in nanoseconds. -/
def second : Nat := 1000000000

/-- What the loop calls, seen from a world `W`, with queries `Q` and responses `R`:
`netem.NewDNSRequestA` (a fresh query with its own id), `time.Now` (its monotonic reading, in
nanoseconds), `netem.DNSRoundTrip(ctx, clientStack, "1.1.1.1", query)` for
`ctx := context.Background()`, `netem.DNSParseResponse`, the response's `Rcode`, and
`time.Sleep`. -/
structure Env (W Q R : Type) where
  newDNSRequestA : W → String → W × Q
  now : W → Nat
  dnsRoundTrip : W → Q → W × Except GoError R
  dnsParseResponse : Q → R → Except GoError (List String × String)
  rcode : R → Nat
  sleep : W → Nat → W

/-- One line the loop prints, with the values `fmt.Printf` formats into it. -/
inductive Line where
  /-- `"> A? dns.google @8.8.8.8\n"` -/
  | query
  /-- `"< [rtt=%s] %s\n"`: `delta` and `err.Error()` -/
  | failed (rtt : Int) (err : String)
  /-- `"< [rtt=%s] Rcode=%d Addrs=%v CNAME=%s\n"` -/
  | answered (rtt : Int) (rcode : Nat) (addrs : List String) (cname : String)
  deriving DecidableEq, Repr

/-- One round trip of the loop: `query`, `t0 := time.Now()`, the answer of
`DNSRoundTrip`, and `delta := time.Since(t0)`. -/
structure Trip (Q R : Type) where
  query : Q
  t0 : Nat
  answer : Except GoError R
  delta : Int

/-- What a run of the loop leaves: the world, the lines printed, the round trips made, and the
error `Must2` panicked with, if it did. -/
structure PingRun (W Q R : Type) where
  world : W
  lines : List Line
  trips : List (Trip Q R)
  panic : Option GoError

/-- The `t0` of every round trip, in order. -/
def PingRun.starts {W Q R : Type} (r : PingRun W Q R) : List Nat :=
  r.trips.map Trip.t0

/-- One more iteration in front of a run: its round trip and its two lines. -/
def PingRun.cons {W Q R : Type} (trip : Trip Q R) (reply : Line) (r : PingRun W Q R) :
    PingRun W Q R :=
  ⟨r.world, .query :: reply :: r.lines, trip :: r.trips, r.panic⟩

section Cons

variable {W Q R : Type} (trip : Trip Q R) (reply : Line) (r : PingRun W Q R)

@[simp] theorem PingRun.cons_lines : (r.cons trip reply).lines = .query :: reply :: r.lines :=
  rfl

@[simp] theorem PingRun.cons_trips : (r.cons trip reply).trips = trip :: r.trips := rfl

@[simp] theorem PingRun.cons_starts : (r.cons trip reply).starts = trip.t0 :: r.starts := rfl

@[simp] theorem PingRun.cons_panic : (r.cons trip reply).panic = r.panic := rfl

end Cons

variable {W Q R : Type} (env : Env W Q R)

/-- The body of the loop, `n` times from world `w`: print the query line, build the query, read
`t0`, do the round trip, take `delta := time.Since(t0)`; on an error print it, sleep a second
and `continue`; otherwise `Must2(DNSParseResponse(query, response))`, which panics on an error,
then print the answer and sleep a second. -/
def pings : Nat → W → PingRun W Q R
  | 0, w => ⟨w, [], [], none⟩
  | n + 1, w =>
    let q := env.newDNSRequestA w "dns.google"
    let t0 := env.now q.1
    let rt := env.dnsRoundTrip q.1 q.2
    let delta : Int := (env.now rt.1 : Int) - t0
    let trip : Trip Q R := ⟨q.2, t0, rt.2, delta⟩
    match rt.2 with
    | .error err => (pings n (env.sleep rt.1 second)).cons trip (.failed delta err.error)
    | .ok response =>
      match env.dnsParseResponse q.2 response with
      | .error err => ⟨rt.1, [.query], [trip], some err⟩
      | .ok (addrs, cname) =>
        (pings n (env.sleep rt.1 second)).cons trip
          (.answered delta (env.rcode response) addrs cname)

/-- `main` from its loop on: `for idx := 0; idx < *maxPings; idx++ { ... }`. The body never
reads `idx`, so it runs `(*maxPings).toNat` times. -/
def main (maxPings : Int) (w : W) : PingRun W Q R :=
  pings env maxPings.toNat w

/-! ## What each iteration does -/

/-- The reply line a round trip's answer calls for: `err.Error()` when `DNSRoundTrip` failed,
the parsed answer when `DNSParseResponse` accepts the response, and none when it rejects it,
where `Must2` panics instead. -/
def Trip.reply (t : Trip Q R) : Option Line :=
  match t.answer with
  | .error err => some (.failed t.delta err.error)
  | .ok response =>
    match env.dnsParseResponse t.query response with
    | .error _ => none
    | .ok (addrs, cname) => some (.answered t.delta (env.rcode response) addrs cname)

/-- A recorded round trip is one the loop made: a fresh `NewDNSRequestA("dns.google")` sent by
`DNSRoundTrip` in the world that request left, `t0` read there and `delta` read after. -/
def Trip.Made (t : Trip Q R) : Prop :=
  ∃ w₀ w₁ w₂, env.newDNSRequestA w₀ "dns.google" = (w₁, t.query) ∧
    env.dnsRoundTrip w₁ t.query = (w₂, t.answer) ∧ t.t0 = env.now w₁ ∧
    t.delta = (env.now w₂ : Int) - env.now w₁

/-- One iteration: its round trip, made in the world the loop is in, and then either the
reply line and the loop goes on, from the round trip's world after a second's sleep, or
`DNSParseResponse` rejects the response and `Must2` panics. -/
theorem pings_succ (n : Nat) (w : W) :
    ∃ (w₁ w₂ : W) (trip : Trip Q R), env.newDNSRequestA w "dns.google" = (w₁, trip.query) ∧
      env.dnsRoundTrip w₁ trip.query = (w₂, trip.answer) ∧ trip.t0 = env.now w₁ ∧
      trip.delta = (env.now w₂ : Int) - env.now w₁ ∧
      ((∃ reply, trip.reply env = some reply ∧
          pings env (n + 1) w = (pings env n (env.sleep w₂ second)).cons trip reply) ∨
        (∃ r e, trip.answer = .ok r ∧ env.dnsParseResponse trip.query r = .error e ∧
          trip.reply env = none ∧ pings env (n + 1) w = ⟨w₂, [.query], [trip], some e⟩)) := by
  refine ⟨(env.newDNSRequestA w "dns.google").1,
    (env.dnsRoundTrip (env.newDNSRequestA w "dns.google").1
      (env.newDNSRequestA w "dns.google").2).1,
    ⟨(env.newDNSRequestA w "dns.google").2, env.now (env.newDNSRequestA w "dns.google").1,
      (env.dnsRoundTrip (env.newDNSRequestA w "dns.google").1
        (env.newDNSRequestA w "dns.google").2).2, _⟩, rfl, rfl, rfl, rfl, ?_⟩
  simp only [pings]
  split
  · next err h => exact .inl ⟨_, by simp [Trip.reply, h], rfl⟩
  · next response h =>
    split
    · next e hp => exact .inr ⟨response, e, h, hp, by simp [Trip.reply, h, hp], rfl⟩
    · next addrs cname hp => exact .inl ⟨_, by simp [Trip.reply, h, hp], rfl⟩

/-! ## The loop's contract -/

/-- The loop over `n` iterations, by induction with `pings_succ`. -/
theorem pings_trips (n : Nat) (w : W) :
    (pings env n w).lines =
        (pings env n w).trips.flatMap (fun t => .query :: (t.reply env).toList) ∧
    (∀ t ∈ (pings env n w).trips, t.Made env) ∧
    ((pings env n w).panic = none →
      (pings env n w).trips.length = n ∧ ∀ t ∈ (pings env n w).trips, (t.reply env).isSome) ∧
    (∀ e, (pings env n w).panic = some e →
      (pings env n w).trips.length ≤ n ∧
      ∃ pre t r, (pings env n w).trips = pre ++ [t] ∧ (∀ t' ∈ pre, (t'.reply env).isSome) ∧
        t.answer = .ok r ∧ env.dnsParseResponse t.query r = .error e) := by
  induction n generalizing w with
  | zero => exact ⟨rfl, nofun, fun _ => ⟨rfl, nofun⟩, fun _ h => (by cases h)⟩
  | succ n ih =>
    obtain ⟨w₁, w₂, trip, hq, hrt, ht0, hd, hnext⟩ := pings_succ env n w
    have hmade : trip.Made env := ⟨w, w₁, w₂, hq, hrt, ht0, hd⟩
    rcases hnext with ⟨reply, hreply, h⟩ | ⟨r, e, hans, hpe, hnone, h⟩ <;> rw [h]
    · obtain ⟨hl, hv, hn, hs⟩ := ih (env.sleep w₂ second)
      refine ⟨by simp [hl, hreply], by simpa using ⟨hmade, hv⟩, fun hp => ?_, fun e hp => ?_⟩
      · obtain ⟨hlen, hsome⟩ := hn hp
        simpa [hlen, hreply] using hsome
      · obtain ⟨hlen, pre, t, r, htr, hpre, hrest⟩ := hs e hp
        refine ⟨by simpa using hlen, trip :: pre, t, r, by simp [htr], ?_, hrest⟩
        simpa [hreply] using hpre
    · refine ⟨by simp [hnone], by simpa using hmade, nofun, fun e' he => ?_⟩
      cases he
      exact ⟨by simp, [], trip, r, rfl, nofun, hans, hpe⟩

/-- **The contract of `dnsping`'s loop.** For every `-count`, every network and every resolver:
every recorded round trip is a fresh query sent by `DNSRoundTrip` with `t0` and `delta` read
around it; each iteration prints its query line and then the reply its round trip's answer
calls for, `err.Error()` after a failed round trip, which does not end the loop; without a panic
there are exactly `-count` round trips (none when it is zero or negative), all of them
replied; the only way out before that is the panic of `Must2` with the error
`DNSParseResponse` returned for the last round trip's response, after its query line. -/
theorem main_lines (maxPings : Int) (w : W) :
    (main env maxPings w).lines =
        (main env maxPings w).trips.flatMap (fun t => .query :: (t.reply env).toList) ∧
    (∀ t ∈ (main env maxPings w).trips, t.Made env) ∧
    ((main env maxPings w).panic = none →
      (main env maxPings w).trips.length = maxPings.toNat ∧
      ∀ t ∈ (main env maxPings w).trips, (t.reply env).isSome) ∧
    (∀ e, (main env maxPings w).panic = some e →
      (main env maxPings w).trips.length ≤ maxPings.toNat ∧
      ∃ pre t r, (main env maxPings w).trips = pre ++ [t] ∧
        (∀ t' ∈ pre, (t'.reply env).isSome) ∧
        t.answer = .ok r ∧ env.dnsParseResponse t.query r = .error e) :=
  pings_trips env maxPings.toNat w

/-! ## Pacing -/

/-- An iteration that goes on keeps the pacing: its `t0` comes after `now0` and a second before
`lo`, and every later start, a chain kept a second apart, comes after `lo`. -/
theorem starts_cons {now0 t0 lo : Nat} {rest : List Nat} (h0 : now0 ≤ t0)
    (hlo : t0 + second ≤ lo) (hge : ∀ t ∈ rest, lo ≤ t)
    (hc : rest.Chain' fun t t' => t + second ≤ t') :
    (∀ t ∈ t0 :: rest, now0 ≤ t) ∧ (t0 :: rest).Chain' fun t t' => t + second ≤ t' := by
  refine ⟨?_, hc.cons' fun t ht => hlo.trans (hge t (List.mem_of_mem_head? ht))⟩
  simp only [List.mem_cons, forall_eq_or_imp]
  exact ⟨h0, fun t ht => by have := hge t ht; omega⟩

section Clock

-- `time.Now` is read on the monotonic clock, which no call sets back, and `time.Sleep(d)`
-- pauses for at least `d`.
variable (hnew : ∀ w s, env.now w ≤ env.now (env.newDNSRequestA w s).1)
  (hrt : ∀ w q, env.now w ≤ env.now (env.dnsRoundTrip w q).1)
  (hsleep : ∀ w d, env.now w + d ≤ env.now (env.sleep w d))
include hnew hrt hsleep

theorem pings_starts (n : Nat) (w : W) :
    (∀ t ∈ (pings env n w).starts, env.now w ≤ t) ∧
    (pings env n w).starts.Chain' fun t t' => t + second ≤ t' := by
  induction n generalizing w with
  | zero => exact ⟨nofun, List.chain'_nil⟩
  | succ n ih =>
    obtain ⟨w₁, w₂, trip, hq, hrt₁, ht0, -, hnext⟩ := pings_succ env n w
    have h₀ : env.now w ≤ trip.t0 := by
      have := hnew w "dns.google"
      rwa [hq, ← ht0] at this
    have hlo : trip.t0 + second ≤ env.now (env.sleep w₂ second) := by
      have := hrt w₁ trip.query
      rw [hrt₁] at this
      exact ht0 ▸ (Nat.add_le_add_right this _).trans (hsleep _ _)
    rcases hnext with ⟨reply, -, h⟩ | ⟨r, e, -, -, -, h⟩ <;> rw [h]
    · obtain ⟨hge, hc⟩ := ih (env.sleep w₂ second)
      exact starts_cons h₀ hlo hge hc
    · exact ⟨by simpa [PingRun.starts] using h₀, List.chain'_singleton _⟩

/-- **`dnsping` paces itself.** On a clock that never goes back and a `time.Sleep` that sleeps
at least what it is asked, every two consecutive round trips start at least a second apart,
however long each one takes and whether it fails or not, and none starts before the loop. -/
theorem main_starts_spaced (maxPings : Int) (w : W) :
    (∀ t ∈ (main env maxPings w).starts, env.now w ≤ t) ∧
    (main env maxPings w).starts.Chain' fun t t' => t + second ≤ t' :=
  pings_starts env hnew hrt hsleep maxPings.toNat w

end Clock

/-- A world that is only a clock, in nanoseconds: every round trip takes 60 ms and is
answered. -/
def clockEnv : Env Nat Unit Unit where
  newDNSRequestA w _ := (w, ())
  now w := w
  dnsRoundTrip w _ := (w + 60000000, .ok ())
  dnsParseResponse _ _ := .ok (["8.8.8.8"], "")
  rcode _ := 0
  sleep w d := w + d

/-- The default ten pings on that clock start a second apart. -/
theorem main_starts_spaced_clock :
    (∀ w s, clockEnv.now w ≤ clockEnv.now (clockEnv.newDNSRequestA w s).1) ∧
    (∀ w q, clockEnv.now w ≤ clockEnv.now (clockEnv.dnsRoundTrip w q).1) ∧
    (∀ w d, clockEnv.now w + d ≤ clockEnv.now (clockEnv.sleep w d)) ∧
    (∀ t ∈ (main clockEnv countDefault 0).starts, clockEnv.now 0 ≤ t) ∧
    (main clockEnv countDefault 0).starts.Chain' fun t t' => t + second ≤ t' :=
  have hnew : ∀ w s, clockEnv.now w ≤ clockEnv.now (clockEnv.newDNSRequestA w s).1 :=
    fun _ _ => le_refl _
  have hrt : ∀ w q, clockEnv.now w ≤ clockEnv.now (clockEnv.dnsRoundTrip w q).1 :=
    fun _ _ => Nat.le_add_right _ _
  have hsleep : ∀ w d, clockEnv.now w + d ≤ clockEnv.now (clockEnv.sleep w d) :=
    fun _ _ => le_refl _
  ⟨hnew, hrt, hsleep, main_starts_spaced clockEnv hnew hrt hsleep countDefault 0⟩

end DNSPing

end Netem
