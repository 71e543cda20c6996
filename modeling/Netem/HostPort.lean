/-
`net.SplitHostPort` and `net.JoinHostPort`, the two address helpers of Go's `net` package that
`(*Net).DialContext` and `(*Net).DialTLSContext` call first and last: every dial starts by
splitting `address`, and every endpoint handed to the stack is joined back from an IP and the
port.

The standard library works on byte indexes (`i`, the last `':'`; `end`, the first `']'`).
Here the string is a list of characters and the two searches are `splitLast` and
`splitFirst`, which return the text before and after the index instead of the index: the
three delimiters are ASCII, so no byte of a multi-byte character is ever one of them and
the two readings give the same substrings.

What is proved is the parser's contract with the facade: `splitHostPort` accepts exactly the
well-formed pairs (no bracket in either part, no colon in the port) spelled `host:port` or
`[host]:port` (`splitHostPort_eq_ok_iff`); such a pair survives `joinHostPort` then
`splitHostPort` (`splitHostPort_joinHostPort`), IPv6 literals (which `joinHostPort` brackets)
included; and `joinHostPort` after `splitHostPort` spells the address again, except that it
drops the brackets around a host without a colon (`joinHostPort_splitHostPort`).
-/
import Netem.Errors

set_option autoImplicit false

namespace Netem

/-- `*net.AddrError`: the reason `Err` and the address `Addr`. -/
structure AddrError where
  err : String
  addr : String
  deriving DecidableEq, Repr

/-- `(*AddrError).Error()`. -/
def AddrError.error (e : AddrError) : String :=
  if e.addr = "" then e.err else "address " ++ e.addr ++ ": " ++ e.err

/-- The `error` value of an `*AddrError` allocated at `ptr`: a leaf, the type has neither
`Is` nor `Unwrap`. -/
def AddrError.toError (e : AddrError) (ptr : Nat) : GoError :=
  .leaf "*net.AddrError" ptr e.error

/-- `(s[:i], s[i+1:])` for `i` the last index of `c` in `s`, if `c` occurs. -/
def splitLast (c : Char) : List Char → Option (List Char × List Char)
  | [] => none
  | x :: xs =>
    match splitLast c xs with
    | some (pre, post) => some (x :: pre, post)
    | none => if x = c then some ([], xs) else none

/-- `(s[:i], s[i+1:])` for `i` the first index of `c` in `s`, if `c` occurs. -/
def splitFirst (c : Char) : List Char → Option (List Char × List Char)
  | [] => none
  | x :: xs =>
    if x = c then some ([], xs) else (splitFirst c xs).map fun (pre, post) => (x :: pre, post)

/-- The bracket check of `SplitHostPort` once the last colon is known: the host, and the two
suffixes `hostport[j:]` and `hostport[k:]` that must hold no stray `'['` and `']'`. Without a
leading `'['` the host is `hostport[:i]`; with one, the first `']'` must sit just before the
last colon (the `switch end + 1` of the source, its three cases in its order). -/
def splitHostPort.host (hostport : String) (beforeColon : List Char) :
    Except AddrError (List Char × List Char × List Char) :=
  if hostport.data.head? = some '[' then
    let rest := hostport.data.tail
    match splitFirst ']' rest with
    | none => .error ⟨"missing ']' in address", hostport⟩
    | some (host, after) =>
      match after with
      | [] => .error ⟨"missing port in address", hostport⟩
      | c :: port =>
        if c = ':' ∧ ':' ∉ port then .ok (host, rest, after)
        else if c = ':' then .error ⟨"too many colons in address", hostport⟩
        else .error ⟨"missing port in address", hostport⟩
  else if ':' ∈ beforeColon then .error ⟨"too many colons in address", hostport⟩
  else .ok (beforeColon, hostport.data, hostport.data)

/-- `net.SplitHostPort(hostport)`: the host and the port, or the `*AddrError` saying why not. -/
def splitHostPort (hostport : String) : Except AddrError (String × String) :=
  match splitLast ':' hostport.data with
  | none => .error ⟨"missing port in address", hostport⟩
  | some (beforeColon, port) =>
    match splitHostPort.host hostport beforeColon with
    | .error e => .error e
    | .ok (host, fromJ, fromK) =>
      if '[' ∈ fromJ then .error ⟨"unexpected '[' in address", hostport⟩
      else if ']' ∈ fromK then .error ⟨"unexpected ']' in address", hostport⟩
      else .ok (String.mk host, String.mk port)

/-- `net.JoinHostPort(host, port)`: a host with a colon is taken for an IPv6 literal and
bracketed. -/
def joinHostPort (host port : String) : String :=
  if ':' ∈ host.data then "[" ++ host ++ "]:" ++ port else host ++ ":" ++ port

/-! ## The two searches -/

section Search

variable {c : Char}

theorem splitLast_eq_none {s : List Char} : splitLast c s = none ↔ c ∉ s := by
  induction s with
  | nil => simp [splitLast]
  | cons x xs ih =>
    cases h : splitLast c xs with
    | some r => simp_all [splitLast]
    | none =>
      by_cases hx : x = c
      · simp [splitLast, h, hx]
      · simp_all [splitLast, Ne.symm hx]

theorem splitLast_append_cons {pre post : List Char} (h : c ∉ post) :
    splitLast c (pre ++ c :: post) = some (pre, post) := by
  induction pre with
  | nil => simp [splitLast, splitLast_eq_none.mpr h]
  | cons y ys ih => simp [splitLast, ih]

theorem splitLast_eq_some {s pre post : List Char} :
    splitLast c s = some (pre, post) ↔ s = pre ++ c :: post ∧ c ∉ post := by
  refine ⟨fun h => ?_, fun ⟨hs, hc⟩ => hs ▸ splitLast_append_cons hc⟩
  induction s generalizing pre with
  | nil => simp [splitLast] at h
  | cons x xs ih =>
    cases hr : splitLast c xs with
    | some r =>
      simp only [splitLast, hr, Option.some.injEq, Prod.mk.injEq] at h
      obtain ⟨rfl, rfl⟩ := h
      obtain ⟨rfl, hc⟩ := ih hr
      exact ⟨rfl, hc⟩
    | none =>
      simp only [splitLast, hr, ite_eq_right_iff, Option.some.injEq, Prod.mk.injEq] at h
      split at h <;> simp_all [splitLast_eq_none]

theorem splitFirst_eq_none {s : List Char} : splitFirst c s = none ↔ c ∉ s := by
  induction s with
  | nil => simp [splitFirst]
  | cons x xs ih =>
    by_cases hx : x = c
    · simp [splitFirst, hx]
    · simp [splitFirst, hx, ih, Ne.symm hx]

theorem splitFirst_append_cons {pre post : List Char} (h : c ∉ pre) :
    splitFirst c (pre ++ c :: post) = some (pre, post) := by
  induction pre with
  | nil => simp [splitFirst]
  | cons y ys ih =>
    have hy : y ≠ c := fun e => h (e ▸ List.mem_cons_self _ _)
    simp [splitFirst, hy, ih (fun e => h (List.mem_cons_of_mem _ e))]

theorem splitFirst_eq_some {s pre post : List Char} :
    splitFirst c s = some (pre, post) ↔ s = pre ++ c :: post ∧ c ∉ pre := by
  refine ⟨fun h => ?_, fun ⟨hs, hc⟩ => hs ▸ splitFirst_append_cons hc⟩
  induction s generalizing pre with
  | nil => simp [splitFirst] at h
  | cons x xs ih =>
    by_cases hx : x = c
    · simp only [splitFirst, hx, if_true, Option.some.injEq, Prod.mk.injEq] at h
      obtain ⟨rfl, rfl⟩ := h
      simp [hx]
    · simp only [splitFirst, hx, if_false, Option.map_eq_some', Prod.exists, Prod.mk.injEq] at h
      obtain ⟨pre', post', hr, rfl, rfl⟩ := h
      obtain ⟨rfl, hc⟩ := ih hr
      simp [hc, Ne.symm hx]

end Search

/-! ## What `splitHostPort` accepts -/

/-- A host and a port that `joinHostPort` and `splitHostPort` agree on: no bracket in either,
no colon in the port. -/
structure HostPortWf (host port : List Char) : Prop where
  host_open : '[' ∉ host
  host_close : ']' ∉ host
  port_colon : ':' ∉ port
  port_open : '[' ∉ port
  port_close : ']' ∉ port

/-- The two spellings of `(host, port)` that `splitHostPort` accepts: `host:port` with a host
free of colons, and `[host]:port`. -/
def HostPortForm (hostport host port : List Char) : Prop :=
  (hostport = host ++ ':' :: port ∧ ':' ∉ host) ∨ hostport = '[' :: host ++ ']' :: ':' :: port

theorem splitHostPort_of_form {hostport : String} {host port : List Char}
    (hwf : HostPortWf host port) (hf : HostPortForm hostport.data host port) :
    splitHostPort hostport = .ok (⟨host⟩, ⟨port⟩) := by
  rcases hf with ⟨hs, hc⟩ | hs
  · have hhead : hostport.data.head? ≠ some '[' := fun e => by
      have := List.mem_of_mem_head? e
      simp [hs, hwf.host_open, hwf.port_open] at this
    have hsl : splitLast ':' hostport.data = some (host, port) :=
      hs ▸ splitLast_append_cons hwf.port_colon
    have hj : '[' ∉ hostport.data := by simp [hs, hwf.host_open, hwf.port_open]
    have hk : ']' ∉ hostport.data := by simp [hs, hwf.host_close, hwf.port_close]
    simp only [splitHostPort, hsl, splitHostPort.host, hhead, hc, hj, hk, if_false]
  · have hsl : splitLast ':' hostport.data = some ('[' :: (host ++ [']']), port) := by
      rw [hs, show '[' :: host ++ ']' :: ':' :: port = ('[' :: (host ++ [']'])) ++ ':' :: port by
        simp]
      exact splitLast_append_cons hwf.port_colon
    have hhost : splitHostPort.host hostport ('[' :: (host ++ [']'])) =
        .ok (host, host ++ ']' :: ':' :: port, ':' :: port) := by
      simp [splitHostPort.host, hs, splitFirst_append_cons hwf.host_close, hwf.port_colon]
    simp [splitHostPort, hsl, hhost, hwf.host_open, hwf.port_open, hwf.port_close]

/-- The two ways `splitHostPort.host` can succeed, given the last colon. -/
theorem splitHostPort.host_eq_ok {hostport : String} {bc p h j k : List Char}
    (hl : splitLast ':' hostport.data = some (bc, p))
    (hh : splitHostPort.host hostport bc = .ok (h, j, k)) :
    (hostport.data = '[' :: h ++ ']' :: ':' :: p ∧ ']' ∉ h ∧ j = h ++ ']' :: ':' :: p ∧
      k = ':' :: p) ∨ (h = bc ∧ ':' ∉ bc ∧ j = hostport.data ∧ k = hostport.data) := by
  unfold splitHostPort.host at hh
  by_cases hb : hostport.data.head? = some '['
  · obtain ⟨rest, hrest⟩ := List.head?_eq_some_iff.mp hb
    rw [if_pos hb, hrest, List.tail_cons] at hh
    dsimp only at hh
    cases hf : splitFirst ']' rest with
    | none => rw [hf] at hh; cases hh
    | some r =>
      obtain ⟨h', after⟩ := r
      obtain ⟨rfl, hc⟩ := splitFirst_eq_some.mp hf
      rw [hf] at hh
      cases after with
      | nil => cases hh
      | cons c q =>
        by_cases hcq : c = ':' ∧ ':' ∉ q
        · simp only [if_pos hcq] at hh
          obtain ⟨rfl, hq⟩ := hcq
          cases hh
          have hsplit : splitLast ':' hostport.data = some ('[' :: (h ++ [']']), q) := by
            rw [hrest, show '[' :: (h ++ ']' :: ':' :: q) = ('[' :: (h ++ [']'])) ++ ':' :: q by
              simp]
            exact splitLast_append_cons hq
          rw [hl, Option.some.injEq, Prod.mk.injEq] at hsplit
          obtain ⟨-, rfl⟩ := hsplit
          exact .inl ⟨hrest, hc, rfl, rfl⟩
        · simp only [if_neg hcq] at hh
          split at hh <;> cases hh
  · rw [if_neg hb] at hh
    by_cases hc : ':' ∈ bc
    · rw [if_pos hc] at hh; cases hh
    · rw [if_neg hc] at hh; cases hh; exact .inr ⟨rfl, hc, rfl, rfl⟩

theorem splitHostPort_form {hostport : String} {host port : List Char}
    (h : splitHostPort hostport = .ok (⟨host⟩, ⟨port⟩)) :
    HostPortWf host port ∧ HostPortForm hostport.data host port := by
  unfold splitHostPort at h
  cases hl : splitLast ':' hostport.data with
  | none => rw [hl] at h; cases h
  | some r =>
    obtain ⟨bc, p⟩ := r
    obtain ⟨hs, hp⟩ := splitLast_eq_some.mp hl
    simp only [hl] at h
    cases hh : splitHostPort.host hostport bc with
    | error e => simp only [hh] at h; cases h
    | ok r =>
      obtain ⟨h', j, k⟩ := r
      simp only [hh] at h
      by_cases hj : '[' ∈ j
      · rw [if_pos hj] at h; cases h
      by_cases hk : ']' ∈ k
      · rw [if_neg hj, if_pos hk] at h; cases h
      rw [if_neg hj, if_neg hk] at h
      simp only [Except.ok.injEq, Prod.mk.injEq, String.ext_iff] at h
      obtain ⟨rfl, rfl⟩ := h
      rcases splitHostPort.host_eq_ok hl hh with ⟨hd, hc, rfl, rfl⟩ | ⟨rfl, hc, rfl, rfl⟩
      · simp only [List.mem_append, List.mem_cons, not_or] at hj hk
        exact ⟨⟨hj.1, hc, hp, hj.2.2.2, hk.2⟩, .inr hd⟩
      · rw [hs] at hj hk
        simp only [List.mem_append, List.mem_cons, not_or] at hj hk
        exact ⟨⟨hj.1, hk.1, hp, hj.2.2, hk.2.2⟩, .inl ⟨hs, hc⟩⟩

/-- **What `splitHostPort` accepts, exactly.** It returns `(host, port)` precisely for a
well-formed pair spelled `host:port` (a host without colons) or `[host]:port`. -/
theorem splitHostPort_eq_ok_iff {hostport host port : String} :
    splitHostPort hostport = .ok (host, port) ↔
      HostPortWf host.data port.data ∧ HostPortForm hostport.data host.data port.data :=
  ⟨fun h => splitHostPort_form
      (show splitHostPort hostport = .ok (⟨host.data⟩, ⟨port.data⟩) from h),
    fun ⟨hwf, hf⟩ => splitHostPort_of_form hwf hf⟩

/-- `joinHostPort` spells every pair in one of the two ways `splitHostPort` reads. -/
theorem joinHostPort_form (host port : String) :
    HostPortForm (joinHostPort host port).data host.data port.data := by
  unfold joinHostPort HostPortForm
  split <;> simp_all

/-- **Round trip.** A well-formed pair survives `joinHostPort` then `splitHostPort`. -/
theorem splitHostPort_joinHostPort {host port : String}
    (hwf : HostPortWf host.data port.data) :
    splitHostPort (joinHostPort host port) = .ok (host, port) :=
  splitHostPort_of_form hwf (joinHostPort_form host port)

/-- The IPv6 loopback and port 443, bracketed and split back. -/
theorem splitHostPort_joinHostPort_ipv6 :
    HostPortWf "::1".data "443".data ∧
      splitHostPort (joinHostPort "::1" "443") = .ok ("::1", "443") :=
  have hwf : HostPortWf "::1".data "443".data :=
    ⟨by decide, by decide, by decide, by decide, by decide⟩
  ⟨hwf, splitHostPort_joinHostPort hwf⟩

/-- A host free of `[` followed by a colon never starts with `[`. -/
theorem head_ne_open {host rest : List Char} (h : '[' ∉ host) :
    (host ++ ':' :: rest).head? ≠ some '[' := by
  cases host with
  | nil => simp
  | cons c cs =>
    simp only [List.cons_append, List.head?_cons, ne_eq, Option.some.injEq]
    rintro rfl
    simp at h

/-- **The other round trip.** Joining what `splitHostPort` returned spells the address again,
with one exception: brackets around a host with no colon in it are dropped (`[10.0.0.1]:443`
comes back as `10.0.0.1:443`). -/
theorem joinHostPort_splitHostPort {hostport host port : String}
    (h : splitHostPort hostport = .ok (host, port)) :
    joinHostPort host port = hostport ↔ (':' ∈ host.data ∨ hostport.data.head? ≠ some '[') := by
  obtain ⟨hwf, hf⟩ := splitHostPort_form
    (show splitHostPort hostport = .ok (⟨host.data⟩, ⟨port.data⟩) from h)
  rw [String.ext_iff]
  unfold joinHostPort
  rcases hf with ⟨hs, hc⟩ | hs
  · simp only [hs, hc, if_false, String.data_append]
    exact ⟨fun _ => .inr (head_ne_open hwf.host_open), fun _ => by simp⟩
  · by_cases hc : ':' ∈ host.data
    · simp [hs, hc]
    · refine iff_of_false (fun heq => @head_ne_open host.data port.data hwf.host_open ?_)
        (by simp [hs, hc])
      simpa [hs, hc] using congrArg List.head? heq

/-- `[10.0.0.1]:443` splits into `10.0.0.1` and `443`, which join without the brackets. -/
theorem joinHostPort_splitHostPort_bracketed :
    splitHostPort "[10.0.0.1]:443" = .ok ("10.0.0.1", "443") ∧
      (joinHostPort "10.0.0.1" "443" = "[10.0.0.1]:443" ↔
        (':' ∈ "10.0.0.1".data ∨ "[10.0.0.1]:443".data.head? ≠ some '[')) :=
  have h : splitHostPort "[10.0.0.1]:443" = .ok ("10.0.0.1", "443") := rfl
  ⟨h, joinHostPort_splitHostPort h⟩

end Netem
