/-
`DPIThrottleTrafficForTLSSNI`, the DPI rule that throttles a TLS flow once it has seen a
given server name (`netem/dpithrottle.go`).

`Filter` declines anything but a client-to-server TCP packet whose ClientHello names the
rule's `SNI`, and answers that one with a policy that only adds the rule's `PLR`. The packet
type and its TLS parser live outside this file's source (`DissectedPacket`,
`parseTLSServerName`); what `Filter` reads of them is the packet's transport protocol and
the parser's answer, and that is all `DissectedPacket` holds here. The rule's logging is left
out.

`Filter` is a straight-line decision, four short circuits and one policy; this file gives it as
the source has it, and states nothing about it that its text does not already say.
-/
import Netem.Errors

set_option autoImplicit false

namespace Netem

/-- `DPIDirection`: the way a packet crosses the link. -/
inductive DPIDirection where
  | clientToServer
  | serverToClient
  deriving DecidableEq, Repr

/-- `DPIPolicy`: what a matching rule asks the link to do to the packet. -/
structure DPIPolicy where
  /-- `Delay`, a `time.Duration` added to the one-way delay -/
  delay : Int
  /-- `Flags`, the `DPIPolicyFlags` (drop, spoof a reset, ...) -/
  flags : Nat
  /-- `PLR`, the extra packet loss rate -/
  plr : Float

/-- `layers.IPProtocolTCP`. -/
def ipProtocolTCP : UInt8 := 6

/-- Modelled from the spec: `*DissectedPacket`, declared outside this source, as `Filter`
reads it. The dissector exposes the transport protocol (TCP is 6), and a parser over the
transport payload yields the ClientHello's `server_name`, or fails. -/
structure DissectedPacket where
  /-- `TransportProtocol()` -/
  transportProtocol : UInt8
  /-- `parseTLSServerName()` -/
  tlsServerName : Except GoError String

/-- `DPIThrottleTrafficForTLSSNI`, without its logger. -/
structure DPIThrottleTrafficForTLSSNI where
  /-- `PLR`, the extra loss rate for the offending flow -/
  plr : Float
  /-- `SNI`, the offending server name -/
  sni : String

namespace DPIThrottleTrafficForTLSSNI

/-- `(*DPIThrottleTrafficForTLSSNI).Filter`: the four short circuits of the source in its order,
then the throttling policy. -/
def filter (r : DPIThrottleTrafficForTLSSNI) (direction : DPIDirection)
    (packet : DissectedPacket) : Option DPIPolicy × Bool :=
  if direction ≠ .clientToServer then (none, false)
  else if packet.transportProtocol ≠ ipProtocolTCP then (none, false)
  else
    match packet.tlsServerName with
    | .error _ => (none, false)
    | .ok sni => if sni ≠ r.sni then (none, false) else (some ⟨0, 0, r.plr⟩, true)

end DPIThrottleTrafficForTLSSNI

end Netem
