import ScionIp.Python.IpText

/-!
# Packets of the Python prototype

Packets are the objects `scapy` makes of them, with the fields the translator reads or writes.
Addresses are texts, as in `scapy`. Building and dissecting packets is not part of the repository:
an object sent is taken to arrive as it is.

* `L4` — the upper-layer objects, among them `Raw`, which has no `type` attribute.
* `icmpToScmp`, `scmpToIcmp` — the converters between the two kinds of echo messages.
-/

namespace ScionIp.Prototype

open ScionIp.Lib ScionIp.Python

/-- A TCP or UDP object: the checksum field, `None` if it is to be computed, and everything else.
Kind: D -/
structure Segment where
  chksum : Option UInt16
  content : Bytes
  deriving DecidableEq

/-- Identifier, sequence number and data of an echo message. Kind: D -/
structure Echo where
  id : UInt16
  seq : UInt16
  data : Bytes
  deriving DecidableEq

/-- The `Message` of an SCMP object: an echo message, or anything without its fields. Kind: D -/
inductive ScmpMessage where
  | echo (msg : Echo)
  | other
  deriving DecidableEq

/-- Upper-layer objects. Kind: D -/
inductive L4 where
  | tcp (seg : Segment)
  | udp (seg : Segment)
  | icmpv6EchoRequest (msg : Echo)
  | icmpv6EchoReply (msg : Echo)
  | icmpv6 (type : UInt8)
  | scmp (type : UInt8) (message : ScmpMessage)
  | raw
  deriving DecidableEq

/-- An IPv6 object. Kind: D -/
structure IPv6Packet where
  src : Text
  dst : Text
  nh : UInt8
  payload : L4
  deriving DecidableEq

/-- What `TunInterface.read` returns. Kind: D -/
inductive TunPacket where
  | none
  | ip
  | ipv6 (pkt : IPv6Packet)

/-- `SCMPTypeNumbers["Echo Request"]`. Kind: D -/
def SCMP_ECHO_REQUEST : UInt8 := 128

/-- `SCMPTypeNumbers["Echo Reply"]`. Kind: D -/
def SCMP_ECHO_REPLY : UInt8 := 129

/-- `l4.type` of an upper-layer object, where there is such an attribute. Kind: D -/
def L4.type : L4 → Py UInt8
  | .icmpv6EchoRequest _ => .ok 128
  | .icmpv6EchoReply _ => .ok 129
  | .icmpv6 type => .ok type
  | _ => .error (.AttributeError "type")

/-- `l4.id`, `l4.seq` and `l4.data` of an upper-layer object. Kind: D -/
def L4.echo : L4 → Py Echo
  | .icmpv6EchoRequest msg => .ok msg
  | .icmpv6EchoReply msg => .ok msg
  | _ => .error (.AttributeError "id")

/-- `Identifier`, `SequenceNumber` and `Data` of an SCMP message. Kind: D -/
def ScmpMessage.fields : ScmpMessage → Py Echo
  | .echo msg => .ok msg
  | .other => .error (.AttributeError "Identifier")

/-- Source: `scitun.py`, `icmp_to_scmp`. Kind: D -/
def icmpToScmp (l4 : L4) : Py (Option L4) := do
  let type ← l4.type
  if type = 128 then
    let msg ← l4.echo
    return some (.scmp SCMP_ECHO_REQUEST (.echo msg))
  else if type = 129 then
    let msg ← l4.echo
    return some (.scmp SCMP_ECHO_REPLY (.echo msg))
  else return none

/-- Source: `scitun.py`, `scmp_to_icmp`. Kind: D -/
def scmpToIcmp (type : UInt8) (message : ScmpMessage) : Py (Option L4) :=
  if type = SCMP_ECHO_REQUEST then do
    let msg ← message.fields
    return some (.icmpv6EchoRequest msg)
  else if type = SCMP_ECHO_REPLY then do
    let msg ← message.fields
    return some (.icmpv6EchoReply msg)
  else .ok none

/-- The object with its checksum to be recomputed. Kind: D -/
def L4.recomputed : L4 → L4
  | .tcp seg => .tcp { seg with chksum := none }
  | .udp seg => .udp { seg with chksum := none }
  | l4 => l4

/-- An SCMP echo whose message is no echo message. Kind: D -/
def L4.BrokenEcho (l4 : L4) : Prop :=
  ∃ type, (type = SCMP_ECHO_REQUEST ∨ type = SCMP_ECHO_REPLY) ∧ l4 = .scmp type .other

/-- The converter back raises exactly on a broken echo. Kind: L -/
theorem scmpToIcmp_ok_iff (type : UInt8) (message : ScmpMessage) :
    (∃ r, scmpToIcmp type message = .ok r) ↔ ¬ (L4.scmp type message).BrokenEcho := by
  unfold scmpToIcmp L4.BrokenEcho
  cases message with
  | echo msg =>
      refine iff_of_true ?_ (by simp)
      split_ifs
      · exact ⟨_, rfl⟩
      · exact ⟨_, rfl⟩
      · exact ⟨_, rfl⟩
  | other =>
      by_cases hrequest : type = SCMP_ECHO_REQUEST
      · rw [if_pos hrequest]
        refine iff_of_false ?_ (not_not.mpr ⟨type, Or.inl hrequest, rfl⟩)
        rintro ⟨r, hr⟩
        cases hr
      · rw [if_neg hrequest]
        by_cases hreply : type = SCMP_ECHO_REPLY
        · rw [if_pos hreply]
          refine iff_of_false ?_ (not_not.mpr ⟨type, Or.inr hreply, rfl⟩)
          rintro ⟨r, hr⟩
          cases hr
        · rw [if_neg hreply]
          refine iff_of_true ⟨none, rfl⟩ ?_
          rintro ⟨type', htype, heq⟩
          cases heq
          exact htype.elim hrequest hreply

end ScionIp.Prototype
