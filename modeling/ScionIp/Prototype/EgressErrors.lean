import ScionIp.Lib.Memory
import ScionIp.Prototype.Translate

/-!
# Which frames of the TUN device stop the translator

`run_translation` reads a frame and translates it; an exception of either ends it. `tunRead` returns
three kinds of packet, of which `translate_egress` can use two; and `icmp_to_scmp` asks every ICMPv6
message for its type, which a message that `scapy` did not dissect does not have.

* `Scapy.Documented` — what is relied on of `scapy`.
* `egressTurn_ok_iff` — when one turn of the loop raises nothing.
* `egressLoop_ok_iff` — from it, by induction on the frames, when the loop goes on.
-/

namespace ScionIp.Prototype

open ScionIp.Lib ScionIp.Python

/-! ## The reader and the loop -/

/-- Source: `scitun.py`, `ETH_P_IP`. Kind: D -/
def ETH_P_IP : ℕ := 0x0800

/-- Source: `scitun.py`, `ETH_P_IPv6`. Kind: D -/
def ETH_P_IPv6 : ℕ := 0x86dd

/-- The constructors `IP(packet)` and `IPv6(packet)`. Kind: D -/
structure Scapy where
  ip : Bytes → Py Unit
  ipv6 : Bytes → Py IPv6Packet

/-- The protocol number in front of a frame. Kind: D -/
def tunProto (frame : Bytes) : ℕ := ofBE (peek (frame.take 2028) 2 2)

/-- What follows the four bytes of flags and protocol number, as far as the buffer goes. Kind: D -/
def tunData (frame : Bytes) : Bytes := (frame.take 2028).drop 4

/-- The flags are only printed. Source: `scitun.py`, `TunInterface.read`. Kind: D -/
def tunRead (scapy : Scapy) (frame : Bytes) : Py (TunPacket × ℕ) :=
  let proto := tunProto frame
  let packet := tunData frame
  if proto = ETH_P_IP then do
    let _ ← scapy.ip packet
    return (.ip, packet.length)
  else if proto = ETH_P_IPv6 then do
    let pkt ← scapy.ipv6 packet
    return (.ipv6 pkt, packet.length)
  else return (.none, 0)

/-- The TUN branch of the loop: a frame is read and translated.
Source: `scitun.py`, `run_translation`. Kind: D -/
def egressTurn (scapy : Scapy) (getPaths : GetPaths) (hostIp : IPAddress) (hostPort : ℕ)
    (frame : Bytes) (cache : PathCache) : Py (Option (SCION × NextHop)) × PathCache :=
  match tunRead scapy frame with
  | .error exc => (.error exc, cache)
  | .ok (pkt, _) => translateEgress getPaths pkt hostIp hostPort cache

/-- The loop over the frames that arrive, each at a time of its own: nothing is caught.
Source: `scitun.py`, `run_translation`. Kind: D -/
def egressLoop (scapy : Scapy) (hostIp : IPAddress) (hostPort : ℕ) :
    List (GetPaths × Bytes) → PathCache → Py PathCache
  | [], cache => .ok cache
  | (getPaths, frame) :: frames, cache =>
      match egressTurn scapy getPaths hostIp hostPort frame cache with
      | (.error exc, _) => .error exc
      | (.ok _, cache) => egressLoop scapy hostIp hostPort frames cache

/-! ## What is relied on -/

/-- The objects of ICMPv6 messages of the given type. Kind: D -/
inductive IcmpObject : UInt8 → L4 → Prop
  | echoRequest (msg : Echo) : IcmpObject 128 (.icmpv6EchoRequest msg)
  | echoReply (msg : Echo) : IcmpObject 129 (.icmpv6EchoReply msg)
  | other (type : UInt8) (hrequest : type ≠ 128) (hreply : type ≠ 129) :
      IcmpObject type (.icmpv6 type)

/-- The message of an IPv6 packet whose next header is ICMPv6: as much as the payload length of the
header announces. Kind: D -/
def icmpMessage (packet : Bytes) : Bytes := (packet.drop 40).take (ofBE (peek packet 4 2))

/-- The ICMPv6 message is of a known type and as long as that type asks for. Kind: D -/
def Understood (minLen : UInt8 → Option ℕ) (message : Bytes) : Prop :=
  ∃ n, minLen (byteAt message 0) = some n ∧ n ≤ message.length

/-- **The documented behaviour of `scapy`**, with the ICMPv6 messages it has a class for, and the
least length of the messages of each type it knows: destinations are texts of addresses, a message
with a class becomes an object of its type, any other one `Raw`, and messages of unknown type or
too short for their type have no class. A message that is long enough may have none either: those of
types 139 and 140 are told apart by further fields. Kind: D -/
structure Scapy.Documented (scapy : Scapy) (hasClass : Bytes → Prop) (minLen : UInt8 → Option ℕ) :
    Prop where
  dst : ∀ packet pkt, scapy.ipv6 packet = .ok pkt → ∃ ip, IPv6Address.parse pkt.dst = .ok ip
  icmp : ∀ packet pkt, scapy.ipv6 packet = .ok pkt → pkt.nh = 58 →
    hasClass (icmpMessage packet) → IcmpObject (byteAt (icmpMessage packet) 0) pkt.payload
  raw : ∀ packet pkt, scapy.ipv6 packet = .ok pkt → pkt.nh = 58 →
    ¬ hasClass (icmpMessage packet) → pkt.payload = .raw
  understood : ∀ message, hasClass message → Understood minLen message

/-- The daemon answers normally: it returns paths, each with a router address. Kind: D -/
def DaemonAnswers (getPaths : GetPaths) : Prop :=
  ∀ dstIa, ∃ answer, getPaths dstIa = .ok answer ∧
    ∀ path ∈ answer, ∃ router, splitAddr path.2 = .ok router

/-- A path is stored for the ISD-ASN, or nothing is stored and the daemon has one. Kind: D -/
def PathCache.HasPath (getPaths : GetPaths) (cache : PathCache) (dstIa : ℕ) : Prop :=
  match cache.paths dstIa with
  | some paths => paths ≠ []
  | none => ∃ answer, getPaths dstIa = .ok answer ∧ answer ≠ []

/-! ## One function after the other -/

/-- An ICMPv6 object is converted or refused. Kind: L -/
theorem icmpToScmp_of_icmpObject {type : UInt8} {l4 : L4} (h : IcmpObject type l4) :
    ∃ r, icmpToScmp l4 = .ok r := by
  cases h with
  | echoRequest msg => exact ⟨_, rfl⟩
  | echoReply msg => exact ⟨_, rfl⟩
  | other type hrequest hreply =>
      refine ⟨none, ?_⟩
      rw [icmpToScmp, L4.type, ok_bind, if_neg hrequest, if_neg hreply]
      rfl

/-- An answer is made into a list of the same length. Kind: L -/
theorem fetchPaths_of_answers {getPaths : GetPaths} (hdaemon : DaemonAnswers getPaths) (dstIa : ℕ) :
    ∃ answer paths, getPaths dstIa = .ok answer ∧ fetchPaths getPaths dstIa = .ok paths ∧
      (paths = [] ↔ answer = []) := by
  obtain ⟨answer, hanswer, hrouters⟩ := hdaemon dstIa
  obtain ⟨paths, hpaths⟩ := (exists_fetchPaths_iff _ _).mpr ⟨answer, hanswer, hrouters⟩
  refine ⟨answer, paths, hanswer, hpaths, ?_⟩
  rw [← List.length_eq_zero_iff, ← List.length_eq_zero_iff, length_of_fetchPaths hanswer hpaths]

/-- A lookup raises nothing, and finds a path exactly if there is one. Kind: L -/
theorem PathCache.lookup_of_answers {getPaths : GetPaths} (hdaemon : DaemonAnswers getPaths)
    (cache : PathCache) (dstIa : ℕ) :
    ∃ r, (cache.lookup getPaths dstIa).1 = .ok r ∧
      (cache.HasPath getPaths dstIa ↔ ∃ path, r = some path) := by
  have hhead : ∀ paths : List CachedPath, paths ≠ [] ↔ ∃ path, paths.head? = some path := by
    intro paths
    cases paths with
    | nil => simp
    | cons path paths => simp
  obtain ⟨answer, fetched, hanswer, hfetch, hempty⟩ := fetchPaths_of_answers hdaemon dstIa
  unfold HasPath
  rcases cache.lookup_cases getPaths dstIa with
    ⟨paths, hknown, heq⟩ | ⟨exc, -, herr, -⟩ | ⟨paths, hunknown, hpaths, heq⟩
  · rw [heq, hknown]
    exact ⟨paths.head?, rfl, hhead paths⟩
  · rw [hfetch] at herr
    cases herr
  · obtain rfl := Except.ok.inj (hfetch.symm.trans hpaths)
    have hne : fetched ≠ [] ↔ answer ≠ [] := not_iff_not.mpr hempty
    rw [heq, hunknown]
    refine ⟨fetched.head?, rfl, ?_⟩
    rw [← hhead, hne]
    constructor
    · rintro ⟨answer', hanswer', hne⟩
      obtain rfl := Except.ok.inj (hanswer.symm.trans hanswer')
      exact hne
    · intro hne
      exact ⟨answer, hanswer, hne⟩

/-- The key of the dictionary for an address in the network. Kind: D -/
def dstIaOf (ip : IPv6Address) : ℕ := ((unmapped ip 8).isd <<< 48) ||| (unmapped ip 8).asn

/-- A path is looked for and found: the destination is in the network, and there is a path to it.
Kind: D -/
def PathFound (getPaths : GetPaths) (cache : PathCache) (pkt : IPv6Packet) : Prop :=
  ∃ ip, IPv6Address.parse pkt.dst = .ok ip ∧ SCION_NETWORK ip = true ∧
    cache.HasPath getPaths (dstIaOf ip)

/-- Behind the lookup only the conversion of the payload can raise. Kind: L -/
theorem egressPacket_ok_iff (pkt : IPv6Packet) (dst : Unmapped) (dstHost : IPAddress)
    (path : CachedPath) (isdAsn : ℕ × ℕ) (hostIp : IPAddress) (hostPort : ℕ) :
    (∃ r, egressPacket pkt dst dstHost path isdAsn hostIp hostPort = .ok r) ↔
      ∃ r, egressL4 pkt = .ok r := by
  unfold egressPacket
  cases hl4 : egressL4 pkt with
  | error exc => simp
  | ok r =>
      rw [ok_bind]
      cases r with
      | none => exact iff_of_true ⟨_, rfl⟩ ⟨_, rfl⟩
      | some l4 => exact iff_of_true ⟨_, rfl⟩ ⟨_, rfl⟩

/-- **When an IPv6 packet raises nothing**: no path is found for it, or its payload is converted.
Kind: L -/
theorem translateEgress_ipv6_ok_iff {getPaths : GetPaths} (hdaemon : DaemonAnswers getPaths)
    {pkt : IPv6Packet} (hdst : ∃ ip, IPv6Address.parse pkt.dst = .ok ip) (hostIp : IPAddress)
    (hostPort : ℕ) (cache : PathCache) :
    (∃ r, (translateEgress getPaths (.ipv6 pkt) hostIp hostPort cache).1 = .ok r) ↔
      (PathFound getPaths cache pkt → ∃ r, egressL4 pkt = .ok r) := by
  obtain ⟨ip, hip⟩ := hdst
  by_cases hnet : SCION_NETWORK ip = true
  · obtain ⟨r, hlookup, hhas⟩ := cache.lookup_of_answers hdaemon (dstIaOf ip)
    have hfound : PathFound getPaths cache pkt ↔ ∃ path, r = some path := by
      rw [← hhas]
      constructor
      · rintro ⟨ip', hip', -, hpath⟩
        rw [hip] at hip'
        obtain rfl := Except.ok.inj hip'
        exact hpath
      · intro hpath
        exact ⟨ip, hip, hnet, hpath⟩
    rw [hfound]
    cases r with
    | none =>
        refine iff_of_true ⟨none, ?_⟩ ?_
        · have hunmap := unmapIpv6_of_network hnet (show 8 ≤ 24 by norm_num)
          rcases hstep : cache.lookup getPaths (dstIaOf ip) with ⟨r', cache'⟩
          rw [hstep] at hlookup
          obtain rfl : r' = .ok none := hlookup
          unfold dstIaOf at hstep
          simp only [translateEgress, hip, hnet, not_true_eq_false, if_false, hunmap, hstep]
        · rintro ⟨path, hpath⟩
          cases hpath
    | some path =>
        rw [translateEgress_of_path hip hnet hlookup, egressPacket_ok_iff]
        exact ⟨fun h _ => h, fun h => h ⟨path, rfl⟩⟩
  · refine iff_of_true ⟨none, ?_⟩ ?_
    · simp only [translateEgress, hip]
      rw [if_pos hnet]
    · rintro ⟨ip', hip', hnet', -⟩
      rw [hip] at hip'
      obtain rfl := Except.ok.inj hip'
      exact absurd hnet' hnet

/-! ## One turn of the loop -/

/-- **The frame is translated or dropped**: it is an IPv4 or IPv6 packet that `scapy` dissects, and
it has a class for an ICMPv6 message for which a path is found. Kind: D -/
structure HarmlessFrame (scapy : Scapy) (hasClass : Bytes → Prop) (getPaths : GetPaths)
    (cache : PathCache) (frame : Bytes) : Prop where
  proto : tunProto frame = ETH_P_IP ∨ tunProto frame = ETH_P_IPv6
  ip : tunProto frame = ETH_P_IP → ∃ r, scapy.ip (tunData frame) = .ok r
  ipv6 : tunProto frame = ETH_P_IPv6 → ∃ pkt, scapy.ipv6 (tunData frame) = .ok pkt ∧
    (PathFound getPaths cache pkt → pkt.nh = 58 → hasClass (icmpMessage (tunData frame)))

/-- When the payload of a dissected packet is converted. Kind: L -/
theorem egressL4_ok_iff {scapy : Scapy} {hasClass : Bytes → Prop} {minLen : UInt8 → Option ℕ}
    (hscapy : scapy.Documented hasClass minLen) {packet : Bytes} {pkt : IPv6Packet}
    (hpkt : scapy.ipv6 packet = .ok pkt) :
    (∃ r, egressL4 pkt = .ok r) ↔ (pkt.nh = 58 → hasClass (icmpMessage packet)) := by
  unfold egressL4
  by_cases hsegment : pkt.nh = 6 ∨ pkt.nh = 17
  · rw [if_pos hsegment]
    refine iff_of_true ⟨_, rfl⟩ ?_
    intro hicmp
    rw [hicmp] at hsegment
    exact absurd hsegment (by decide)
  · rw [if_neg hsegment]
    by_cases hicmp : pkt.nh = 58
    · rw [if_pos hicmp]
      by_cases hclass : hasClass (icmpMessage packet)
      · exact iff_of_true (icmpToScmp_of_icmpObject (hscapy.icmp packet pkt hpkt hicmp hclass))
          fun _ => hclass
      · refine iff_of_false ?_ fun h => hclass (h hicmp)
        rintro ⟨r, hr⟩
        rw [hscapy.raw packet pkt hpkt hicmp hclass] at hr
        cases hr
    · rw [if_neg hicmp]
      exact iff_of_true ⟨none, rfl⟩ fun h => absurd h hicmp

/-- **When one turn of the loop raises nothing.** Whatever the cache holds, and as long as the
daemon answers normally: for the frames of `HarmlessFrame` and no others. Kind: P -/
theorem egressTurn_ok_iff {scapy : Scapy} {hasClass : Bytes → Prop} {minLen : UInt8 → Option ℕ}
    (hscapy : scapy.Documented hasClass minLen) {getPaths : GetPaths} (hdaemon : DaemonAnswers getPaths)
    (hostIp : IPAddress) (hostPort : ℕ) (frame : Bytes) (cache : PathCache) :
    (∃ r, (egressTurn scapy getPaths hostIp hostPort frame cache).1 = .ok r) ↔
      HarmlessFrame scapy hasClass getPaths cache frame := by
  by_cases hip : tunProto frame = ETH_P_IP
  · have hother : ¬ tunProto frame = ETH_P_IPv6 := by
      rw [hip]
      decide
    have hharmless : HarmlessFrame scapy hasClass getPaths cache frame ↔
        ∃ r, scapy.ip (tunData frame) = .ok r :=
      ⟨fun h => h.ip hip, fun h => ⟨Or.inl hip, fun _ => h, fun hc => absurd hc hother⟩⟩
    rw [hharmless, egressTurn, tunRead]
    simp only [if_pos hip]
    cases hdissect : scapy.ip (tunData frame) with
    | error exc =>
        exact iff_of_false (not_exists_error_eq_ok exc) (not_exists_error_eq_ok exc)
    | ok r => exact iff_of_true ⟨none, rfl⟩ ⟨r, rfl⟩
  · by_cases hip6 : tunProto frame = ETH_P_IPv6
    · rw [egressTurn, tunRead]
      simp only [if_neg hip, if_pos hip6]
      cases hdissect : scapy.ipv6 (tunData frame) with
      | error exc =>
          refine iff_of_false (not_exists_error_eq_ok exc) ?_
          intro h
          obtain ⟨pkt, hpkt, -⟩ := h.ipv6 hip6
          rw [hdissect] at hpkt
          cases hpkt
      | ok pkt =>
          have hturn := translateEgress_ipv6_ok_iff hdaemon (hscapy.dst _ _ hdissect) hostIp
            hostPort cache
          rw [egressL4_ok_iff hscapy hdissect] at hturn
          apply hturn.trans
          constructor
          · intro hok
            exact ⟨Or.inr hip6, fun hc => absurd hc hip, fun _ => ⟨pkt, hdissect, hok⟩⟩
          · intro h
            obtain ⟨pkt', hpkt, hok⟩ := h.ipv6 hip6
            rw [hdissect] at hpkt
            obtain rfl := Except.ok.inj hpkt
            exact hok
    · refine iff_of_false ?_ fun h => h.proto.elim hip hip6
      rw [egressTurn, tunRead]
      simp only [if_neg hip, if_neg hip6]
      exact not_exists_error_eq_ok _

/-- **An ICMPv6 message of unknown type, or too short for its type, stops the translator**, once a
path is found for it. Kind: P -/
theorem egressTurn_error_of_not_understood {scapy : Scapy} {hasClass : Bytes → Prop}
    {minLen : UInt8 → Option ℕ} (hscapy : scapy.Documented hasClass minLen) {getPaths : GetPaths}
    (hdaemon : DaemonAnswers getPaths) (hostIp : IPAddress) (hostPort : ℕ) {frame : Bytes}
    {cache : PathCache} {pkt : IPv6Packet} (hproto : tunProto frame = ETH_P_IPv6)
    (hpkt : scapy.ipv6 (tunData frame) = .ok pkt) (hfound : PathFound getPaths cache pkt)
    (hicmp : pkt.nh = 58) (hunknown : ¬ Understood minLen (icmpMessage (tunData frame))) :
    ∃ exc, (egressTurn scapy getPaths hostIp hostPort frame cache).1 = .error exc := by
  cases hturn : (egressTurn scapy getPaths hostIp hostPort frame cache).1 with
  | error exc => exact ⟨exc, rfl⟩
  | ok r =>
    have hharmless := (egressTurn_ok_iff hscapy hdaemon hostIp hostPort frame cache).mp ⟨r, hturn⟩
    obtain ⟨pkt', hpkt', hclass⟩ := hharmless.ipv6 hproto
    obtain rfl := Except.ok.inj (hpkt.symm.trans hpkt')
    exact absurd (hscapy.understood _ (hclass hfound hicmp)) hunknown

/-! ## The loop -/

/-- A turn that raises nothing hands its cache on. Kind: L -/
theorem egressLoop_cons_of_ok {scapy : Scapy} {hostIp : IPAddress} {hostPort : ℕ}
    {getPaths : GetPaths} {frame : Bytes} {cache : PathCache} {r : Option (SCION × NextHop)}
    (h : (egressTurn scapy getPaths hostIp hostPort frame cache).1 = .ok r)
    (frames : List (GetPaths × Bytes)) :
    egressLoop scapy hostIp hostPort ((getPaths, frame) :: frames) cache =
      egressLoop scapy hostIp hostPort frames
        (egressTurn scapy getPaths hostIp hostPort frame cache).2 := by
  rcases hturn : egressTurn scapy getPaths hostIp hostPort frame cache with ⟨r', cache'⟩
  rw [hturn] at h
  obtain rfl : r' = .ok r := h
  rw [egressLoop, hturn]

/-- **When the loop goes on.** It has translated or dropped all frames, without an exception,
exactly if each of them was harmless with the cache its predecessors left. Kind: P -/
theorem egressLoop_ok_iff {scapy : Scapy} {hasClass : Bytes → Prop} {minLen : UInt8 → Option ℕ}
    (hscapy : scapy.Documented hasClass minLen) (hostIp : IPAddress) (hostPort : ℕ)
    (frames : List (GetPaths × Bytes)) (hdaemon : ∀ turn ∈ frames, DaemonAnswers turn.1)
    (cache : PathCache) :
    (∃ c, egressLoop scapy hostIp hostPort frames cache = .ok c) ↔
      ∀ done getPaths frame rest, frames = done ++ (getPaths, frame) :: rest →
        ∀ c, egressLoop scapy hostIp hostPort done cache = .ok c →
          HarmlessFrame scapy hasClass getPaths c frame := by
  induction frames generalizing cache with
  | nil =>
      refine iff_of_true ⟨cache, rfl⟩ ?_
      intro done getPaths frame rest hsplit
      cases done <;> cases hsplit
  | cons turn frames ih =>
      obtain ⟨getPaths, frame⟩ := turn
      have hturn := egressTurn_ok_iff hscapy (hdaemon _ List.mem_cons_self) hostIp hostPort frame
        cache
      have hrest := ih fun turn h => hdaemon turn (List.mem_cons_of_mem _ h)
      constructor
      · rintro ⟨c, hc⟩
        have hok : ∃ r, (egressTurn scapy getPaths hostIp hostPort frame cache).1 = .ok r := by
          rcases hstep : egressTurn scapy getPaths hostIp hostPort frame cache with ⟨r, cache'⟩
          rw [egressLoop, hstep] at hc
          cases r with
          | error exc => cases hc
          | ok r => exact ⟨r, rfl⟩
        obtain ⟨r, hr⟩ := hok
        rw [egressLoop_cons_of_ok hr] at hc
        intro done getPaths' frame' rest hsplit c' hc'
        cases done with
        | nil =>
            obtain ⟨⟨rfl, rfl⟩, rfl⟩ : (getPaths = getPaths' ∧ frame = frame') ∧ frames = rest := by
              simpa using hsplit
            obtain rfl := Except.ok.inj hc'
            exact hturn.mp ⟨r, hr⟩
        | cons turn done =>
            obtain ⟨rfl, htail⟩ := List.cons.inj hsplit
            rw [egressLoop_cons_of_ok hr] at hc'
            exact (hrest _).mp ⟨c, hc⟩ done getPaths' frame' rest htail c' hc'
      · intro hall
        obtain ⟨r, hr⟩ := hturn.mpr (hall [] getPaths frame frames rfl cache rfl)
        rw [egressLoop_cons_of_ok hr, hrest]
        intro done getPaths' frame' rest hsplit c hc
        apply hall ((getPaths, frame) :: done) getPaths' frame' rest
        · rw [hsplit, List.cons_append]
        · rw [egressLoop_cons_of_ok hr, hc]

/-! ## Frames that stop the loop and one that does not -/

/-- The least lengths of some ICMPv6 messages: the errors and both echo messages. Kind: D -/
def sampleMinLen (type : UInt8) : Option ℕ :=
  if type ∈ [1, 2, 3, 4, 128, 129] then some 8 else none

/-- The fields of an echo message. Kind: D -/
def sampleEcho (message : Bytes) : Echo :=
  ⟨UInt16.ofNat (ofBE (peek message 4 2)), UInt16.ofNat (ofBE (peek message 6 2)), message.drop 8⟩

/-- The object of an ICMPv6 message. Kind: D -/
def sampleIcmp (message : Bytes) : L4 :=
  match sampleMinLen (byteAt message 0) with
  | none => .raw
  | some n =>
      if n ≤ message.length then
        if byteAt message 0 = 128 then .icmpv6EchoRequest (sampleEcho message)
        else if byteAt message 0 = 129 then .icmpv6EchoReply (sampleEcho message)
        else .icmpv6 (byteAt message 0)
      else .raw

/-- The object of a TCP or UDP segment with its checksum at the given offset. Kind: D -/
def sampleSegment (off : ℕ) (segment : Bytes) : Segment :=
  ⟨some (UInt16.ofNat (ofBE (peek segment off 2))), segment.take off ++ segment.drop (off + 2)⟩

/-- The upper-layer object. Kind: D -/
def samplePayload (nh : UInt8) (payload : Bytes) : L4 :=
  if nh = 6 ∧ 20 ≤ payload.length then .tcp (sampleSegment 16 payload)
  else if nh = 17 ∧ 8 ≤ payload.length then .udp (sampleSegment 6 payload)
  else if nh = 58 then sampleIcmp payload
  else .raw

/-- The address at an offset. Kind: D -/
def sampleAddr (packet : Bytes) (off : ℕ) : IPv6Address :=
  ⟨ofBE (peek packet off 16) % 2 ^ 128, Nat.mod_lt _ (by norm_num)⟩

/-- The packet, with as much behind its header as it announces. Kind: D -/
def samplePacket (packet : Bytes) : IPv6Packet :=
  ⟨(sampleAddr packet 8).str, (sampleAddr packet 24).str, byteAt packet 6,
    samplePayload (byteAt packet 6) ((packet.drop 40).take (ofBE (peek packet 4 2)))⟩

/-- A dissector of packets with a complete fixed header. Kind: D -/
def sampleScapy : Scapy where
  ip packet := if packet.length < 20 then .error (.Exception "unpack requires a buffer") else .ok ()
  ipv6 packet :=
    if packet.length < 40 then .error (.Exception "unpack requires a buffer")
    else .ok (samplePacket packet)

/-- A packet with a complete header. Kind: L -/
theorem sampleScapy_ipv6 {packet : Bytes} (h : ¬ packet.length < 40) :
    sampleScapy.ipv6 packet = .ok (samplePacket packet) := if_neg h

/-- ICMPv6 messages are dissected as documented. Kind: L -/
theorem sampleIcmp_documented (message : Bytes) :
    (Understood sampleMinLen message → IcmpObject (byteAt message 0) (sampleIcmp message)) ∧
      (¬ Understood sampleMinLen message → sampleIcmp message = .raw) := by
  unfold Understood sampleIcmp
  cases hmin : sampleMinLen (byteAt message 0) with
  | none =>
      refine ⟨?_, fun _ => rfl⟩
      rintro ⟨n, hn, -⟩
      cases hn
  | some n =>
      by_cases hlen : n ≤ message.length
      · refine ⟨fun _ => ?_, fun h => absurd ⟨n, rfl, hlen⟩ h⟩
        simp only [hlen, if_true]
        by_cases hrequest : byteAt message 0 = 128
        · rw [if_pos hrequest, hrequest]
          exact .echoRequest _
        · by_cases hreply : byteAt message 0 = 129
          · rw [if_neg hrequest, if_pos hreply, hreply]
            exact .echoReply _
          · rw [if_neg hrequest, if_neg hreply]
            exact .other _ hrequest hreply
      · simp only [hlen, if_false]
        refine ⟨?_, fun _ => trivial⟩
        rintro ⟨m, hm, hle⟩
        obtain rfl := Option.some.inj hm
        exact absurd hle hlen

/-- The dissector behaves as documented. Kind: L -/
theorem sampleScapy_documented :
    sampleScapy.Documented (Understood sampleMinLen) sampleMinLen := by
  have hok : ∀ packet pkt, sampleScapy.ipv6 packet = .ok pkt → pkt = samplePacket packet := by
    intro packet pkt hpkt
    simp only [sampleScapy] at hpkt
    split_ifs at hpkt
    exact (Except.ok.inj hpkt).symm
  have hpayload : ∀ packet, (samplePacket packet).nh = 58 →
      (samplePacket packet).payload = sampleIcmp (icmpMessage packet) := by
    intro packet hnh
    replace hnh : byteAt packet 6 = 58 := hnh
    simp only [samplePacket, hnh]
    rfl
  constructor
  · intro packet pkt hpkt
    rw [hok packet pkt hpkt]
    exact ⟨_, IPv6Address.parse_str _⟩
  · intro packet pkt hpkt hnh hunderstood
    rw [hok packet pkt hpkt] at hnh ⊢
    rw [hpayload packet hnh]
    exact (sampleIcmp_documented _).1 hunderstood
  · intro packet pkt hpkt hnh hunknown
    rw [hok packet pkt hpkt] at hnh ⊢
    rw [hpayload packet hnh]
    exact (sampleIcmp_documented _).2 hunknown
  · exact fun _ h => h

/-- The sample daemon answers. Kind: L -/
theorem sampleGetPaths_answers : DaemonAnswers sampleGetPaths := by
  intro dstIa
  refine ⟨[([], [])], rfl, ?_⟩
  intro path hpath
  obtain rfl := List.mem_singleton.mp hpath
  exact ⟨.empty, rfl⟩

/-- A frame of the TUN device with an ICMPv6 message from `fc00:10fc::ffff:a80:1` to
`fc00:10fc:100::1`. Kind: D -/
def icmpFrame (message : Bytes) : Bytes :=
  [0, 0, 0x86, 0xdd] ++ ([0x60, 0, 0, 0] ++ toBE 2 message.length ++ [58, 64]) ++
    toBE 16 0xfc0010fc000000000000ffff0a800001 ++ toBE 16 0xfc0010fc010000000000000000000001 ++
    message

/-- An echo request is translated. Kind: C -/
theorem egressTurn_ok_sample :
    ∃ r, (egressTurn sampleScapy sampleGetPaths (.v4 ⟨0x0a800001, by norm_num⟩) 30041
      (icmpFrame [128, 0, 0, 0, 0, 1, 0, 1]) samplePathCache).1 = .ok r := by
  apply (egressTurn_ok_iff sampleScapy_documented sampleGetPaths_answers _ _ _ _).mpr
  have hlen : ¬ (tunData (icmpFrame [128, 0, 0, 0, 0, 1, 0, 1])).length < 40 := by decide +kernel
  refine ⟨by decide +kernel, fun h => absurd h (by decide +kernel),
    fun _ => ⟨_, sampleScapy_ipv6 hlen, ?_⟩⟩
  intro _ _
  exact ⟨8, by decide +kernel, by decide +kernel⟩

/-- **A frame can stop the translator**: one that is neither IPv4 nor IPv6, and an echo request of
four bytes. Kind: C -/
theorem egressTurn_raises :
    (egressTurn sampleScapy sampleGetPaths (.v4 ⟨0x0a800001, by norm_num⟩) 30041
        [0, 0, 0x08, 0x06, 0, 1] samplePathCache).1 = .error .TypeError ∧
      (egressTurn sampleScapy sampleGetPaths (.v4 ⟨0x0a800001, by norm_num⟩) 30041
        (icmpFrame [128, 0, 0, 0]) samplePathCache).1 = .error (.AttributeError "type") := by
  decide +kernel

end ScionIp.Prototype
