import ScionIp.Prototype.Network

/-!
# What the first answer decides

The path cache of the Python translator keeps every answer, also an empty one, and never asks again.
Here the instances run on a network, where their daemons learn of paths at any time.

* `BoundFor` — the frame is an IPv6 packet for the AS.
* `KnowsPath` — what a turn leaves in the cache, if it sends something; `SentWithPath` is the
  invariant that follows.
* `first_answer_decides` — the first answer for an AS decides what becomes of every frame for it,
  and if it was empty, none of them ever arrives.
-/

namespace ScionIp.Prototype

open ScionIp.Lib ScionIp.Python

/-! ## One turn -/

/-- The frame is an IPv6 packet for the AS with this ISD-ASN. Kind: D -/
def BoundFor (scapy : Scapy) (frame : Bytes) (ia : ℕ) : Prop :=
  ∃ pkt ip, ReadAs scapy frame pkt ∧ IPv6Address.parse pkt.dst = .ok ip ∧
    SCION_NETWORK ip = true ∧ dstIaOf ip = ia

/-- The cache has a path to the AS. Kind: D -/
def KnowsPath (cache : PathCache) (ia : ℕ) : Prop :=
  ∃ path paths, cache.paths ia = some (path :: paths)

/-- The entries stay as they are, and the ISD-ASN. Kind: D -/
structure Kept (cache cache' : PathCache) : Prop where
  entry : ∀ ia paths, cache.paths ia = some paths → cache'.paths ia = some paths
  localIa : cache'.localIa = cache.localIa

/-- Nothing is done. Kind: L -/
theorem Kept.refl (cache : PathCache) : Kept cache cache := ⟨fun _ _ h => h, rfl⟩

/-- One thing after the other. Kind: L -/
theorem Kept.trans {cache cache' cache'' : PathCache} (h : Kept cache cache')
    (h' : Kept cache' cache'') : Kept cache cache'' :=
  ⟨fun ia paths hknown => h'.entry ia paths (h.entry ia paths hknown), h'.localIa.trans h.localIa⟩

/-- A lookup keeps the entries. Kind: L -/
theorem kept_lookup (getPaths : GetPaths) (cache : PathCache) (dstIa : ℕ) :
    Kept cache (cache.lookup getPaths dstIa).2 := by
  refine ⟨fun ia paths hknown => ?_, cache.lookup_localIa getPaths dstIa⟩
  rcases cache.lookup_cases getPaths dstIa with ⟨_, -, heq⟩ | ⟨_, -, -, heq⟩ | ⟨_, hnone, -, heq⟩
  · rwa [heq]
  · rwa [heq]
  · have hne : ia ≠ dstIa := by
      rintro rfl
      rw [hnone] at hknown
      cases hknown
    rw [heq]
    exact (Function.update_of_ne hne _ _).trans hknown

/-- A lookup that finds a path leaves it in the cache. Kind: L -/
theorem knowsPath_of_lookup {getPaths : GetPaths} {cache cache' : PathCache} {dstIa : ℕ}
    {path : CachedPath} (h : cache.lookup getPaths dstIa = (.ok (some path), cache')) :
    KnowsPath cache' dstIa := by
  obtain ⟨paths, hpaths, hmem⟩ := lookup_mem (congrArg Prod.fst h)
  rw [h] at hpaths
  obtain ⟨head, rest, rfl⟩ := List.exists_cons_of_ne_nil (List.ne_nil_of_mem hmem)
  exact ⟨head, rest, hpaths⟩

/-- A packet that is translated has a path. Kind: L -/
theorem knowsPath_of_translateEgress {getPaths : GetPaths} {pkt : IPv6Packet} {hostIp : IPAddress}
    {hostPort : ℕ} {cache cache' : PathCache} {sent : SCION × NextHop} {ip : IPv6Address}
    (hdst : IPv6Address.parse pkt.dst = .ok ip) (hnet : SCION_NETWORK ip = true)
    (h : translateEgress getPaths (.ipv6 pkt) hostIp hostPort cache = (.ok (some sent), cache')) :
    KnowsPath cache' (dstIaOf ip) := by
  have hunmap := unmapIpv6_of_network hnet (show 8 ≤ 24 by norm_num)
  rw [translateEgress, hdst] at h
  simp only [hnet, not_true_eq_false, if_false, hunmap] at h
  rcases hfound : cache.lookup getPaths
    (((unmapped ip 8).isd <<< 48) ||| (unmapped ip 8).asn) with ⟨exc | (_ | path), after⟩
  · rw [hfound] at h
    cases h
  · rw [hfound] at h
    cases h
  · rw [hfound, Prod.mk.injEq] at h
    obtain ⟨-, rfl⟩ := h
    exact knowsPath_of_lookup hfound

/-- The turn for a frame that is an IPv6 packet. Kind: L -/
theorem egressTurn_of_readAs {scapy : Scapy} {frame : Bytes} {pkt : IPv6Packet}
    (hread : ReadAs scapy frame pkt) (getPaths : GetPaths) (hostIp : IPAddress) (hostPort : ℕ)
    (cache : PathCache) :
    egressTurn scapy getPaths hostIp hostPort frame cache
      = translateEgress getPaths (.ipv6 pkt) hostIp hostPort cache := by
  have hip : tunProto frame ≠ ETH_P_IP := by
    rw [hread.1]
    decide
  have htun : tunRead scapy frame = .ok (.ipv6 pkt, (tunData frame).length) := by
    simp only [tunRead, if_neg hip, if_pos hread.1, hread.2, ok_bind]
    rfl
  rw [egressTurn, htun]

/-- A turn keeps the entries. Kind: L -/
theorem kept_tunTurn (scapy : Scapy) (build : ScapyBuild) (calls : TurnCalls) (hostIp : IPAddress)
    (hostPort : ℕ) (frame : Bytes) (cache : PathCache) :
    Kept cache (tunTurn scapy build calls hostIp hostPort frame cache).2 := by
  rcases tunTurn_cache_cases scapy build calls hostIp hostPort frame cache with heq | ⟨ia, heq⟩
  · rw [heq]
    exact .refl cache
  · rw [heq]
    exact kept_lookup _ _ _

/-- **A turn that sends something leaves a path in the cache.** Kind: L -/
theorem knowsPath_of_tunTurn {scapy : Scapy} {build : ScapyBuild} {calls : TurnCalls}
    {hostIp : IPAddress} {hostPort : ℕ} {frame : Bytes} {cache cache' : PathCache}
    {ms : List Bytes} {ia : ℕ}
    (h : tunTurn scapy build calls hostIp hostPort frame cache = (.ok ms, cache')) (hms : ms ≠ [])
    (hbound : BoundFor scapy frame ia) : KnowsPath cache' ia := by
  obtain ⟨pkt, ip, hread, hdst, hnet, rfl⟩ := hbound
  rw [tunTurn, egressTurn_of_readAs hread] at h
  rcases hsent : translateEgress calls.getPaths (.ipv6 pkt) hostIp hostPort cache with
    ⟨exc | (_ | ⟨scion, dest⟩), after⟩
  · rw [hsent] at h
    cases h
  · rw [hsent] at h
    cases h
    exact absurd rfl hms
  · rw [hsent] at h
    obtain ⟨-, rfl⟩ := Prod.mk.inj h
    exact knowsPath_of_translateEgress hdst hnet hsent

/-- What becomes of a packet for an AS with these paths. Kind: D -/
def alongFirst (pkt : IPv6Packet) (ip : IPv6Address) (paths : List CachedPath)
    (localIsdAsn : ℕ × ℕ) (hostIp : IPAddress) (hostPort : ℕ) : Py (Option (SCION × NextHop)) :=
  match paths.head? with
  | none => .ok none
  | some path => egressPacket pkt (unmapped ip 8) (dstHost ip (unmapped ip 8).interface) path
      localIsdAsn hostIp hostPort

/-- The daemon is not asked about an AS that is in the cache. Kind: L -/
theorem translateEgress_of_known {getPaths : GetPaths} {pkt : IPv6Packet} {hostIp : IPAddress}
    {hostPort : ℕ} {cache : PathCache} {ip : IPv6Address} {paths : List CachedPath}
    (hdst : IPv6Address.parse pkt.dst = .ok ip) (hnet : SCION_NETWORK ip = true)
    (hknown : cache.paths (dstIaOf ip) = some paths) :
    translateEgress getPaths (.ipv6 pkt) hostIp hostPort cache
      = (alongFirst pkt ip paths cache.localIsdAsn hostIp hostPort, cache) := by
  have hunmap := unmapIpv6_of_network hnet (show 8 ≤ 24 by norm_num)
  unfold dstIaOf at hknown
  rw [translateEgress, hdst]
  simp only [hnet, not_true_eq_false, if_false, hunmap, PathCache.lookup, hknown, alongFirst]
  cases paths with
  | nil => rfl
  | cons path paths => rfl

/-- **A turn for an AS that is in the cache** does the same with any daemon. Kind: L -/
theorem tunTurn_of_known {scapy : Scapy} {build : ScapyBuild} {calls calls' : TurnCalls}
    {hostIp : IPAddress} {hostPort : ℕ} {frame : Bytes} {cache cache' : PathCache} {ia : ℕ}
    {paths : List CachedPath} (hknown : cache.paths ia = some paths)
    (hknown' : cache'.paths ia = some paths) (hlocal : cache'.localIa = cache.localIa)
    (hsendto : calls'.sendto = calls.sendto) (hbound : BoundFor scapy frame ia) :
    tunTurn scapy build calls' hostIp hostPort frame cache'
      = ((tunTurn scapy build calls hostIp hostPort frame cache).1, cache') := by
  obtain ⟨pkt, ip, hread, hdst, hnet, rfl⟩ := hbound
  have hsame : cache'.localIsdAsn = cache.localIsdAsn := by
    rw [PathCache.localIsdAsn, hlocal, PathCache.localIsdAsn]
  rw [tunTurn, tunTurn, egressTurn_of_readAs hread, egressTurn_of_readAs hread,
    translateEgress_of_known hdst hnet hknown, translateEgress_of_known hdst hnet hknown', hsame]
  rcases alongFirst pkt ip paths cache.localIsdAsn hostIp hostPort with exc | (_ | ⟨scion, dest⟩)
  · rfl
  · rfl
  · simp only [sendDatagram, hsendto]

/-! ## The network -/

section Network

variable {ι : Type*} [DecidableEq ι] {N : Fleet ι}
  {s t : NetworkState ι (Option PathCache) Bytes Bytes Bytes}

/-- An instance that is running was running before, and has kept its entries. Kind: L -/
theorem kept_step (hst : NetworkStep (instances N) s t) {i : ι} {cache' : PathCache}
    (hi : t.party i = some cache') : ∃ cache, s.party i = some cache ∧ Kept cache cache' := by
  rcases hst.party_cases i with heq | hown | ⟨frame, ms, hsubmit⟩ | ⟨m, bs, hreceive⟩
  · exact ⟨cache', heq ▸ hi, .refl cache'⟩
  · exact hown.elim
  · obtain ⟨cache, calls, r, after, hcache, -, hturn, ⟨-, hafter⟩ | ⟨-, hended, -⟩⟩ := hsubmit
    · rw [hi] at hafter
      obtain rfl := Option.some.inj hafter
      refine ⟨cache, hcache, ?_⟩
      have hkept := kept_tunTurn N.scapy N.build calls (N.inst i).hostIp (N.inst i).hostPort frame
        cache
      rwa [hturn] at hkept
    · rw [hi] at hended
      cases hended
  · obtain ⟨cache, calls, r, hcache, -, ⟨-, hsame⟩ | ⟨-, hended, -⟩⟩ := hreceive
    · exact ⟨cache', hsame ▸ hi, .refl cache'⟩
    · rw [hi] at hended
      cases hended

/-- So it is over a run. Kind: L -/
theorem kept_run (hrun : Relation.ReflTransGen (network (instances N)).step s t) {i : ι}
    {cache' : PathCache} (hi : t.party i = some cache') :
    ∃ cache, s.party i = some cache ∧ Kept cache cache' := by
  induction hrun generalizing cache' with
  | refl => exact ⟨cache', hi, .refl cache'⟩
  | tail _ hst ih =>
    obtain ⟨before, hbefore, hkept⟩ := kept_step hst hi
    obtain ⟨cache, hcache, hrest⟩ := ih hbefore
    exact ⟨cache, hcache, hrest.trans hkept⟩

/-- The frames an instance reads for an AS. Kind: D -/
def FramesFor (N : Fleet ι) (i : ι) (ia : ℕ) (x : ι × Bytes) : Prop :=
  x.1 = i ∧ BoundFor N.scapy x.2 ia

/-- **Without a path nothing is sent**: while the instance has none afterwards, or has ended, a step
sends nothing for the AS. Kind: L -/
theorem unseen_step (hst : NetworkStep (instances N) s t) {i : ι} {ia : ℕ}
    (h : Unseen (FramesFor N i ia) s)
    (hnone : ∀ cache, t.party i = some cache → ¬ KnowsPath cache ia) :
    Unseen (FramesFor N i ia) t := by
  refine h.step hst ?_
  rintro j frame ms ⟨cache, calls, r, after, -, -, hturn, ⟨rfl, hafter⟩ | ⟨-, -, hms⟩⟩ ⟨rfl, hbound⟩
  · by_contra hsent
    exact hnone after hafter (knowsPath_of_tunTurn hturn hsent hbound)
  · exact hms

/-- The invariant: an instance that runs without a path to an AS has got nothing through to it.
Kind: D -/
def SentWithPath (N : Fleet ι) (s : NetworkState ι (Option PathCache) Bytes Bytes Bytes) : Prop :=
  ∀ i cache ia, s.party i = some cache → ¬ KnowsPath cache ia → Unseen (FramesFor N i ia) s

/-- It holds in every reachable state. Kind: L -/
theorem sentWithPath (hs : (network (instances N)).Reachable s) : SentWithPath N s := by
  refine hs.invariant (I := SentWithPath N) ⟨?_, ?_⟩
  · rintro s ⟨-, hwire, -, hdelivered⟩ i cache ia - -
    constructor
    · simp [hwire]
    · simp [hdelivered]
  · intro s t hinv hst i cache' ia hi hnone
    -- entries only grow, so there was no path before the step either
    obtain ⟨cache, hcache, hkept⟩ := kept_step hst hi
    have hbefore : ¬ KnowsPath cache ia := by
      rintro ⟨path, paths, hpath⟩
      exact hnone ⟨path, paths, hkept.entry ia _ hpath⟩
    refine unseen_step hst (hinv i cache ia hcache hbefore) fun after hafter => ?_
    obtain rfl := Option.some.inj (hi.symm.trans hafter)
    exact hnone

/-- And nothing is sent from then on, if the answer was empty. Kind: L -/
theorem unseen_run (hs : (network (instances N)).Reachable s)
    (hrun : Relation.ReflTransGen (network (instances N)).step s t) {i : ι} {cache : PathCache}
    {ia : ℕ} (hi : s.party i = some cache) (hempty : cache.paths ia = some []) :
    Unseen (FramesFor N i ia) t := by
  have hpathless : ∀ {u : NetworkState ι (Option PathCache) Bytes Bytes Bytes},
      Relation.ReflTransGen (network (instances N)).step s u →
        ∀ after, u.party i = some after → ¬ KnowsPath after ia := by
    rintro u hu after hafter ⟨path, paths, hpath⟩
    obtain ⟨before, hbefore, hkept⟩ := kept_run hu hafter
    obtain rfl := Option.some.inj (hi.symm.trans hbefore)
    rw [hkept.entry ia [] hempty] at hpath
    cases hpath
  induction hrun with
  | refl =>
    -- what was read before the empty answer was not sent either
    exact sentWithPath hs i cache ia hi (hpathless .refl cache hi)
  | tail hbefore hst ih => exact unseen_step hst ih (hpathless (hbefore.tail hst))

/-- **What the first answer decides**, in every run: once the answer for an AS is in the cache of an
instance, it stays there as long as the instance runs, and each frame for the AS is treated as it
was then, whatever the daemon would answer. If it was empty, no frame that the instance ever reads
for the AS is delivered. Kind: P -/
theorem first_answer_decides (hs : (network (instances N)).Reachable s)
    (hrun : Relation.ReflTransGen (network (instances N)).step s t) {i : ι} {cache : PathCache}
    {ia : ℕ} {paths : List CachedPath} (hi : s.party i = some cache)
    (hknown : cache.paths ia = some paths) :
    (∀ cache', t.party i = some cache' → cache'.paths ia = some paths ∧
      ∀ (calls calls' : TurnCalls) (frame : Bytes), calls'.sendto = calls.sendto →
        BoundFor N.scapy frame ia →
        tunTurn N.scapy N.build calls' (N.inst i).hostIp (N.inst i).hostPort frame cache' =
          ((tunTurn N.scapy N.build calls (N.inst i).hostIp (N.inst i).hostPort frame cache).1,
            cache')) ∧
      (paths = [] → ∀ d ∈ t.delivered, d.1.1 = i → ¬ BoundFor N.scapy d.1.2 ia) := by
  have hstays : ∀ cache', t.party i = some cache' →
      cache'.paths ia = some paths ∧ cache'.localIa = cache.localIa := by
    intro cache' hcache'
    obtain ⟨before, hbefore, hkept⟩ := kept_run hrun hcache'
    obtain rfl := Option.some.inj (hi.symm.trans hbefore)
    exact ⟨hkept.entry ia paths hknown, hkept.localIa⟩
  refine ⟨fun cache' hcache' => ?_, ?_⟩
  · obtain ⟨hentry, hlocal⟩ := hstays cache' hcache'
    exact ⟨hentry, fun calls calls' frame hsendto hbound =>
      tunTurn_of_known hknown hentry hlocal hsendto hbound⟩
  · rintro rfl d hd hfrom hbound
    exact (unseen_run hs hrun hi hknown).delivered d hd ⟨hfrom, hbound⟩

end Network

/-- The echo request of the sample network is for `1-64512`. Kind: L -/
theorem echoFrame_boundFor : BoundFor sampleScapy echoFrame 0x000100000000fc00 :=
  ⟨_, _, ⟨by decide +kernel, sampleScapy_ipv6 (by decide +kernel)⟩, IPv6Address.parse_str _,
    by decide +kernel, by decide +kernel⟩

/-- The calls of the sample, but the daemon knows no path. Kind: D -/
def silentCalls : TurnCalls := { echoCalls with getPaths := fun _ => .ok [] }

/-- Daemons may know no path. Kind: L -/
theorem echoFleet_silent : echoFleet.answers silentCalls.getPaths := by
  rintro ia answer hanswer path hpath
  obtain rfl := Except.ok.inj hanswer
  cases hpath

/-- If the daemon first says that it knows no path to `1-64512`, the echo request never arrives.
Kind: C -/
theorem first_answer_decides_sample :
    ∃ s, (network (instances echoFleet)).Reachable s ∧
      ∀ t, Relation.ReflTransGen (network (instances echoFleet)).step s t →
        ∀ d ∈ t.delivered, d.1 ≠ (false, echoFrame) := by
  have hsent : (tunTurn sampleScapy echoBuild silentCalls (echoInstance false).hostIp 30041
      echoFrame (newPathCache 0x000100000000fc00)).1 = .ok [] := by decide +kernel
  have hknown : (tunTurn sampleScapy echoBuild silentCalls (echoInstance false).hostIp 30041
      echoFrame (newPathCache 0x000100000000fc00)).2.paths 0x000100000000fc00 = some [] := by
    decide +kernel
  rcases hturn : tunTurn sampleScapy echoBuild silentCalls (echoInstance false).hostIp 30041
    echoFrame (newPathCache 0x000100000000fc00) with ⟨r, cache⟩
  rw [hturn] at hsent hknown
  obtain rfl : r = .ok [] := hsent
  have hstart : (network (instances echoFleet)).Reachable echoNetwork :=
    .init ⟨fun _ => rfl, rfl, rfl, rfl⟩
  have hasked := hstart.step (NetworkStep.submit (P := instances echoFleet) echoNetwork false
    echoFrame _ _ ⟨_, silentCalls, _, cache, rfl, echoFleet_silent, hturn, Or.inl ⟨rfl, rfl⟩⟩)
  refine ⟨_, hasked, fun t hrun d hd hfrom => ?_⟩
  have hnever := (first_answer_decides (i := false) hasked hrun (by simp) hknown).2 rfl d hd
  rw [hfrom] at hnever
  exact hnever rfl echoFrame_boundFor

end ScionIp.Prototype
