import ScionIp.Lib.Transition
import ScionIp.Ebpf.RoundTrip

/-!
# The path cache over whole runs

The kernel program and the path service share two maps: `path_map`, read by the former and
written by the latter, and the ring buffer `path_req`, in the other direction. A run is any
interleaving of

* `egress` — `scion_egress` on an arbitrary frame with arbitrary helpers; a miss appends its key to
  `path_req` unless the ring buffer refuses it (`pushed`);
* `request` — the service takes the oldest pending key and handles it with the daemon's answer *at
  that time* and an arbitrary return value of the map update.

The cache is what these requests left: under each key the entry made of the latest answer that was
stored for it (`pathMap_eq_findSome?`). Nothing is needed of the queue: the key of a request is
decoded afresh when it is handled, so duplicated, late and reordered requests do no harm.
`pathCache_correct` carries this to the bytes of the emitted frame.
-/

namespace ScionIp.Ebpf

open ScionIp.Lib

/-- The two shared maps. Source: `egress.bpf.c`, `path_map` and `path_req`. Kind: D -/
structure CacheState where
  pathMap : PathMap
  pathReq : List ScionAddr

/-- What is relied on of `queryPaths`: every path returned leads to the ISD-ASN asked for and fits.
Kind: D -/
def QueryOk (queryPaths : QueryPaths) : Prop :=
  ∀ dst, ∀ path ∈ (queryPaths dst).1, path.dst = dst ∧ path.Fits

/-- What happens in a run: a frame, or the handling of a request with the daemon of that time.
Kind: D -/
inductive CacheEvent where
  | egress (h : TcHelpers) (f : Frame) (pushed : Bool)
  | request (key : ScionAddr) (queryPaths : QueryPaths) (updateRet : ℤ)

/-- One step of the kernel program or of the path service. Kind: D -/
inductive CacheStep (e : Endian) : CacheState → CacheEvent → CacheState → Prop
  | egress (s : CacheState) (h : TcHelpers) (f : Frame) (pushed : Bool) :
      CacheStep e s (.egress h f pushed)
        { s with
          pathReq := s.pathReq ++
            if pushed then (scionEgress e h s.pathMap f).request.toList else [] }
  | request (pathMap : PathMap) (key : ScionAddr) (pending : List ScionAddr)
      (queryPaths : QueryPaths) (updateRet : ℤ) :
      CacheStep e ⟨pathMap, key :: pending⟩ (.request key queryPaths updateRet)
        ⟨reqHandler e queryPaths updateRet pathMap key, pending⟩

/-- The two programs, started with an empty cache and no pending request. Kind: D -/
def pathCacheEvents (e : Endian) : LabelledSystem CacheState CacheEvent where
  init s := s = ⟨fun _ => none, []⟩
  step := CacheStep e

/-- The same, without what happened. Kind: D -/
def pathCacheSystem (e : Endian) : TransitionSystem CacheState := (pathCacheEvents e).unlabelled

/-- The daemons of a run did what is relied on. Kind: D -/
def QueriesOk (events : List CacheEvent) : Prop :=
  ∀ key queryPaths updateRet, .request key queryPaths updateRet ∈ events → QueryOk queryPaths

/-! ## What is stored -/

/-- The entry that is stored for an answer: of its first path, if the map is updated. Kind: D -/
def storedFor (e : Endian) (paths : List Path) (updateRet : ℤ) : Option PathMapEntry :=
  match paths with
  | [] => none
  | path :: _ => if updateRet < 0 then none else some (pathToMapEntry e path)

/-- The handling of a request stores this entry under its key. Kind: L -/
theorem reqHandler_eq (e : Endian) (queryPaths : QueryPaths) (updateRet : ℤ) (pathMap : PathMap)
    (addr key : ScionAddr) :
    reqHandler e queryPaths updateRet pathMap addr key =
      ((if addr = key then storedFor e (getPaths queryPaths addr) updateRet else none).or
        (pathMap key)) := by
  unfold reqHandler insertPaths storedFor
  cases getPaths queryPaths addr with
  | nil => simp
  | cons path paths =>
      by_cases hret : updateRet < 0
      · simp [hret]
      · by_cases hkey : addr = key
        · simp [hret, hkey]
        · simp [hret, hkey, Function.update_of_ne (Ne.symm hkey)]

/-- The entry an event of a run stores under a key. Kind: D -/
def CacheEvent.stored (e : Endian) (key : ScionAddr) : CacheEvent → Option PathMapEntry
  | .egress _ _ _ => none
  | .request addr queryPaths updateRet =>
      if addr = key then storedFor e (getPaths queryPaths addr) updateRet else none

/-- **The cache after a run**: under each key the entry of the latest event that stored one.
Kind: P -/
theorem pathMap_eq_findSome? {e : Endian} {s : CacheState} {events : List CacheEvent}
    (hs : (pathCacheEvents e).recorded.Reachable (s, events)) (key : ScionAddr) :
    s.pathMap key = events.findSome? (CacheEvent.stored e key) := by
  refine hs.invariant (I := fun r => r.1.pathMap key = r.2.findSome? (CacheEvent.stored e key))
    ⟨?_, ?_⟩
  · rintro ⟨s, events⟩ ⟨rfl, rfl⟩
    rfl
  · rintro ⟨s, events⟩ ⟨t, events'⟩ ih ⟨event, hst, rfl⟩
    simp only at ih hst ⊢
    cases hst with
    | egress h f pushed => exact ih
    | request pathMap addr pending queryPaths updateRet =>
        replace ih : pathMap key = events.findSome? (CacheEvent.stored e key) := ih
        show reqHandler e queryPaths updateRet pathMap addr key = _
        rw [reqHandler_eq, List.findSome?_cons, ih]
        rcases hnew : CacheEvent.stored e key (.request addr queryPaths updateRet) with _ | entry
        · rw [CacheEvent.stored] at hnew
          rw [hnew, Option.none_or]
        · rw [CacheEvent.stored] at hnew
          rw [hnew, Option.some_or]

/-- What is stored is the entry of a path of the answer. Kind: L -/
theorem CacheEvent.stored_eq_some {e : Endian} {key : ScionAddr} {event : CacheEvent}
    {entry : PathMapEntry} (h : event.stored e key = some entry) :
    ∃ queryPaths updateRet path, event = .request key queryPaths updateRet ∧
      path ∈ (queryPaths (getPathsDst key)).1 ∧ entry = pathToMapEntry e path := by
  cases event with
  | egress h f pushed => cases h
  | request addr queryPaths updateRet =>
      simp only [stored] at h
      split_ifs at h with hkey
      subst hkey
      unfold storedFor at h
      split at h
      · cases h
      · next path paths hpaths =>
          split_ifs at h
          rw [getPaths] at hpaths
          exact ⟨queryPaths, updateRet, path, rfl, hpaths ▸ List.mem_cons_self,
            (Option.some.inj h).symm⟩

/-- **Every entry is of an answer of the run**: of a path that the daemon returned when it was asked
for the ISD-ASN the key decodes to. Kind: L -/
theorem exists_answer {e : Endian} {s : CacheState} {events : List CacheEvent}
    (hs : (pathCacheEvents e).recorded.Reachable (s, events)) {key : ScionAddr}
    {entry : PathMapEntry} (hentry : s.pathMap key = some entry) :
    ∃ queryPaths updateRet path, .request key queryPaths updateRet ∈ events ∧
      path ∈ (queryPaths (getPathsDst key)).1 ∧ entry = pathToMapEntry e path := by
  rw [pathMap_eq_findSome? hs] at hentry
  obtain ⟨event, hmem, hstored⟩ := List.exists_of_findSome?_eq_some hentry
  obtain ⟨queryPaths, updateRet, path, rfl, hpath, heq⟩ := CacheEvent.stored_eq_some hstored
  exact ⟨queryPaths, updateRet, path, hmem, hpath, heq⟩

/-! ## Entries of paths that fit -/

/-- Every entry was built from a path to the ISD-ASN its key decodes to. Kind: D -/
def CacheOk (e : Endian) (pathMap : PathMap) : Prop :=
  ∀ key entry, pathMap key = some entry →
    ∃ path : Path, path.dst = getPathsDst key ∧ path.Fits ∧ entry = pathToMapEntry e path

/-- Handling one request keeps this, whatever the daemon answers. Kind: L -/
theorem CacheOk.reqHandler {e : Endian} {pathMap : PathMap} (h : CacheOk e pathMap)
    {queryPaths : QueryPaths} (hq : QueryOk queryPaths) (updateRet : ℤ) (key : ScionAddr) :
    CacheOk e (reqHandler e queryPaths updateRet pathMap key) := by
  intro k entry hk
  rw [reqHandler_eq] at hk
  rcases Option.or_eq_some_iff.mp hk with hnew | ⟨-, hold⟩
  · have hstored : (CacheEvent.request key queryPaths updateRet).stored e k = some entry := hnew
    obtain ⟨queryPaths', _, path, heq, hpath, hentry⟩ := CacheEvent.stored_eq_some hstored
    obtain ⟨rfl, rfl, -⟩ := CacheEvent.request.inj heq
    obtain ⟨hdst, hfit⟩ := hq _ path hpath
    exact ⟨path, hdst, hfit, hentry⟩
  · exact h k entry hold

/-- The bytes of a frame translated with the entry of a path that fits. Kind: L -/
theorem EgressTranslates.emitted {e : Endian} {h : TcHelpers} {pathMap : PathMap} {f : Frame}
    {path : Path} (ht : EgressTranslates e h pathMap f (pathToMapEntry e path))
    (hfit : path.Fits) :
    peek (egressOutput e h (pathToMapEntry e path) f) 74 8 = toBE 8 path.dst.toNat ∧
      peek (egressOutput e h (pathToMapEntry e path) f) 122 path.dp.length = path.dp ∧
      ipDaddr (egressOutput e h (pathToMapEntry e path) f) = path.nextHop.getIPv6.toList ∧
      peek (egressOutput e h (pathToMapEntry e path) f) 56 2
        = toBE 2 path.nextHop.getPort.toNat := by
  have hlay := egressOutput_layout ht (pathToMapEntry_consistent e hfit)
  refine ⟨?_, ?_, ?_, ?_⟩
  · have hsci := congrArg (fun m => peek m 12 8) hlay.scionhdr
    simp only [peek_peek _ (show 12 + 8 ≤ 28 by omega), ScionHdr.bytes_dst,
      writeScionhdr_dst] at hsci
    rw [hsci, pathToMapEntry_header, storeU64_htobe64]
  · have hpath := hlay.path
    rw [pathToMapEntry_path e hfit, pathToMapEntry_pathLen e hfit] at hpath
    exact hpath
  · rw [hlay.daddr, pathToMapEntry_routerAddr]
  · rw [hlay.udpDest, pathToMapEntry_routerPort]

/-! ## Whole runs -/

/-- The path belongs to the key in this run: the daemon returned it when it was asked for the
ISD-ASN that the key decodes to, and it leads there. Kind: D -/
def IsAnswer (events : List CacheEvent) (key : ScionAddr) (path : Path) : Prop :=
  (∃ queryPaths updateRet, .request key queryPaths updateRet ∈ events ∧
      path ∈ (queryPaths (getPathsDst key)).1) ∧ path.dst = getPathsDst key

/-- **Path-cache correctness over whole runs.** After every run in which the daemon did what is
relied on: each entry was built from a path that the daemon returned in this run when it was asked
for the ISD-ASN its key decodes to, and that leads there; each frame rewritten then carries that
ISD-ASN as SCION destination, and the path bytes, router address and router port of one such path;
and a miss drops its frame unmodified. Kind: P -/
theorem pathCache_correct {e : Endian} {s : CacheState} {events : List CacheEvent}
    (hs : (pathCacheEvents e).recorded.Reachable (s, events)) (hq : QueriesOk events) :
    (∀ key entry, s.pathMap key = some entry →
        ∃ path, IsAnswer events key path ∧ entry = pathToMapEntry e path) ∧
      (∀ (h : TcHelpers) (f : Frame), Rewrites f (scionEgress e h s.pathMap f) →
        ∃ path, IsAnswer events (getMapKey e (ipDaddr f)) path ∧
          s.pathMap (getMapKey e (ipDaddr f)) = some (pathToMapEntry e path) ∧
          peek (scionEgress e h s.pathMap f).frame 74 8
            = toBE 8 (getPathsDst (getMapKey e (ipDaddr f))).toNat ∧
          peek (scionEgress e h s.pathMap f).frame 122 path.dp.length = path.dp ∧
          ipDaddr (scionEgress e h s.pathMap f).frame = path.nextHop.getIPv6.toList ∧
          peek (scionEgress e h s.pathMap f).frame 56 2 = toBE 2 path.nextHop.getPort.toNat) ∧
      (∀ (h : TcHelpers) (f : Frame), ¬ EgressForwards e f →
        s.pathMap (getMapKey e (ipDaddr f)) = none →
        scionEgress e h s.pathMap f = ⟨.TC_ACT_SHOT, f, some (getMapKey e (ipDaddr f))⟩) := by
  have hentries : ∀ key entry, s.pathMap key = some entry →
      ∃ path, IsAnswer events key path ∧ path.Fits ∧ entry = pathToMapEntry e path := by
    intro key entry hentry
    obtain ⟨queryPaths, updateRet, path, hmem, hpath, heq⟩ := exists_answer hs hentry
    obtain ⟨hdst, hfit⟩ := hq _ _ _ hmem _ path hpath
    exact ⟨path, ⟨⟨queryPaths, updateRet, hmem, hpath⟩, hdst⟩, hfit, heq⟩
  refine ⟨fun key entry hentry => ?_, fun h f hrw => ?_, fun h f hfwd hmiss => ?_⟩
  · obtain ⟨path, hanswer, -, heq⟩ := hentries key entry hentry
    exact ⟨path, hanswer, heq⟩
  · obtain ⟨entry, ht, heq⟩ := scionEgress_rewrites hrw
    obtain ⟨path, hanswer, hfit, rfl⟩ := hentries _ _ ht.hit
    rw [heq, ← hanswer.2]
    exact ⟨path, hanswer, ht.hit, ht.emitted hfit⟩
  · rw [scionEgress_of_not_forwards hfwd, hmiss]

/-! ## A sample run -/

/-- A daemon that answers every question with one path of eight bytes. Kind: D -/
def sampleDaemon : QueryPaths := fun dst => ([{ samplePath with dst := dst }], true)

/-- The cache after a miss on the sample frame and the handling of its request. Kind: D -/
def sampleCache : PathMap := reqHandler .little sampleDaemon 0 (fun _ => none) 0x0010FC01

/-- The frame that is missed and the request that is handled then, the latest first. Kind: D -/
def sampleEvents : List CacheEvent :=
  [.request 0x0010FC01 sampleDaemon 0, .egress (mtuHelpers 1500) sampleFrame true]

/-- After these the cache holds the path. Kind: L -/
theorem sampleCache_recorded :
    (pathCacheEvents .little).recorded.Reachable (⟨sampleCache, []⟩, sampleEvents) := by
  have hmiss : (scionEgress .little (mtuHelpers 1500) (fun _ => none) sampleFrame).request
      = some 0x0010FC01 := by decide +kernel
  have hstart : (pathCacheEvents .little).recorded.Reachable (⟨fun _ => none, []⟩, []) :=
    .init ⟨rfl, rfl⟩
  have hasked : (pathCacheEvents .little).recorded.Reachable
      (⟨fun _ => none, [0x0010FC01]⟩, [.egress (mtuHelpers 1500) sampleFrame true]) := by
    have hstep := CacheStep.egress (e := .little) ⟨fun _ => none, []⟩ (mtuHelpers 1500)
      sampleFrame true
    simp only [hmiss] at hstep
    exact hstart.step ⟨_, hstep, rfl⟩
  exact hasked.step ⟨_, CacheStep.request _ _ _ sampleDaemon 0, rfl⟩

/-- The daemon of the run did what is relied on. Kind: L -/
theorem sampleEvents_ok : QueriesOk sampleEvents := by
  intro key queryPaths updateRet hmem dst path hpath
  obtain ⟨-, rfl, -⟩ : key = 0x0010FC01 ∧ queryPaths = sampleDaemon ∧ updateRet = 0 := by
    simpa [sampleEvents] using hmem
  obtain rfl : path = { samplePath with dst := dst } := List.mem_singleton.mp hpath
  have hfit : samplePath.Fits := ⟨by decide, by decide⟩
  exact ⟨rfl, hfit.words, hfit.size⟩

/-- From that cache the sample frame leaves with `1-64513` as SCION destination. Kind: C -/
theorem pathCache_correct_sample :
    peek (scionEgress .little (mtuHelpers 1500) sampleCache sampleFrame).frame 74 8
      = [0, 1, 0, 0, 0, 0, 0xFC, 1] := by
  obtain ⟨-, hemit, -⟩ := pathCache_correct sampleCache_recorded sampleEvents_ok
  obtain ⟨path, -, -, hdst, -⟩ := hemit (mtuHelpers 1500) sampleFrame
    ⟨by decide +kernel, by decide +kernel⟩
  rw [hdst]
  decide +kernel

end ScionIp.Ebpf
