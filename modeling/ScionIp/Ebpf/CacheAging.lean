import ScionIp.Lib.BoundedTable
import ScionIp.Ebpf.Network

/-!
# What stays in the path cache

Nothing removes an entry of `path_map`, and only a miss asks for one. Two things follow for every
run of the kernel program and the path service.

* `cached_path_stays` — a path that is in the cache and not asked for any more is used for ever,
  whatever the daemon answers later.
* `full_cache_starves` — the map has room for `PATH_ENTRIES` entries; once it is full, frames to all
  other destinations are lost for ever. `exists_full` fills it.
-/

namespace ScionIp.Ebpf

open ScionIp.Lib

/-! ## Entries are not refreshed -/

/-- The program reads one entry. Kind: L -/
theorem scionEgress_congr (e : Endian) (h : TcHelpers) {pathMap pathMap' : PathMap} {f : Frame}
    (heq : pathMap' (getMapKey e (ipDaddr f)) = pathMap (getMapKey e (ipDaddr f))) :
    scionEgress e h pathMap' f = scionEgress e h pathMap f := by
  unfold scionEgress
  simp only [heq]

/-- A frame asks for its own destination, after a miss. Kind: L -/
theorem request_eq_some {e : Endian} {h : TcHelpers} {pathMap : PathMap} {f : Frame}
    {key : ScionAddr} (hreq : (scionEgress e h pathMap f).request = some key) :
    key = getMapKey e (ipDaddr f) ∧ pathMap key = none := by
  rcases scionEgress_cases e h pathMap f with ⟨-, heq⟩ | ⟨-, hmiss, heq⟩ | ⟨_, -, -, -, -, hnone⟩ |
    ⟨_, -, heq⟩
  · rw [heq] at hreq
    cases hreq
  · rw [heq] at hreq
    obtain rfl := Option.some.inj hreq
    exact ⟨rfl, hmiss⟩
  · rw [hnone] at hreq
    cases hreq
  · rw [heq] at hreq
    cases hreq

/-- Handling a request leaves the other entries alone. Kind: L -/
theorem reqHandler_of_ne {e : Endian} {queryPaths : QueryPaths} {updateRet : ℤ}
    {pathMap : PathMap} {addr key : ScionAddr} (hne : key ≠ addr) :
    reqHandler e queryPaths updateRet pathMap addr key = pathMap key := by
  unfold reqHandler insertPaths
  cases getPaths queryPaths addr with
  | nil => rfl
  | cons path paths =>
    simp only
    split_ifs
    · rfl
    · exact Function.update_of_ne hne _ _

/-- The entry is there, and nobody asks for it. Kind: D -/
structure Settled (key : ScionAddr) (entry : PathMapEntry) (s : CacheState) : Prop where
  hit : s.pathMap key = some entry
  idle : key ∉ s.pathReq

/-- A step of either program leaves it so. Kind: L -/
theorem Settled.step {e : Endian} {key : ScionAddr} {entry : PathMapEntry} {s t : CacheState}
    {event : CacheEvent} (h : Settled key entry s) (hst : CacheStep e s event t) :
    Settled key entry t := by
  cases hst with
  | egress helpers f pushed =>
    refine ⟨h.hit, fun hmem => ?_⟩
    rcases List.mem_append.mp hmem with hold | hnew
    · exact h.idle hold
    · split_ifs at hnew
      · have hmiss := (request_eq_some (Option.mem_toList.mp hnew)).2
        rw [h.hit] at hmiss
        cases hmiss
      · cases hnew
  | request pathMap addr pending queryPaths updateRet =>
    have hne : key ≠ addr := fun hc => h.idle (hc ▸ List.mem_cons_self)
    exact ⟨(reqHandler_of_ne hne).trans h.hit, fun hmem => h.idle (List.mem_cons_of_mem _ hmem)⟩

/-- **A cached path stays**, in every run: once no request for it is pending, its entry is never
changed and never asked for again, and each frame to that destination is treated as it was then.
Kind: P -/
theorem cached_path_stays {e : Endian} {s t : CacheState}
    (hrun : Relation.ReflTransGen (pathCacheSystem e).step s t) {key : ScionAddr}
    {entry : PathMapEntry} (hit : s.pathMap key = some entry) (hidle : key ∉ s.pathReq) :
    t.pathMap key = some entry ∧ key ∉ t.pathReq ∧
      ∀ (h : TcHelpers) (f : Frame), getMapKey e (ipDaddr f) = key →
        scionEgress e h t.pathMap f = scionEgress e h s.pathMap f := by
  have hsettled : Settled key entry t := by
    induction hrun with
    | refl => exact ⟨hit, hidle⟩
    | tail _ hst ih =>
      obtain ⟨event, hst⟩ := hst
      exact ih.step hst
  refine ⟨hsettled.hit, hsettled.idle, fun h f hkey => scionEgress_congr e h ?_⟩
  rw [hkey, hsettled.hit, hit]

/-- The sample path is still there, and not asked for, after a datagram was sent along it.
Kind: C -/
theorem cached_path_stays_sample :
    ∃ t, Relation.ReflTransGen (pathCacheSystem .little).step ⟨sampleCache, []⟩ t ∧
      t.pathMap 0x0010FC01
        = some (pathToMapEntry .little { samplePath with dst := getPathsDst 0x0010FC01 }) ∧
      0x0010FC01 ∉ t.pathReq := by
  have hrun : Relation.ReflTransGen (pathCacheSystem .little).step ⟨sampleCache, []⟩ _ :=
    .single ⟨_, CacheStep.egress ⟨sampleCache, []⟩ roomyTc sampleFrame true⟩
  have hit : sampleCache 0x0010FC01
      = some (pathToMapEntry .little { samplePath with dst := getPathsDst 0x0010FC01 }) := by
    simp [sampleCache, reqHandler, insertPaths, getPaths, sampleDaemon]
  obtain ⟨hentry, hidle, -⟩ := @cached_path_stays .little ⟨sampleCache, []⟩ _ hrun 0x0010FC01 _ hit
    List.not_mem_nil
  exact ⟨_, hrun, hentry, hidle⟩

/-! ## The map has an end -/

/-- A step where the map has room for `PATH_ENTRIES` entries: the update of a full map fails under a
new key. Kind: D -/
inductive BoundedStep (e : Endian) : CacheState → CacheState → Prop
  | egress (s : CacheState) (h : TcHelpers) (f : Frame) (pushed : Bool) :
      BoundedStep e s
        { s with
          pathReq := s.pathReq ++
            if pushed then (scionEgress e h s.pathMap f).request.toList else [] }
  | request (pathMap : PathMap) (key : ScionAddr) (pending : List ScionAddr)
      (queryPaths : QueryPaths) (updateRet : ℤ)
      (hfull : UpdateRetOk pathMap key updateRet) :
      BoundedStep e ⟨pathMap, key :: pending⟩
        ⟨reqHandler e queryPaths updateRet pathMap key, pending⟩

/-- The two programs with that map. Kind: D -/
def boundedCacheSystem (e : Endian) : TransitionSystem CacheState where
  init s := s = ⟨fun _ => none, []⟩
  step := BoundedStep e

/-- It does nothing the unbounded map does not. Kind: L -/
theorem BoundedStep.unbounded {e : Endian} {s t : CacheState} (h : BoundedStep e s t) :
    (pathCacheSystem e).step s t := by
  cases h with
  | egress _ helpers f pushed => exact ⟨_, .egress _ helpers f pushed⟩
  | request pathMap key pending queryPaths updateRet =>
    exact ⟨_, .request _ _ _ queryPaths updateRet⟩

/-- Every run is one of the system without that limit. Kind: L -/
theorem reachable_of_bounded {e : Endian} {s : CacheState}
    (hs : (boundedCacheSystem e).Reachable s) : (pathCacheSystem e).Reachable s := by
  induction hs with
  | init h => exact .init h
  | step _ hst ih => exact ih.step (BoundedStep.unbounded hst)

/-- So every entry of that map is of an answer too. Kind: P -/
theorem exists_answer_of_bounded {e : Endian} {s : CacheState}
    (hs : (boundedCacheSystem e).Reachable s) :
    ∃ events, (pathCacheEvents e).recorded.Reachable (s, events) ∧
      ∀ key entry, s.pathMap key = some entry →
        ∃ queryPaths updateRet path, .request key queryPaths updateRet ∈ events ∧
          path ∈ (queryPaths (getPathsDst key)).1 ∧ entry = pathToMapEntry e path := by
  obtain ⟨events, hrec⟩ := LabelledSystem.reachable_iff.mp (reachable_of_bounded hs)
  exact ⟨events, hrec, fun _ _ hentry => exists_answer hrec hentry⟩

/-- **A step accesses the table once.** Kind: L -/
theorem BoundedStep.table {e : Endian} {s t : CacheState} (h : BoundedStep e s t) :
    TableStep PATH_ENTRIES s.pathMap t.pathMap := by
  cases h with
  | egress _ helpers f pushed => exact .keep _
  | request pathMap key pending queryPaths updateRet hfull =>
    unfold reqHandler insertPaths
    cases getPaths queryPaths key with
    | nil => exact .keep _
    | cons path paths =>
      simp only
      split_ifs with hret
      · exact .keep _
      · refine .store _ _ _ ?_
        by_contra hno
        rw [not_or, not_lt] at hno
        exact hret (hfull hno.1 hno.2)

/-- The accesses of a run. Kind: L -/
theorem table_run {e : Endian} {s t : CacheState}
    (hrun : Relation.ReflTransGen (boundedCacheSystem e).step s t) :
    Relation.ReflTransGen (TableStep PATH_ENTRIES) s.pathMap t.pathMap :=
  hrun.lift CacheState.pathMap fun _ _ => BoundedStep.table

/-- The map has no more entries than it has room for. Kind: L -/
theorem entries_le {e : Endian} {s : CacheState} (hs : (boundedCacheSystem e).Reachable s) :
    (keys s.pathMap).ncard ≤ PATH_ENTRIES := by
  refine hs.invariant (I := fun s => (keys s.pathMap).ncard ≤ PATH_ENTRIES) ⟨?_, ?_⟩
  · rintro s rfl
    simp
  · intro s t hs hst
    exact (BoundedStep.table hst).bounded hs

/-! ### Filling the map -/

/-- A host in the AS of a key. Kind: D -/
def keyDaddr (key : ScionAddr) : Bytes := [0xFC] ++ (toBE 4 key.toNat ++ List.replicate 11 0)

@[simp] theorem length_keyDaddr (key : ScionAddr) : (keyDaddr key).length = 16 := by
  simp [keyDaddr]

/-- The sample datagram to that host. Kind: D -/
def keyFrame (key : ScionAddr) : Frame := poke sampleFrame 38 (keyDaddr key)

/-- Its destination. Kind: L -/
@[simp] theorem ipDaddr_keyFrame (key : ScionAddr) : ipDaddr (keyFrame key) = keyDaddr key :=
  peek_poke_same (length_keyDaddr key) (by decide)

/-- The key of its destination. Kind: L -/
@[simp] theorem getScionAddr_keyDaddr (e : Endian) (key : ScionAddr) :
    getScionAddr e (keyDaddr key) = key := by
  apply UInt32.toNat_inj.mp
  have hbytes : peek (keyDaddr key) 1 4 = toBE 4 key.toNat := by
    rw [keyDaddr, peek_append_right _ _ (by simp), peek_append_left (by simp)]
    exact peek_zero (by simp)
  rw [getScionAddr_toNat e (length_keyDaddr key), hbytes, ofBE_toBE]
  exact Nat.mod_eq_of_lt key.toNat_lt

/-- It is to be translated, unless it stays in the AS of its source. Kind: L -/
theorem keyFrame_not_forwards (e : Endian) {key : ScionAddr} (hkey : key ≠ 0x0010FC00) :
    ¬ EgressForwards e (keyFrame key) := by
  have hsame : ∀ off k, off + k ≤ 38 → peek (keyFrame key) off k = peek sampleFrame off k :=
    fun off k hk => peek_poke_of_disjoint _ (Or.inl hk)
  have hsrc : getScionAddr e (ipSaddr (keyFrame key)) = 0x0010FC00 := by
    rw [ipSaddr, hsame 22 16 (by omega)]
    cases e <;> decide +kernel
  rintro (hlen | htype | hicmp | hprefix | hintra)
  · rw [keyFrame, length_poke] at hlen
    exact absurd hlen (by decide)
  · rw [hsame 12 2 (by omega)] at htype
    exact htype (by decide)
  · rw [ipNexthdr, keyFrame, byteAt_poke_of_disjoint _ (Or.inl (by omega))] at hicmp
    exact absurd hicmp (by decide)
  · rw [ipDaddr_keyFrame] at hprefix
    cases hprefix
  · rw [ipDaddr_keyFrame, getScionAddr_keyDaddr, hsrc] at hintra
    exact hkey hintra

/-- **One destination more.** Kind: L -/
theorem reachable_insert {e : Endian} {s : CacheState} (hs : (boundedCacheSystem e).Reachable s)
    (hreq : s.pathReq = []) (hroom : (keys s.pathMap).ncard < PATH_ENTRIES) {key : ScionAddr}
    (hkey : key ≠ 0x0010FC00) (hmiss : s.pathMap key = none) :
    ∃ entry, (boundedCacheSystem e).Reachable ⟨Function.update s.pathMap key (some entry), []⟩ := by
  have hrun := scionEgress_of_not_forwards (keyFrame_not_forwards e hkey) roomyTc s.pathMap
  rw [getMapKey, ipDaddr_keyFrame, getScionAddr_keyDaddr, hmiss] at hrun
  have hasked := hs.step (BoundedStep.egress s roomyTc (keyFrame key) true)
  rw [hrun, hreq] at hasked
  have hanswered := hasked.step (BoundedStep.request s.pathMap key [] (obligingDaemon samplePath) 0
    fun _ hfull => absurd hfull (not_le.mpr hroom))
  exact ⟨_, hanswered⟩

/-- **The map can be filled**: a run in which a host sends to one destination after the other.
Kind: P -/
theorem exists_full (e : Endian) {n : ℕ} (hn : n ≤ PATH_ENTRIES) :
    ∃ s, (boundedCacheSystem e).Reachable s ∧ s.pathReq = [] ∧ (keys s.pathMap).ncard = n ∧
      ∀ key ∈ keys s.pathMap, key.toNat < n := by
  induction n with
  | zero => exact ⟨⟨fun _ => none, []⟩, .init rfl, rfl, by simp, by simp⟩
  | succ n ih =>
    obtain ⟨s, hs, hreq, hcard, hsmall⟩ := ih (by omega)
    have hnat : (UInt32.ofNat n).toNat = n := by
      rw [UInt32.toNat_ofNat']
      exact Nat.mod_eq_of_lt (by unfold PATH_ENTRIES at hn; omega)
    have hmiss : UInt32.ofNat n ∉ keys s.pathMap := fun hmem => by
      have hlt := hsmall _ hmem
      omega
    have hkey : UInt32.ofNat n ≠ 0x0010FC00 := fun hc => by
      have hnum := congrArg UInt32.toNat hc
      rw [hnat] at hnum
      unfold PATH_ENTRIES at hn
      have hbig : (0x0010FC00 : UInt32).toNat = 0x0010FC00 := rfl
      omega
    obtain ⟨entry, hstep⟩ := reachable_insert hs hreq (by omega) hkey (not_not.mp hmiss)
    refine ⟨_, hstep, rfl, ?_, ?_⟩
    · rw [keys_update, Set.ncard_insert_of_notMem hmiss, hcard]
    · intro key hmem
      rw [keys_update, Set.mem_insert_iff] at hmem
      rcases hmem with rfl | hold
      · omega
      · exact Nat.lt_succ_of_lt (hsmall key hold)

/-- **A full cache starves all other destinations**: the map never has more than `PATH_ENTRIES`
entries, and in every run from a reachable state where it has as many, its keys stay the same, and
each frame to another destination is lost. Kind: P -/
theorem full_cache_starves {e : Endian} {s : CacheState} (hs : (boundedCacheSystem e).Reachable s) :
    (keys s.pathMap).ncard ≤ PATH_ENTRIES ∧
      ((keys s.pathMap).ncard = PATH_ENTRIES → ∀ t,
        Relation.ReflTransGen (boundedCacheSystem e).step s t → keys t.pathMap = keys s.pathMap ∧
          ∀ (h : TcHelpers) (f : Frame), ¬ EgressForwards e f →
            s.pathMap (getMapKey e (ipDaddr f)) = none →
            scionEgress e h t.pathMap f = ⟨.TC_ACT_SHOT, f, some (getMapKey e (ipDaddr f))⟩) := by
  refine ⟨entries_le hs, fun hfull t hrun => ?_⟩
  have hkeys := TableStep.run_full (table_run hrun) hfull.ge
  refine ⟨hkeys, fun h f hfwd hmiss => ?_⟩
  have hlater : t.pathMap (getMapKey e (ipDaddr f)) = none := by
    by_contra hne
    have hmem : getMapKey e (ipDaddr f) ∈ keys s.pathMap := hkeys ▸ hne
    exact hmem hmiss
  rw [scionEgress_of_not_forwards hfwd, hlater]

/-- Once `PATH_ENTRIES` destinations are in the cache, the sample datagram is lost for ever.
Kind: C -/
theorem full_cache_starves_sample :
    ∃ s, (boundedCacheSystem .little).Reachable s ∧ ∀ t,
      Relation.ReflTransGen (boundedCacheSystem .little).step s t →
        (scionEgress .little roomyTc t.pathMap sampleFrame).verdict = .TC_ACT_SHOT := by
  obtain ⟨s, hs, -, hcard, hsmall⟩ := exists_full .little (le_refl PATH_ENTRIES)
  refine ⟨s, hs, fun t hrun => ?_⟩
  have hkey : getMapKey .little (ipDaddr sampleFrame) = 0x0010FC01 := by decide +kernel
  have hmiss : s.pathMap (getMapKey .little (ipDaddr sampleFrame)) = none := by
    by_contra hne
    have hlt := hsmall _ hne
    rw [hkey] at hlt
    exact absurd hlt (by decide)
  rw [((full_cache_starves hs).2 hcard t hrun).2 roomyTc sampleFrame (by decide) hmiss]

end ScionIp.Ebpf
