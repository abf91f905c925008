import ScionIp.Ebpf.EgressLayout

/-!
# The path service: cache entries and path requests

* `pathToMapEntry` — the cache entry built from a path of the daemon, with the truncations of the
  source: header length and path length are cut to eight bits, and a path longer than the array
  it is copied to is not rejected (the bytes behind the array are not part of the entry).
* `getPathsDst` — the ISD-ASN queried for a map key.
* `insertPaths`, `reqHandler` — what one pending request does to the cache, given the daemon's
  answer and the return value of `bpf_map__update_elem`.

For a path whose dataplane bytes are a multiple of four and at most 960 (`Path.Fits`), the entry is
consistent and its path words are the path's bytes (`pathToMapEntry_consistent`,
`pathToMapEntry_path`).
-/

namespace ScionIp.Ebpf

open ScionIp.Lib

/-- The underlay address of the first border router, as the bindings return it. Kind: D -/
structure NextHop where
  getIPv6 : List.Vector UInt8 16
  getPort : UInt16
  deriving DecidableEq

/-- A path of the daemon, as far as the service reads it. Kind: D -/
structure Path where
  dst : UInt64
  src : UInt64
  dp : Bytes
  nextHop : NextHop
  deriving DecidableEq

/-- `make_unique` clears the entry; `memcpy` then fills the front of its path array. Kind: D -/
def entryPath (dp : Bytes) : List.Vector UInt8 1020 :=
  ⟨poke (List.replicate 1020 0) 0 dp, by rw [length_poke, List.length_replicate]⟩

/-- Source: `PathService.cxx`, `pathToMapEntry`. Kind: D -/
def pathToMapEntry (e : Endian) (path : Path) : PathMapEntry :=
  let headerLength := UInt8.ofNat ((28 + (2 * 16) + path.dp.length) / 4)
  let header : ScionHdr :=
    { verQosFlow := 0, next := 0, len := headerLength, payload := 0, type := SC_PATH_TYPE_SCION,
      haddr := 0, rsv := 0, dst := htobe64 e path.dst, src := htobe64 e path.src }
  let header := if path.dp.isEmpty then { header with type := SC_PATH_TYPE_EMPTY } else header
  let header := SC_SET_DT header SC_ADDR_TYPE_IP
  let header := SC_SET_DL header 0x3
  let header := SC_SET_ST header SC_ADDR_TYPE_IP
  let header := SC_SET_SL header 0x3
  { header := header, path := entryPath path.dp, pathLen := UInt8.ofNat (path.dp.length / 4),
    routerAddr := path.nextHop.getIPv6, routerPort := path.nextHop.getPort }

/-- The ISD-ASN queried for a map key: the ISD bits moved to bit 48, the 20 bits of encoded ASN
taken as they are. Source: `PathService.cxx`, `PathService::getPaths`. Kind: D -/
def getPathsDst (daddr : ScionAddr) : UInt64 :=
  ((daddr.toUInt64 &&& 0xFFF00000) <<< 28) ||| (daddr &&& 0xFFFFF).toUInt64

/-- One answer of the daemon to `queryPaths`: the paths, and whether the status was `Success`.
Kind: D -/
abbrev QueryPaths := UInt64 → List Path × Bool

/-- The paths are returned whatever the status is; a failure is only logged.
Source: `PathService.cxx`, `PathService::getPaths`. Kind: D -/
def getPaths (queryPaths : QueryPaths) (daddr : ScionAddr) : List Path :=
  (queryPaths (getPathsDst daddr)).1

/-- Only the first path is used; `updateRet` is the return value of `bpf_map__update_elem`, and a
failed update is only logged. Source: `PathService.cxx`, `PathService::insertPaths`. Kind: D -/
def insertPaths (e : Endian) (updateRet : ℤ) (pathCache : PathMap) (addr : ScionAddr)
    (paths : List Path) : PathMap :=
  match paths with
  | [] => pathCache
  | path :: _ =>
      if updateRet < 0 then pathCache
      else Function.update pathCache addr (some (pathToMapEntry e path))

/-- The handling of one pending request. Source: `PathService.cxx`, `reqHandler`. Kind: D -/
def reqHandler (e : Endian) (queryPaths : QueryPaths) (updateRet : ℤ) (pathCache : PathMap)
    (addr : ScionAddr) : PathMap :=
  insertPaths e updateRet pathCache addr (getPaths queryPaths addr)

/-! ## The entry of a path that fits -/

/-- The dataplane bytes are whole words and fit the header length field. Kind: D -/
structure Path.Fits (path : Path) : Prop where
  words : path.dp.length % 4 = 0
  size : path.dp.length ≤ 960

section entry

variable (e : Endian) (path : Path)

@[simp] theorem pathToMapEntry_routerAddr :
    (pathToMapEntry e path).routerAddr = path.nextHop.getIPv6 := rfl

@[simp] theorem pathToMapEntry_routerPort :
    (pathToMapEntry e path).routerPort = path.nextHop.getPort := rfl

/-- The header of the entry in one piece. Kind: L -/
theorem pathToMapEntry_header :
    (pathToMapEntry e path).header =
      { verQosFlow := 0, next := 0, len := UInt8.ofNat ((60 + path.dp.length) / 4), payload := 0,
        type := if path.dp.isEmpty then SC_PATH_TYPE_EMPTY else SC_PATH_TYPE_SCION,
        haddr := 0x33, rsv := 0, dst := htobe64 e path.dst, src := htobe64 e path.src } := by
  have hhaddr : ∀ (len type : UInt8) (dst src : UInt64),
      SC_SET_SL (SC_SET_ST (SC_SET_DL (SC_SET_DT ⟨0, 0, len, 0, type, 0, 0, dst, src⟩
        SC_ADDR_TYPE_IP) 0x3) SC_ADDR_TYPE_IP) 0x3 = ⟨0, 0, len, 0, type, 0x33, 0, dst, src⟩ := by
    intro len type dst src
    simp only [SC_SET_SL, SC_SET_ST, SC_SET_DL, SC_SET_DT, ScionHdr.mk.injEq, true_and, and_true]
    decide
  by_cases hdp : path.dp.isEmpty
  · simp only [pathToMapEntry, hdp, if_true, hhaddr, Nat.reduceMul, Nat.reduceAdd]
  · simp only [pathToMapEntry, hdp, if_false, hhaddr, Nat.reduceMul, Nat.reduceAdd,
      Bool.false_eq_true]

variable {path}

/-- The header length of an entry whose path fits. Kind: L -/
theorem pathToMapEntry_len (hfit : path.Fits) :
    4 * (pathToMapEntry e path).header.len.toNat = 60 + path.dp.length := by
  have hw := hfit.words
  have hs := hfit.size
  rw [pathToMapEntry_header]
  simp only [UInt8.toNat_ofNat']
  omega

/-- The path length of an entry whose path fits. Kind: L -/
theorem pathToMapEntry_pathLen (hfit : path.Fits) :
    4 * (pathToMapEntry e path).pathLen.toNat = path.dp.length := by
  have hw := hfit.words
  have hs := hfit.size
  simp only [pathToMapEntry, UInt8.toNat_ofNat']
  omega

/-- **An entry built from a path that fits is consistent.** Kind: P -/
theorem pathToMapEntry_consistent (hfit : path.Fits) : (pathToMapEntry e path).Consistent := by
  have h1 := pathToMapEntry_len e hfit
  have h2 := pathToMapEntry_pathLen e hfit
  unfold PathMapEntry.Consistent
  omega

/-- **The path words of the entry are the dataplane bytes of the path.** Kind: P -/
theorem pathToMapEntry_path (hfit : path.Fits) :
    peek (pathToMapEntry e path).path.toList 0 (4 * (pathToMapEntry e path).pathLen.toNat)
      = path.dp := by
  have hs := hfit.size
  rw [pathToMapEntry_pathLen e hfit]
  exact peek_poke_self (by rw [List.length_replicate]; omega)

end entry

end ScionIp.Ebpf
