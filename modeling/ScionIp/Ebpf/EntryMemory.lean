import ScionIp.Ebpf.PathService

/-!
# `pathToMapEntry` in memory

`pathToMapEntry` returns a struct and therefore cannot say what an unchecked `memcpy` does behind
the array it fills. Here the function is the list of its stores (`entryStores`), run on the cleared
object with the rest of the heap behind it.

* `entryMemory_holds` — the object ends up as the image of `pathToMapEntry`, whatever the length of
  the path: the fields behind the array are assigned after the copy.
* `entryMemory_heap` — what the copy does behind the object.
* `entryFaithful_iff` — for which paths the entry is the entry of the path.
* `pathToMapEntry_consistent_iff` — the two length bytes also agree with each other for other paths,
  because both wrap.
-/

namespace ScionIp.Ebpf

open ScionIp.Lib

/-! ## The stores -/

/-- Bytes written at an offset of an object. Kind: D -/
structure Store where
  off : ℕ
  bytes : Bytes
  deriving DecidableEq

/-- Every byte of the store lies in the range. Kind: D -/
def Store.Within (w : Store) (lo hi : ℕ) : Prop := lo ≤ w.off ∧ w.off + w.bytes.length ≤ hi

/-- The memory after a list of stores. Kind: D -/
def runStores (m : Bytes) (ws : List Store) : Bytes := ws.foldl (fun m w => poke m w.off w.bytes) m

/-- `sizeof(struct path_map_entry)`: the header at 0, `path` at 28, `path_len` at 1048,
`router_addr` at 1049 and, behind one byte of padding, `router_port` at 1066.
Source: `scion.h`, `struct path_map_entry`. Kind: D -/
def entrySize : ℕ := 1068

/-- `memcpy(entry->path, path.dp.data(), path.dp.size())`.
Source: `PathService.cxx`, `pathToMapEntry`. Kind: D -/
def copyDp (path : Path) : Store := ⟨28, path.dp⟩

/-- The stores to the object, in the order of the source. The assignments to the header stay inside
it and are one store. Source: `PathService.cxx`, `pathToMapEntry`. Kind: D -/
def entryStores (e : Endian) (path : Path) : List Store :=
  [⟨0, (pathToMapEntry e path).header.bytes e⟩,
    copyDp path,
    ⟨1048, [UInt8.ofNat (path.dp.length / 4)]⟩,
    ⟨1049, path.nextHop.getIPv6.toList⟩,
    ⟨1066, storeU16 e path.nextHop.getPort⟩]

/-- The object `make_unique` cleared, with the heap behind it, after the function has run.
Kind: D -/
def entryMemory (e : Endian) (path : Path) (heap : Bytes) : Bytes :=
  runStores (List.replicate entrySize 0 ++ heap) (entryStores e path)

/-- The object at the front of the memory is the entry. Kind: D -/
structure HoldsEntry (e : Endian) (m : Bytes) (entry : PathMapEntry) : Prop where
  header : peek m 0 28 = entry.header.bytes e
  path : peek m 28 1020 = entry.path.toList
  pathLen : byteAt m 1048 = entry.pathLen
  routerAddr : peek m 1049 16 = entry.routerAddr.toList
  routerPort : peek m 1066 2 = storeU16 e entry.routerPort

section memory

variable (e : Endian) (path : Path) (heap : Bytes)

/-- The stores, one after the other. Kind: L -/
theorem entryMemory_eq :
    entryMemory e path heap =
      poke (poke (poke (poke (poke (List.replicate entrySize 0 ++ heap) 0
        ((pathToMapEntry e path).header.bytes e)) 28 path.dp) 1048
        [UInt8.ofNat (path.dp.length / 4)]) 1049 path.nextHop.getIPv6.toList) 1066
        (storeU16 e path.nextHop.getPort) := rfl

/-- The size of the object and the heap behind it. Kind: L -/
theorem length_cleared :
    (List.replicate entrySize (0 : UInt8) ++ heap).length = 1068 + heap.length := by
  rw [List.length_append, List.length_replicate, entrySize]

/-- The array is cleared before the copy. Kind: L -/
theorem peek_cleared_path :
    peek (List.replicate entrySize 0 ++ heap) 28 1020 = List.replicate 1020 0 := by
  rw [peek_append_left (by rw [List.length_replicate, entrySize]; omega), entrySize,
    peek_replicate 0 (by omega)]

/-- **The object is the entry**, however long the path is. Kind: P -/
theorem entryMemory_holds : HoldsEntry e (entryMemory e path heap) (pathToMapEntry e path) := by
  have hsize := length_cleared heap
  have hclear := peek_cleared_path heap
  rw [entryMemory_eq]
  generalize List.replicate entrySize 0 ++ heap = m at hsize hclear ⊢
  constructor
  case header =>
    rw [peek_poke_of_disjoint _ (by simp), peek_poke_of_disjoint _ (by simp),
      peek_poke_of_disjoint _ (by simp), peek_poke_of_disjoint _ (Or.inl (by omega)),
      peek_poke_same (by simp) (by omega)]
  case path =>
    -- the copy, cut to the array: what it writes further back is assigned afterwards
    rw [peek_poke_of_disjoint _ (by simp), peek_poke_of_disjoint _ (by simp),
      peek_poke_of_disjoint _ (by simp), peek_poke_window _ (by simp; omega),
      peek_poke_of_disjoint _ (by simp), hclear]
    rfl
  case pathLen =>
    rw [byteAt_poke_of_disjoint _ (by simp), byteAt_poke_of_disjoint _ (by simp),
      byteAt_poke_inside (by omega) (by simp) (by simp; omega)]
    rfl
  case routerAddr =>
    rw [peek_poke_of_disjoint _ (by simp), peek_poke_same (by simp) (by simp; omega),
      pathToMapEntry_routerAddr]
  case routerPort =>
    rw [peek_poke_same (by simp) (by simp; omega), pathToMapEntry_routerPort]

/-- **What the copy does behind the object**: the bytes of the path from the 1040th on are written
over the heap. Kind: P -/
theorem entryMemory_heap :
    (entryMemory e path heap).drop entrySize = poke heap 0 (path.dp.drop 1040) := by
  have hdrop : (List.replicate entrySize (0 : UInt8) ++ heap).drop entrySize = heap :=
    List.drop_left' List.length_replicate
  rw [entryMemory_eq]
  generalize List.replicate entrySize 0 ++ heap = m at hdrop ⊢
  rw [drop_poke_of_le _ (by simp [entrySize]), drop_poke_of_le _ (by simp [entrySize]),
    drop_poke_of_le _ (by simp [entrySize]), drop_poke _ _ (by simp [entrySize]),
    drop_poke_of_le _ (by simp [entrySize]), hdrop, entrySize]

end memory

/-! ## The entry of a path -/

/-- **The entry is the one of the path**: both lengths count its dataplane bytes, the path words are
these bytes, and copying them stays inside the array. Kind: D -/
structure EntryFaithful (e : Endian) (path : Path) : Prop where
  headerLen : 4 * (pathToMapEntry e path).header.len.toNat = 60 + path.dp.length
  pathLen : 4 * (pathToMapEntry e path).pathLen.toNat = path.dp.length
  words : peek (pathToMapEntry e path).path.toList 0 (4 * (pathToMapEntry e path).pathLen.toNat)
    = path.dp
  inside : (copyDp path).Within 28 1048

/-- The header length counts the path exactly when the path fits. Kind: L -/
theorem pathToMapEntry_len_iff (e : Endian) (path : Path) :
    4 * (pathToMapEntry e path).header.len.toNat = 60 + path.dp.length ↔ path.Fits := by
  constructor
  · intro hlen
    have hb : (pathToMapEntry e path).header.len.toNat < 256 :=
      (pathToMapEntry e path).header.len.toNat_lt
    exact ⟨by omega, by omega⟩
  · intro hfit
    exact pathToMapEntry_len e hfit

/-- **For which paths the entry is the entry of the path**: those of whole words and at most 960
bytes. Nothing is ever rejected. Kind: P -/
theorem entryFaithful_iff (e : Endian) (path : Path) :
    EntryFaithful e path ↔ path.dp.length % 4 = 0 ∧ path.dp.length ≤ 960 := by
  constructor
  · intro hok
    have hfit := (pathToMapEntry_len_iff e path).mp hok.headerLen
    exact ⟨hfit.words, hfit.size⟩
  · rintro ⟨hwords, hsize⟩
    have hfit : path.Fits := ⟨hwords, hsize⟩
    have hin : (copyDp path).Within 28 1048 := by
      refine ⟨le_refl _, ?_⟩
      show 28 + path.dp.length ≤ 1048
      omega
    exact ⟨pathToMapEntry_len e hfit, pathToMapEntry_pathLen e hfit, pathToMapEntry_path e hfit,
      hin⟩

/-- A path of zero bytes of the given length, to `1-64513`. Kind: D -/
def zeroPath (n : ℕ) : Path where
  dst := 0x000100000000fc01
  src := 0x000100000000fc00
  dp := List.replicate n 0
  nextHop := ⟨⟨[0xfd, 0, 0, 0, 0, 0, 0, 0, 0, 0, 0, 0, 0, 0, 0, 2], rfl⟩, 30042⟩

/-- **Not every entry is the entry of its path**: for 964 bytes the header length wraps to zero.
Kind: C -/
theorem not_entryFaithful : ¬ ∀ (e : Endian) (path : Path), EntryFaithful e path := by
  intro hall
  have hlen := (hall .little (zeroPath 964)).headerLen
  have hlong : (zeroPath 964).dp.length = 964 := List.length_replicate
  rw [pathToMapEntry_header, hlong] at hlen
  exact absurd hlen (by decide)

/-- **When the two lengths agree with each other.** Both wrap at 1024 bytes, the header length 60
bytes earlier, and a last incomplete word is counted by neither: agreement does not say that
the entry carries its path. Kind: P -/
theorem pathToMapEntry_consistent_iff (e : Endian) (path : Path) :
    (pathToMapEntry e path).Consistent ↔ path.dp.length / 4 % 256 ≤ 240 := by
  rw [PathMapEntry.Consistent, pathToMapEntry_header]
  simp only [pathToMapEntry, UInt8.toNat_ofNat']
  omega

end ScionIp.Ebpf
