import ScionIp.Lib.Memory

/-!
# The SCION header as the eBPF programs keep it

Words of fixed width and their host/network conversions, `struct scionhdr` and the setters of
`scion_types.h`, and the address helpers and the cache entry of `scion.h`.

Everything that touches memory takes the byte order `e` of the host, because the sources mix
converted and unconverted words. Where a value passes through a conversion the lemmas below drop
`e` again: `storeU16_bpfHtons`, `bpfNtohl_loadU32`, `getScionAddr_toNat`.

The values of `SC_SET_VER`, `SC_SET_QOS` and `SC_SET_FLOW` are converted *before* they are
shifted, so what they leave in memory depends on the host; they are kept exactly as written.
-/

namespace ScionIp.Ebpf

open ScionIp.Lib

/-! ## Words in memory -/

/-- A 16-bit word as the host loads it. Kind: D -/
def loadU16 (e : Endian) (bs : Bytes) : UInt16 := UInt16.ofNat (load e bs)

/-- A 32-bit word as the host loads it. Kind: D -/
def loadU32 (e : Endian) (bs : Bytes) : UInt32 := UInt32.ofNat (load e bs)

/-- The two bytes the host stores for a 16-bit word. Kind: D -/
def storeU16 (e : Endian) (v : UInt16) : Bytes := store e 2 v.toNat

/-- The four bytes the host stores for a 32-bit word. Kind: D -/
def storeU32 (e : Endian) (v : UInt32) : Bytes := store e 4 v.toNat

/-- The eight bytes the host stores for a 64-bit word. Kind: D -/
def storeU64 (e : Endian) (v : UInt64) : Bytes := store e 8 v.toNat

/-- Source: `bpf_endian.h`, `bpf_htons`. Kind: D -/
def bpfHtons (e : Endian) (v : UInt16) : UInt16 := UInt16.ofNat (hton e 2 v.toNat)

/-- Source: `bpf_endian.h`, `bpf_ntohs`, the same byte swap. Kind: D -/
def bpfNtohs (e : Endian) (v : UInt16) : UInt16 := bpfHtons e v

/-- Source: `bpf_endian.h`, `bpf_htonl`. Kind: D -/
def bpfHtonl (e : Endian) (v : UInt32) : UInt32 := UInt32.ofNat (hton e 4 v.toNat)

/-- Source: `bpf_endian.h`, `bpf_ntohl`, the same byte swap. Kind: D -/
def bpfNtohl (e : Endian) (v : UInt32) : UInt32 := bpfHtonl e v

/-- Source: `endian.h`, `htobe64`. Kind: D -/
def htobe64 (e : Endian) (v : UInt64) : UInt64 := UInt64.ofNat (hton e 8 v.toNat)

section words

variable (e : Endian)

@[simp] theorem length_storeU16 (v : UInt16) : (storeU16 e v).length = 2 := length_store e 2 _

@[simp] theorem length_storeU32 (v : UInt32) : (storeU32 e v).length = 4 := length_store e 4 _

@[simp] theorem length_storeU64 (v : UInt64) : (storeU64 e v).length = 8 := length_store e 8 _

/-- A converted 16-bit word is stored in network byte order. Kind: L -/
@[simp] theorem storeU16_bpfHtons (v : UInt16) : storeU16 e (bpfHtons e v) = toBE 2 v.toNat := by
  have h : hton e 2 v.toNat < 2 ^ 16 := hton_lt e 2 _
  rw [storeU16, bpfHtons, UInt16.toNat_ofNat', Nat.mod_eq_of_lt h, store_hton]

/-- A converted 32-bit word is stored in network byte order. Kind: L -/
@[simp] theorem storeU32_bpfHtonl (v : UInt32) : storeU32 e (bpfHtonl e v) = toBE 4 v.toNat := by
  have h : hton e 4 v.toNat < 2 ^ 32 := hton_lt e 4 _
  rw [storeU32, bpfHtonl, UInt32.toNat_ofNat', Nat.mod_eq_of_lt h, store_hton]

/-- A converted 64-bit word is stored in network byte order. Kind: L -/
@[simp] theorem storeU64_htobe64 (v : UInt64) : storeU64 e (htobe64 e v) = toBE 8 v.toNat := by
  have h : hton e 8 v.toNat < 2 ^ 64 := hton_lt e 8 _
  rw [storeU64, htobe64, UInt64.toNat_ofNat', Nat.mod_eq_of_lt h, store_hton]

variable {e}

/-- Loading a 16-bit word and storing it copies the bytes. Kind: L -/
theorem storeU16_loadU16 {bs : Bytes} (h : bs.length = 2) : storeU16 e (loadU16 e bs) = bs := by
  have hlt : load e bs < 2 ^ 16 := by simpa [h] using load_lt e bs
  have hs := store_load e bs
  rw [h] at hs
  rw [storeU16, loadU16, UInt16.toNat_ofNat', Nat.mod_eq_of_lt hlt, hs]

/-- Loading a 32-bit word and storing it copies the bytes. Kind: L -/
theorem storeU32_loadU32 {bs : Bytes} (h : bs.length = 4) : storeU32 e (loadU32 e bs) = bs := by
  have hlt : load e bs < 2 ^ 32 := by simpa [h] using load_lt e bs
  have hs := store_load e bs
  rw [h] at hs
  rw [storeU32, loadU32, UInt32.toNat_ofNat', Nat.mod_eq_of_lt hlt, hs]

/-- Comparing loaded words compares bytes. Kind: L -/
theorem loadU32_inj {as bs : Bytes} (ha : as.length = 4) (hb : bs.length = 4) :
    loadU32 e as = loadU32 e bs ↔ as = bs := by
  constructor
  · intro heq
    rw [← storeU32_loadU32 (e := e) ha, heq, storeU32_loadU32 hb]
  · intro heq
    rw [heq]

/-- A loaded 16-bit word, converted, is the number in network byte order. Kind: L -/
theorem bpfNtohs_loadU16 {bs : Bytes} (h : bs.length = 2) :
    (bpfNtohs e (loadU16 e bs)).toNat = ofBE bs := by
  have hlt : load e bs < 2 ^ 16 := by simpa [h] using load_lt e bs
  have hbe : ofBE bs < 2 ^ 16 := by simpa [h] using ofBE_lt bs
  have hn := hton_load e bs
  rw [h] at hn
  rw [bpfNtohs, bpfHtons, loadU16, UInt16.toNat_ofNat', UInt16.toNat_ofNat', Nat.mod_eq_of_lt hlt,
    hn, Nat.mod_eq_of_lt hbe]

/-- A loaded 32-bit word, converted, is the number in network byte order. Kind: L -/
theorem bpfNtohl_loadU32 {bs : Bytes} (h : bs.length = 4) :
    (bpfNtohl e (loadU32 e bs)).toNat = ofBE bs := by
  have hlt : load e bs < 2 ^ 32 := by simpa [h] using load_lt e bs
  have hbe : ofBE bs < 2 ^ 32 := by simpa [h] using ofBE_lt bs
  have hn := hton_load e bs
  rw [h] at hn
  rw [bpfNtohl, bpfHtonl, loadU32, UInt32.toNat_ofNat', UInt32.toNat_ofNat', Nat.mod_eq_of_lt hlt,
    hn, Nat.mod_eq_of_lt hbe]

/-- Comparing a loaded word with a converted constant compares bytes. Kind: L -/
theorem loadU16_eq_bpfHtons {bs : Bytes} (h : bs.length = 2) (v : UInt16) :
    loadU16 e bs = bpfHtons e v ↔ bs = toBE 2 v.toNat := by
  constructor
  · intro heq
    rw [← storeU16_loadU16 (e := e) h, heq, storeU16_bpfHtons]
  · intro heq
    have hlt : load e bs < 2 ^ 16 := by simpa [h] using load_lt e bs
    have hv : hton e 2 v.toNat < 2 ^ 16 := hton_lt e 2 _
    apply UInt16.toNat_inj.mp
    rw [loadU16, bpfHtons, UInt16.toNat_ofNat', UInt16.toNat_ofNat', Nat.mod_eq_of_lt hlt,
      Nat.mod_eq_of_lt hv, heq, ← store_hton e 2 v.toNat, load_store]
    exact Nat.mod_eq_of_lt hv

end words

/-! ## `struct scionhdr` -/

/-- Source: `scion_types.h`, `SC_PATH_TYPE_EMPTY`. Kind: D -/
def SC_PATH_TYPE_EMPTY : UInt8 := 0

/-- Source: `scion_types.h`, `SC_PATH_TYPE_SCION`. Kind: D -/
def SC_PATH_TYPE_SCION : UInt8 := 1

/-- Source: `scion_types.h`, `SC_ADDR_TYPE_IP`. Kind: D -/
def SC_ADDR_TYPE_IP : UInt8 := 0

/-- The common and address header up to the host addresses; every word as the host holds it.
Source: `scion_types.h`, `struct scionhdr` (packed, 28 bytes). Kind: D -/
structure ScionHdr where
  verQosFlow : UInt32
  next : UInt8
  len : UInt8
  payload : UInt16
  type : UInt8
  haddr : UInt8
  rsv : UInt16
  dst : UInt64
  src : UInt64
  deriving DecidableEq, Repr

/-- The memory image of the packed struct. Source: `scion_types.h`, `struct scionhdr`. Kind: D -/
def ScionHdr.bytes (e : Endian) (h : ScionHdr) : Bytes :=
  storeU32 e h.verQosFlow ++ [h.next, h.len] ++ storeU16 e h.payload ++ [h.type, h.haddr] ++
    storeU16 e h.rsv ++ storeU64 e h.dst ++ storeU64 e h.src

/-- `sizeof(struct scionhdr)`. Kind: L -/
@[simp] theorem ScionHdr.length_bytes (e : Endian) (h : ScionHdr) : (h.bytes e).length = 28 := by
  simp [ScionHdr.bytes]

/-- Source: `scion_types.h`, `SC_SET_VER`. Kind: D -/
def SC_SET_VER (e : Endian) (h : ScionHdr) (v : UInt32) : ScionHdr :=
  { h with verQosFlow := (h.verQosFlow &&& ~~~((0xF : UInt32) <<< 28)) ||| (bpfHtonl e v <<< 28) }

/-- Source: `scion_types.h`, `SC_SET_QOS`. Kind: D -/
def SC_SET_QOS (e : Endian) (h : ScionHdr) (v : UInt32) : ScionHdr :=
  { h with verQosFlow := (h.verQosFlow &&& ~~~((0xFF : UInt32) <<< 20)) ||| (bpfHtonl e v <<< 20) }

/-- Source: `scion_types.h`, `SC_SET_FLOW`. Kind: D -/
def SC_SET_FLOW (e : Endian) (h : ScionHdr) (v : UInt32) : ScionHdr :=
  { h with verQosFlow := (h.verQosFlow &&& ~~~(0xFFFFF : UInt32)) ||| bpfHtonl e v }

/-- Source: `scion_types.h`, `SC_SET_DT`. Kind: D -/
def SC_SET_DT (h : ScionHdr) (v : UInt8) : ScionHdr :=
  { h with haddr := (h.haddr &&& ~~~((0x3 : UInt8) <<< 6)) ||| (v <<< 6) }

/-- Source: `scion_types.h`, `SC_SET_DL`. Kind: D -/
def SC_SET_DL (h : ScionHdr) (v : UInt8) : ScionHdr :=
  { h with haddr := (h.haddr &&& ~~~((0x3 : UInt8) <<< 4)) ||| (v <<< 4) }

/-- Source: `scion_types.h`, `SC_SET_ST`. Kind: D -/
def SC_SET_ST (h : ScionHdr) (v : UInt8) : ScionHdr :=
  { h with haddr := (h.haddr &&& ~~~((0x3 : UInt8) <<< 2)) ||| (v <<< 2) }

/-- Source: `scion_types.h`, `SC_SET_SL`. Kind: D -/
def SC_SET_SL (h : ScionHdr) (v : UInt8) : ScionHdr :=
  { h with haddr := (h.haddr &&& ~~~(0x3 : UInt8)) ||| v }

/-! ## Addresses and the cache entry -/

/-- Source: `scion.h`, `scion_addr`: 12 bits of ISD above 20 bits of encoded ASN. Kind: D -/
abbrev ScionAddr := UInt32

/-- Source: `scion.h`, `scion_prefix_match`. Kind: D -/
def scionPrefixMatch (addr : Bytes) : Bool := byteAt addr 0 == 0xFC

/-- Source: `scion.h`, `get_scion_addr`. Kind: D -/
def getScionAddr (e : Endian) (addr : Bytes) : ScionAddr :=
  (bpfNtohl e (loadU32 e (peek addr 0 4)) <<< 8) ||| (bpfNtohl e (loadU32 e (peek addr 4 4)) >>> 24)

/-- Source: `scion.h`, `get_map_key`. Kind: D -/
def getMapKey (e : Endian) (addr : Bytes) : ScionAddr := getScionAddr e addr

/-- One entry of the path cache; `path` is the raw memory of the 255 words.
Source: `scion.h`, `struct path_map_entry`. Kind: D -/
structure PathMapEntry where
  header : ScionHdr
  path : List.Vector UInt8 1020
  pathLen : UInt8
  routerAddr : List.Vector UInt8 16
  routerPort : UInt16
  deriving DecidableEq

/-- **The map key is bytes 1 to 4 of the address, most significant first**, on either host.
Kind: P -/
theorem getScionAddr_toNat (e : Endian) {addr : Bytes} (h : addr.length = 16) :
    (getScionAddr e addr).toNat = ofBE (peek addr 1 4) := by
  have h0 : (peek addr 0 4).length = 4 := length_peek (by omega)
  have h4 : (peek addr 4 4).length = 4 := length_peek (by omega)
  have hhi : peek addr 0 4 = peek addr 0 1 ++ peek addr 1 3 := peek_add addr 0 1 3
  have hlo : peek addr 4 4 = peek addr 4 1 ++ peek addr 5 3 := peek_add addr 4 1 3
  have hkey : peek addr 1 4 = peek addr 1 3 ++ peek addr 4 1 := peek_add addr 1 3 1
  have l13 : (peek addr 1 3).length = 3 := length_peek (by omega)
  have l41 : (peek addr 4 1).length = 1 := length_peek (by omega)
  have l53 : (peek addr 5 3).length = 3 := length_peek (by omega)
  have b13 : ofBE (peek addr 1 3) < 256 ^ 3 := by simpa [l13] using ofBE_lt (peek addr 1 3)
  have b41 : ofBE (peek addr 4 1) < 256 := by simpa [l41] using ofBE_lt (peek addr 4 1)
  have b53 : ofBE (peek addr 5 3) < 256 ^ 3 := by simpa [l53] using ofBE_lt (peek addr 5 3)
  have b01 : ofBE (peek addr 0 1) < 256 := by
    simpa [length_peek (show 0 + 1 ≤ addr.length by omega)] using ofBE_lt (peek addr 0 1)
  rw [getScionAddr, UInt32.toNat_or, UInt32.toNat_shiftLeft, UInt32.toNat_shiftRight,
    bpfNtohl_loadU32 h0, bpfNtohl_loadU32 h4, hhi, hlo, hkey, ofBE_append, ofBE_append, ofBE_append,
    l13, l41, l53]
  have e8 : UInt32.toNat 8 % 32 = 8 := rfl
  have e24 : UInt32.toNat 24 % 32 = 24 := rfl
  have hshl : (ofBE (peek addr 0 1) * 256 ^ 3 + ofBE (peek addr 1 3)) <<< 8 % 2 ^ 32
      = ofBE (peek addr 1 3) <<< 8 := by
    rw [Nat.shiftLeft_eq, Nat.shiftLeft_eq]
    omega
  have hshr : (ofBE (peek addr 4 1) * 256 ^ 3 + ofBE (peek addr 5 3)) >>> 24
      = ofBE (peek addr 4 1) := by
    rw [Nat.shiftRight_eq_div_pow]
    omega
  rw [e8, e24, hshl, hshr, ← Nat.shiftLeft_add_eq_or_of_lt (by simpa using b41), Nat.shiftLeft_eq]
  simp

end ScionIp.Ebpf
