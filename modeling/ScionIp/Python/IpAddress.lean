import ScionIp.Lib.Bits
import ScionIp.Lib.ByteOrder
import ScionIp.Lib.Raises

/-!
# Python: exceptions and the address classes of `ipaddress`

* `PyExc` — the exceptions the Python programs raise or let through. `InvalidArgument` is the class
  both programs define for themselves, raised with a message and sometimes with a cause; the
  others belong to the language and its library.
* `IPv4Address`, `IPv6Address` — an address carries the bound of its number, so the integer
  constructors are the only place where a range is checked. The zone of a text (`%eth0`) is read
  with the text and kept beside the address where it is used again, which is in the address of a
  router only. The texts of the scapy objects and the configured host address are taken to have
  none: scapy makes its texts of the bytes of a packet.
* `SCION_NETWORK` — the prefix `fc00::/8`, which both Python programs define.
-/

namespace ScionIp.Python

open ScionIp.Lib

/-- What a Python function may raise. Kind: D -/
inductive PyExc where
  | InvalidArgument (message : String)
  | InvalidArgumentFrom (message : String) (cause : PyExc)
  | ValueError (message : String)
  | AddressValueError
  | AttributeError (name : String)
  | TypeError
  | Exception (message : String)
  deriving DecidableEq

/-- Is the exception caught by `except ValueError`? Kind: D -/
def PyExc.isValueError : PyExc → Bool
  | .ValueError _ => true
  | .AddressValueError => true
  | _ => false

/-- The result of a Python function. Kind: D -/
abbrev Py := Except PyExc

/-- The computation raises nothing that `except ValueError` would miss. Kind: D -/
abbrev OnlyValueError {α : Type} (x : Py α) : Prop :=
  RaisesOnly (fun exc => exc.isValueError = true) x

/-! ## Addresses -/

/-- `ipaddress.IPv4Address`. Kind: D -/
@[ext] structure IPv4Address where
  ip : ℕ
  ip_lt : ip < 2 ^ 32
  deriving DecidableEq

/-- `ipaddress.IPv6Address`. Kind: D -/
@[ext] structure IPv6Address where
  ip : ℕ
  ip_lt : ip < 2 ^ 128
  deriving DecidableEq

/-- `Union[IPv4Address, IPv6Address]`. Kind: D -/
inductive IPAddress where
  | v4 (addr : IPv4Address)
  | v6 (addr : IPv6Address)
  deriving DecidableEq

/-- The interface part of a SCION-mapped address, `Union[IPv4Address, int]`. Kind: D -/
inductive Interface where
  | ipv4 (addr : IPv4Address)
  | iid (id : ℕ)
  deriving DecidableEq

/-- The number of decimal digits that Python converts at most.
Source: `sys.int_info.default_max_str_digits`. Kind: D -/
def maxStrDigits : ℕ := 4300

/-- The exception for an integer too large for an address. Its message has the integer in decimal,
which is an error of its own for an integer of too many digits. Source: `ipaddress`,
`_check_int_address`. Kind: D -/
@[irreducible] def notPermitted (n : ℕ) : PyExc :=
  if n < 10 ^ maxStrDigits then .AddressValueError
  else .ValueError "Exceeds the limit (4300 digits) for integer string conversion"

/-- `IPv4Address(n)` for an integer `n`. Kind: D -/
def IPv4Address.ofInt (n : ℕ) : Py IPv4Address :=
  if h : n < 2 ^ 32 then .ok ⟨n, h⟩ else .error (notPermitted n)

/-- `IPv6Address(n)` for an integer `n`. Kind: D -/
def IPv6Address.ofInt (n : ℕ) : Py IPv6Address :=
  if h : n < 2 ^ 128 then .ok ⟨n, h⟩ else .error (notPermitted n)

/-- Either way it is a `ValueError`. Kind: L -/
theorem isValueError_notPermitted (n : ℕ) : (notPermitted n).isValueError = true := by
  unfold notPermitted
  split_ifs <;> rfl

/-- `IPv4Address.packed`. Kind: D -/
def IPv4Address.packed (a : IPv4Address) : Bytes := toBE 4 a.ip

/-- `IPv6Address.packed`. Kind: D -/
def IPv6Address.packed (a : IPv6Address) : Bytes := toBE 16 a.ip

/-- The integer constructor gives back an address. Kind: L -/
theorem IPv4Address.ofInt_of_lt {n : ℕ} (h : n < 2 ^ 32) : IPv4Address.ofInt n = .ok ⟨n, h⟩ :=
  dif_pos h

/-- The integer constructor gives back an address. Kind: L -/
theorem IPv6Address.ofInt_of_lt {n : ℕ} (h : n < 2 ^ 128) : IPv6Address.ofInt n = .ok ⟨n, h⟩ :=
  dif_pos h

/-- `int.from_bytes(a.packed, "big")`. Kind: L -/
@[simp] theorem IPv4Address.ofBE_packed (a : IPv4Address) : ofBE a.packed = a.ip := by
  rw [packed, ofBE_toBE]
  exact Nat.mod_eq_of_lt a.ip_lt

/-- `int.from_bytes(a.packed, "big")`. Kind: L -/
@[simp] theorem IPv6Address.ofBE_packed (a : IPv6Address) : ofBE a.packed = a.ip := by
  rw [packed, ofBE_toBE]
  exact Nat.mod_eq_of_lt a.ip_lt

/-- An address has four bytes. Kind: L -/
@[simp] theorem IPv4Address.length_packed (a : IPv4Address) : a.packed.length = 4 := length_toBE 4 _

/-- An address has sixteen bytes. Kind: L -/
@[simp] theorem IPv6Address.length_packed (a : IPv6Address) : a.packed.length = 16 :=
  length_toBE 16 _

/-! ## The SCION network -/

/-- `~(~0 << n)`, computed on integers of unbounded width. Kind: D -/
def lowMask (n : ℕ) : ℕ := (~~~((~~~(0 : ℤ)) <<< n)).toNat

/-- Flipping all bits of an integer. Kind: L -/
theorem complement_eq (m : ℤ) : ~~~m = -m - 1 := by
  cases m with
  | ofNat k =>
      show Int.negSucc k = -(k : ℤ) - 1
      omega
  | negSucc k =>
      show (k : ℤ) = -Int.negSucc k - 1
      omega

/-- The mask of the lowest `n` bits. Kind: L -/
theorem lowMask_eq (n : ℕ) : lowMask n = 2 ^ n - 1 := by
  have h : ~~~((~~~(0 : ℤ)) <<< n) = ((2 ^ n - 1 : ℕ) : ℤ) := by
    rw [complement_eq, complement_eq, Int.shiftLeft_eq, Nat.cast_sub Nat.one_le_two_pow]
    push_cast
    ring
  rw [lowMask, h, Int.toNat_natCast]

/-- Source: `scitun.py` and `scion2ip`, `SCION_PREFIX_LEN`. Kind: D -/
def SCION_PREFIX_LEN : ℕ := 8

/-- Source: `scitun.py` and `scion2ip`, `SCION_PREFIX`. Kind: D -/
def SCION_PREFIX : ℕ := 0xfc <<< (128 - SCION_PREFIX_LEN)

/-- `ip in IPv6Network((SCION_PREFIX, SCION_PREFIX_LEN))`: the address under the netmask is the
network address. Source: `scitun.py`, `SCION_NETWORK`. Kind: D -/
def SCION_NETWORK (ip : IPv6Address) : Bool :=
  ip.ip &&& ((2 ^ SCION_PREFIX_LEN - 1) <<< (128 - SCION_PREFIX_LEN)) == SCION_PREFIX

/-- The network test looks at the top eight bits. Kind: L -/
theorem SCION_NETWORK_iff (ip : IPv6Address) :
    SCION_NETWORK ip = true ↔ ip.ip / 2 ^ 120 = 0xfc := by
  have hlt := ip.ip_lt
  have hfield : bitField ip.ip 120 8 = ip.ip / 2 ^ 120 := by
    rw [bitField, Nat.mod_eq_of_lt (by omega)]
  rw [SCION_NETWORK, SCION_PREFIX, SCION_PREFIX_LEN, beq_iff_eq, and_shifted_ones, hfield,
    Nat.shiftLeft_eq]
  omega

end ScionIp.Python
