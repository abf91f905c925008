import ScionIp.Lib.OrderedTable
import ScionIp.Vpp.Exceptions
import ScionIp.Vpp.IsdAsn

/-!
# The configuration of the VPP path manager

* `parseEndpoint`, `loadConfig`, `dumpConfig` — the functions of `config.cpp`, over the TOML, log and
  network libraries as parameters (`Libraries`).
* `loadConfig_dumpConfig_iff` — the text of a configuration is read back as that configuration,
  under an exact condition. The writer puts the daemon endpoint into another section than the reader
  looks at, and writes the name of a variable in place of its value.
-/

namespace ScionIp.Vpp

open ScionIp.Lib

/-! ## The libraries -/

/-- The levels of the log. Source: `spdlog`, `level_enum`. Kind: D -/
inductive Level where
  | trace
  | debug
  | info
  | warn
  | err
  | critical
  | off
  deriving DecidableEq, Repr

/-- A value in a section of a configuration file; arrays, dates and tables are not read. Kind: D -/
inductive TomlValue where
  | string (s : Text)
  | integer (v : ℤ)
  | floating (whole : Option ℤ)
  | boolean (b : Bool)
  | other
  deriving DecidableEq

/-- A section. Kind: D -/
abbrev TomlSection := OrderedTable Text TomlValue

/-- What the name of a section stands for. Kind: D -/
inductive TomlNode where
  | table (entries : TomlSection)
  | value (v : TomlValue)
  deriving DecidableEq

/-- A configuration file. Source: `toml++`, `toml::table`. Kind: D -/
abbrev TomlTable := OrderedTable Text TomlNode

/-- The value of a key in a section, if there are both. Kind: D -/
def TomlTable.entryAt (tab : TomlTable) (sec key : String) : Option TomlValue :=
  match tab.find sec.toList with
  | some (.table entries) => entries.find key.toList
  | _ => none

/-- Source: `asio`, `ip::address_v4`. Kind: D -/
structure AddressV4 where
  toBytes : List.Vector UInt8 4
  deriving DecidableEq

/-- Source: `asio`, `ip::address_v6`. Kind: D -/
structure AddressV6 where
  toBytes : List.Vector UInt8 16
  scopeId : UInt32
  deriving DecidableEq

/-- Source: `asio`, `ip::address`. Kind: D -/
inductive Address where
  | v4 (addr : AddressV4)
  | v6 (addr : AddressV6)
  deriving DecidableEq

/-- Source: `asio`, `ip::network_v4`. Kind: D -/
structure NetworkV4 where
  address : AddressV4
  prefixLength : UInt16
  deriving DecidableEq

/-- Source: `asio`, `ip::network_v6`. Kind: D -/
structure NetworkV6 where
  address : AddressV6
  prefixLength : UInt16
  deriving DecidableEq

/-- Source: `asio`, `ip::udp::endpoint`. Kind: D -/
structure Endpoint where
  address : Address
  port : UInt16
  deriving DecidableEq

/-- The functions of `spdlog`, `toml++` and `asio` that read and print: `level::to_string_view` and
`level::from_str`; `tab[section][key]`, empty when there is no such section or key; and
`node_view::value` for `std::string_view`, `const char*` and `int`. Kind: D -/
structure Libraries where
  levelToStringView : Level → Text
  levelFromStr : Text → Level
  tomlView : TomlTable → String → String → Option TomlValue
  valueString : Option TomlValue → Option Text
  valueCString : Option TomlValue → Option Text
  valueInt : Option TomlValue → Option ℤ
  tomlParse : Text → Except Text TomlTable
  tomlPrint : TomlTable → Text
  makeAddress : Text → Except ErrorCode Address
  makeNetworkV4 : Text → Except ErrorCode NetworkV4
  makeNetworkV6 : Text → Except ErrorCode NetworkV6
  networkV4ToString : NetworkV4 → Text
  networkV6ToString : NetworkV6 → Text

/-! ## `config.cpp` -/

/-- Source: `config.hpp`, `TranslatorConfig`. Kind: D -/
structure TranslatorConfig where
  logLevel : Level
  localIA : UInt64
  gatewayAddr : NetworkV6
  hostAddr : NetworkV6
  gatewayAddr4 : Option NetworkV4
  hostAddr4 : Option NetworkV4
  sciondEp : Endpoint
  tapName : Text
  hostInterface : Text
  hostIfQueues : UInt32
  deriving DecidableEq

/-- Source: `config.cpp`, `DEFAULT_SCIOND`. Kind: D -/
def DEFAULT_SCIOND : Text := "127.0.0.1:30255".toList

/-- Source: `config.cpp`, `DEFAULT_TAP_NAME`. Kind: D -/
def DEFAULT_TAP_NAME : Text := "scion".toList

/-- `std::from_chars` on a 16-bit unsigned integer that holds zero: the number of digits, and the
value left in the argument. Kind: D -/
def fromCharsPort (raw : Text) : ℕ × UInt16 :=
  let run := digitRun 10 raw
  (run.length, if valOf 10 run < 2 ^ 16 then UInt16.ofNat (valOf 10 run) else 0)

/-- The text in front of the last colon and the text behind it. Kind: D -/
def splitLastColon (raw : Text) : Option (Text × Text) :=
  match raw.reverse.dropWhile (· ≠ ':') with
  | [] => none
  | _ :: rest => some (rest.reverse, (raw.reverse.takeWhile (· ≠ ':')).reverse)

/-- The address without its brackets. Source: `config.cpp`, `parseEndpoint`. Kind: D -/
def stripBrackets (addr : Text) : Cpp Text :=
  if addr.head? = some '[' then
    if addr.getLast? ≠ some ']' then
      .error (.thrown (.invalid_argument "invalid network address"))
    else .ok addr.tail.dropLast
  else .ok addr

/-- A number that is too large is consumed and leaves zero. Source: `config.cpp`, `parseEndpoint`.
Kind: D -/
def parsePort (port : Text) : Cpp UInt16 :=
  let (digits, portNum) := fromCharsPort port
  if port.isEmpty ∨ digits ≠ port.length then
    .error (.thrown (.out_of_range "invalid port in network address"))
  else .ok portNum

/-- A text without a colon is cut one character in front of its beginning.
Source: `config.cpp`, `parseEndpoint`. Kind: D -/
def parseEndpoint (lib : Libraries) (raw : Text) : Cpp Endpoint :=
  match splitLastColon raw with
  | none => .error .undefined
  | some (addr, port) => do
      let addr ← stripBrackets addr
      let portNum ← parsePort port
      let addr ← orThrow "make_address" (lib.makeAddress addr)
      return ⟨addr, portNum⟩

/-- A field that has to be there. Kind: D -/
def required (lib : Libraries) (view : Option TomlValue) (message : String) : Cpp Text :=
  match lib.valueString view with
  | some s => .ok s
  | none => .error (.thrown (.ConfigError message))

/-- An IPv4 network, if it is there. Kind: D -/
def optionalV4 (lib : Libraries) (view : Option TomlValue) : Cpp (Option NetworkV4) :=
  match lib.valueString view with
  | some s => some <$> orThrow "make_network_v4" (lib.makeNetworkV4 s)
  | none => .ok none

/-- Source: `config.cpp`, `loadConfig`. Kind: D -/
def parseLocalIA (isdAsn : Text) : Cpp UInt64 :=
  match IsdAsn.parse isdAsn with
  | .ok ia => .ok ia
  | .error _ => .error (.thrown (.ConfigError "invalid ISD-ASN"))

/-- Both IPv4 networks or none. Source: `config.cpp`, `loadConfig`. Kind: D -/
def bothOrNone (gatewayAddr4 hostAddr4 : Option NetworkV4) : Cpp Unit :=
  if gatewayAddr4.isSome ≠ hostAddr4.isSome then
    .error (.thrown (.ConfigError "if one og gateway_addr4 and host_addr4 is set, both must be"))
  else .ok ()

/-- The statements behind `toml::parse`. Source: `config.cpp`, `loadConfig`. Kind: D -/
def loadTable (lib : Libraries) (tab : TomlTable) : Cpp TranslatorConfig := do
  let logLevel := lib.levelFromStr
    ((lib.valueCString (lib.tomlView tab "log" "level")).getD "warning".toList)
  let isdAsn ← required lib (lib.tomlView tab "translator" "isd_asn") "isd_asn not set"
  let localIA ← parseLocalIA isdAsn
  let gateway ← required lib (lib.tomlView tab "translator" "gateway_addr") "gateway_addr not set"
  let gatewayAddr ← orThrow "make_network_v6" (lib.makeNetworkV6 gateway)
  let host ← required lib (lib.tomlView tab "translator" "host_addr") "host_addr not set"
  let hostAddr ← orThrow "make_network_v6" (lib.makeNetworkV6 host)
  let gatewayAddr4 ← optionalV4 lib (lib.tomlView tab "translator" "gateway_addr4")
  let hostAddr4 ← optionalV4 lib (lib.tomlView tab "translator" "host_addr4")
  bothOrNone gatewayAddr4 hostAddr4
  let sciondEp ← parseEndpoint lib
    ((lib.valueString (lib.tomlView tab "sciond" "address")).getD DEFAULT_SCIOND)
  let tapName := (lib.valueString (lib.tomlView tab "tap" "name")).getD DEFAULT_TAP_NAME
  let hostInterface ← required lib (lib.tomlView tab "xdp" "interface") "host interface not set"
  let hostIfQueues := UInt32.ofInt ((lib.valueInt (lib.tomlView tab "xdp" "rx_queues")).getD 1)
  return {
    logLevel, localIA, gatewayAddr, hostAddr, gatewayAddr4, hostAddr4, sciondEp, tapName,
    hostInterface, hostIfQueues }

/-- The content of the file, or nothing when it cannot be opened.
Source: `config.cpp`, `loadConfig`. Kind: D -/
def loadConfig (lib : Libraries) (file : Option Text) : Cpp TranslatorConfig :=
  match file with
  | none => .error (.thrown (.filesystem_error ⟨.generic, ENOENT⟩ "file not found"))
  | some text =>
      match lib.tomlParse text with
      | .error what => .error (.thrown (.toml_parse_error what))
      | .ok tab => loadTable lib tab

/-- The section `translator`, with the IPv4 networks when both are set.
Source: `config.cpp`, `dumpConfig`. Kind: D -/
def dumpTranslator (lib : Libraries) (config : TranslatorConfig) : TomlSection :=
  let translator : TomlSection := .ofList [
    ("isd_asn".toList, .string (IsdAsn.print config.localIA)),
    ("gateway_addr".toList, .string (lib.networkV6ToString config.gatewayAddr)),
    ("host_addr".toList, .string (lib.networkV6ToString config.hostAddr))]
  match config.gatewayAddr4, config.hostAddr4 with
  | some gatewayAddr4, some hostAddr4 =>
      (translator.insertOrAssign "gateway_addr4".toList
          (.string (lib.networkV4ToString gatewayAddr4))).insertOrAssign
        "host_addr4".toList (.string (lib.networkV4ToString hostAddr4))
  | _, _ => translator

/-- The table that is printed. Source: `config.cpp`, `dumpConfig`. Kind: D -/
def dumpTable (lib : Libraries) (config : TranslatorConfig) : TomlTable := .ofList [
  ("log".toList, .table (.ofList [
    ("level".toList, .string (lib.levelToStringView config.logLevel))])),
  ("translator".toList, .table (dumpTranslator lib config)),
  ("sciond_connection".toList, .table (.ofList [
    ("address".toList, .string "config.sciondEp".toList)])),
  ("tap".toList, .table (.ofList [
    ("name".toList, .string config.tapName)])),
  ("xdp".toList, .table (.ofList [
    ("interface".toList, .string config.hostInterface),
    ("rx_queues".toList, .integer config.hostIfQueues.toNat)]))]

/-- Source: `config.cpp`, `dumpConfig`. Kind: D -/
def dumpConfig (lib : Libraries) (config : TranslatorConfig) : Text :=
  lib.tomlPrint (dumpTable lib config)

/-! ## Reading what was printed -/

section Reload

variable (lib : Libraries) (c : TranslatorConfig)

/-- A number in the range of `int`. Kind: D -/
def integerCast (v : ℤ) : Option ℤ := if -2 ^ 31 ≤ v ∧ v < 2 ^ 31 then some v else none

/-- **The documented behaviour of the libraries**: the names of the levels are read as those levels,
and of a table each entry is seen as what it is, an integer only in the range of `int`. Kind: D -/
structure Libraries.Documented (lib : Libraries) : Prop where
  levelFromStr : ∀ l, lib.levelFromStr (lib.levelToStringView l) = l
  levelNames : ∀ l, '\x00' ∉ lib.levelToStringView l
  tomlView : ∀ tab sec key, lib.tomlView tab sec key = TomlTable.entryAt tab sec key
  valueString : ∀ s, lib.valueString (some (.string s)) = some s
  valueString_none : lib.valueString none = none
  valueCString : ∀ s, '\x00' ∉ s → lib.valueCString (some (.string s)) = some s
  valueInt : ∀ v, lib.valueInt (some (.integer v)) = integerCast v

/-- The libraries are as documented, and read back what they print for this configuration.
Kind: D -/
structure LibrariesReadBack : Prop extends lib.Documented where
  toml : lib.tomlParse (lib.tomlPrint (dumpTable lib c)) = .ok (dumpTable lib c)
  gatewayAddr : lib.makeNetworkV6 (lib.networkV6ToString c.gatewayAddr) = .ok c.gatewayAddr
  hostAddr : lib.makeNetworkV6 (lib.networkV6ToString c.hostAddr) = .ok c.hostAddr
  gatewayAddr4 : ∀ n, c.gatewayAddr4 = some n →
    lib.makeNetworkV4 (lib.networkV4ToString n) = .ok n
  hostAddr4 : ∀ n, c.hostAddr4 = some n → lib.makeNetworkV4 (lib.networkV4ToString n) = .ok n

/-- The section `translator` of the printed table. Kind: L -/
theorem entryAt_dumpTable_translator (key : String) :
    (dumpTable lib c).entryAt "translator" key = (dumpTranslator lib c).find key.toList := rfl

/-- The IPv4 networks are two keys of their own. Kind: L -/
theorem find_dumpTranslator {key : Text} (hgateway : key ≠ "gateway_addr4".toList)
    (hhost : key ≠ "host_addr4".toList) :
    (dumpTranslator lib c).find key
      = (dumpTranslator lib { c with gatewayAddr4 := none }).find key := by
  unfold dumpTranslator
  cases c.gatewayAddr4 with
  | none => rfl
  | some gateway =>
      cases c.hostAddr4 with
      | none => rfl
      | some host =>
          simp only
          rw [OrderedTable.find_insertOrAssign, if_neg hhost, OrderedTable.find_insertOrAssign,
            if_neg hgateway]

variable {c}

/-- The networks of a configuration that is loaded: both or none. Kind: L -/
theorem loadTable_networks {lib : Libraries} {tab : TomlTable} (h : loadTable lib tab = .ok c) :
    c.gatewayAddr4.isSome = c.hostAddr4.isSome := by
  unfold loadTable at h
  obtain ⟨isdAsn, -, h⟩ := bind_eq_ok_iff.mp h
  obtain ⟨localIA, -, h⟩ := bind_eq_ok_iff.mp h
  obtain ⟨gateway, -, h⟩ := bind_eq_ok_iff.mp h
  obtain ⟨gatewayAddr, -, h⟩ := bind_eq_ok_iff.mp h
  obtain ⟨host, -, h⟩ := bind_eq_ok_iff.mp h
  obtain ⟨hostAddr, -, h⟩ := bind_eq_ok_iff.mp h
  obtain ⟨gatewayAddr4, -, h⟩ := bind_eq_ok_iff.mp h
  obtain ⟨hostAddr4, -, h⟩ := bind_eq_ok_iff.mp h
  obtain ⟨_, hboth, h⟩ := bind_eq_ok_iff.mp h
  obtain ⟨sciondEp, -, h⟩ := bind_eq_ok_iff.mp h
  obtain ⟨hostInterface, -, h⟩ := bind_eq_ok_iff.mp h
  obtain rfl := Except.ok.inj h
  by_contra hne
  unfold bothOrNone at hboth
  rw [if_pos hne] at hboth
  cases hboth

/-- The networks of a file that is loaded. Kind: L -/
theorem loadConfig_networks {lib : Libraries} {file : Option Text}
    (h : loadConfig lib file = .ok c) : c.gatewayAddr4.isSome = c.hostAddr4.isSome := by
  unfold loadConfig at h
  split at h
  · cases h
  · split at h
    · cases h
    · exact loadTable_networks h

/-- Both or none are accepted. Kind: L -/
theorem bothOrNone_eq {gateway host : Option NetworkV4} (h : gateway.isSome = host.isSome) :
    bothOrNone gateway host = .ok () := by
  unfold bothOrNone
  exact if_neg (fun hc => hc h)

variable {lib}

/-- The optional networks are read back. Kind: L -/
theorem optionalV4_dumpTable (hlib : LibrariesReadBack lib c)
    (hboth : c.gatewayAddr4.isSome = c.hostAddr4.isSome) :
    optionalV4 lib (lib.tomlView (dumpTable lib c) "translator" "gateway_addr4")
        = .ok c.gatewayAddr4 ∧
      optionalV4 lib (lib.tomlView (dumpTable lib c) "translator" "host_addr4")
        = .ok c.hostAddr4 := by
  have habsent : optionalV4 lib none = .ok none := by
    rw [optionalV4, hlib.valueString_none]
  rw [hlib.tomlView, hlib.tomlView, entryAt_dumpTable_translator, entryAt_dumpTable_translator]
  unfold dumpTranslator
  cases hgateway : c.gatewayAddr4 with
  | none =>
      rw [hgateway] at hboth
      have hhost : c.hostAddr4 = none :=
        Option.isNone_iff_eq_none.mp (Option.isSome_eq_false_iff.mp hboth.symm)
      rw [hhost]
      exact ⟨habsent, habsent⟩
  | some gateway =>
      rw [hgateway] at hboth
      obtain ⟨host, hhost⟩ := Option.isSome_iff_exists.mp hboth.symm
      rw [hhost]
      simp only [OrderedTable.find_insertOrAssign, if_true,
        if_neg (show "gateway_addr4".toList ≠ "host_addr4".toList by decide), optionalV4,
        hlib.valueString, hlib.gatewayAddr4 gateway hgateway, hlib.hostAddr4 host hhost]
      exact ⟨rfl, rfl⟩

/-- The log level is read back. Kind: L -/
theorem levelFromStr_valueCString (hlib : lib.Documented) (l : Level) (default : Text) :
    lib.levelFromStr
      ((lib.valueCString (some (.string (lib.levelToStringView l)))).getD default) = l := by
  rw [hlib.valueCString _ (hlib.levelNames l), Option.getD_some, hlib.levelFromStr]

/-- **What is read back**: the endpoint is the default one, the number of queues is cut to `int`,
and the other fields are those of the configuration. Kind: L -/
theorem loadTable_dumpTable (hlib : LibrariesReadBack lib c)
    (hboth : c.gatewayAddr4.isSome = c.hostAddr4.isSome) {ia : UInt64}
    (hia : IsdAsn.parse (IsdAsn.print c.localIA) = .ok ia) :
    loadTable lib (dumpTable lib c) = do
      let sciondEp ← parseEndpoint lib DEFAULT_SCIOND
      return { c with
        localIA := ia
        sciondEp
        hostIfQueues := UInt32.ofInt ((integerCast c.hostIfQueues.toNat).getD 1) } := by
  have hisdAsn : lib.tomlView (dumpTable lib c) "translator" "isd_asn"
      = some (.string (IsdAsn.print c.localIA)) := by
    rw [hlib.tomlView, entryAt_dumpTable_translator, find_dumpTranslator lib c (by decide) (by decide)]
    rfl
  have hgateway : lib.tomlView (dumpTable lib c) "translator" "gateway_addr"
      = some (.string (lib.networkV6ToString c.gatewayAddr)) := by
    rw [hlib.tomlView, entryAt_dumpTable_translator, find_dumpTranslator lib c (by decide) (by decide)]
    rfl
  have hhost : lib.tomlView (dumpTable lib c) "translator" "host_addr"
      = some (.string (lib.networkV6ToString c.hostAddr)) := by
    rw [hlib.tomlView, entryAt_dumpTable_translator, find_dumpTranslator lib c (by decide) (by decide)]
    rfl
  have hlevel : lib.tomlView (dumpTable lib c) "log" "level"
      = some (.string (lib.levelToStringView c.logLevel)) := hlib.tomlView _ _ _
  have hsciond : lib.tomlView (dumpTable lib c) "sciond" "address" = none := hlib.tomlView _ _ _
  have htap : lib.tomlView (dumpTable lib c) "tap" "name" = some (.string c.tapName) :=
    hlib.tomlView _ _ _
  have hinterface : lib.tomlView (dumpTable lib c) "xdp" "interface"
      = some (.string c.hostInterface) := hlib.tomlView _ _ _
  have hqueues : lib.tomlView (dumpTable lib c) "xdp" "rx_queues"
      = some (.integer c.hostIfQueues.toNat) := hlib.tomlView _ _ _
  obtain ⟨hgateway4, hhost4⟩ := optionalV4_dumpTable hlib hboth
  unfold loadTable
  rw [hisdAsn, hgateway, hhost, hgateway4, hhost4, hlevel, hsciond, htap, hinterface, hqueues,
    levelFromStr_valueCString hlib.toDocumented]
  simp only [required, hlib.valueString, hlib.valueString_none, ok_bind, parseLocalIA, hia, orThrow, hlib.gatewayAddr,
    hlib.hostAddr, Except.mapError, bothOrNone_eq hboth, Option.getD_none, Option.getD_some,
    hlib.valueInt]

/-- The three fields that may differ. Kind: L -/
theorem config_eq_iff {localIA : UInt64} {sciondEp : Endpoint} {hostIfQueues : UInt32} :
    { c with localIA, sciondEp, hostIfQueues } = c ↔
      localIA = c.localIA ∧ sciondEp = c.sciondEp ∧ hostIfQueues = c.hostIfQueues := by
  cases c
  simp

/-- A number of queues is read back when it is in the range of `int`. Kind: L -/
theorem ofInt_integerCast_iff (n : UInt32) :
    UInt32.ofInt ((integerCast n.toNat).getD 1) = n ↔ n.toNat < 2 ^ 31 := by
  have hn := n.toNat_lt
  unfold integerCast
  by_cases hlt : n.toNat < 2 ^ 31
  · have hrange : -2 ^ 31 ≤ (n.toNat : ℤ) ∧ (n.toNat : ℤ) < 2 ^ 31 := by omega
    rw [if_pos hrange, Option.getD_some]
    refine iff_of_true ?_ hlt
    rw [UInt32.ofInt, Int.emod_eq_of_lt (Int.natCast_nonneg _) (by omega), Int.toNat_natCast,
      UInt32.ofNat_toNat]
  · have hrange : ¬ (-2 ^ 31 ≤ (n.toNat : ℤ) ∧ (n.toNat : ℤ) < 2 ^ 31) := by omega
    rw [if_neg hrange, Option.getD_none]
    refine iff_of_false ?_ hlt
    rintro rfl
    exact hlt (by decide)

end Reload

/-! ## When a configuration is read back -/

/-- **When the text of a configuration is read back.** Loading what was printed of a configuration
that was loaded gives that configuration if and only if its daemon endpoint is the default one, its
ISD-ASN is read back, and its number of queues is in the range of `int`. Kind: P -/
theorem loadConfig_dumpConfig_iff (lib : Libraries) {file : Option Text} {c : TranslatorConfig}
    (hload : loadConfig lib file = .ok c) (hlib : LibrariesReadBack lib c) :
    loadConfig lib (some (dumpConfig lib c)) = .ok c ↔
      parseEndpoint lib DEFAULT_SCIOND = .ok c.sciondEp ∧
        AsnReadsBack (c.localIA.toNat % 2 ^ 48) ∧ c.hostIfQueues.toNat < 2 ^ 31 := by
  obtain ⟨ia, hia, hasn⟩ := IsdAsn.parse_print c.localIA
  have htable := loadTable_dumpTable hlib (loadConfig_networks hload) hia
  have hreload : loadConfig lib (some (dumpConfig lib c)) = loadTable lib (dumpTable lib c) := by
    unfold loadConfig dumpConfig
    simp only [hlib.toml]
  rw [hreload, htable, bind_eq_ok_iff, ← hasn, ← ofInt_integerCast_iff]
  constructor
  · rintro ⟨sciondEp, hendpoint, hc⟩
    obtain ⟨hlocalIA, rfl, hqueues⟩ := config_eq_iff.mp (Except.ok.inj hc)
    exact ⟨hendpoint, hlocalIA, hqueues⟩
  · rintro ⟨hendpoint, hlocalIA, hqueues⟩
    refine ⟨c.sciondEp, hendpoint, ?_⟩
    exact congrArg Except.ok (config_eq_iff.mpr ⟨hlocalIA, rfl, hqueues⟩)

/-! ### A sample -/

/-- A file with the fields that have no default. Kind: C -/
def sampleFile : Text :=
  "[translator]\nisd_asn = \"1-64512\"\ngateway_addr = \"fc01:fc::2/64\"\n".toList ++
    "host_addr = \"fc01:fc::1/64\"\n\n[xdp]\ninterface = \"vpp0\"\n".toList

/-- The file with a daemon endpoint of its own. Kind: C -/
def sampleFileSciond : Text :=
  "[sciond]\naddress = \"10.0.0.1:30255\"\n\n".toList ++ sampleFile

/-- What `dumpConfig` returns for both. Kind: C -/
def sampleDump : Text :=
  "[log]\nlevel = 'warning'\n\n".toList ++
    "[sciond_connection]\naddress = 'config.sciondEp'\n\n".toList ++
    "[tap]\nname = 'scion'\n\n[translator]\ngateway_addr = 'fc01:fc::2/64'\n".toList ++
    "host_addr = 'fc01:fc::1/64'\nisd_asn = '1-64512'\n\n".toList ++
    "[xdp]\ninterface = 'vpp0'\nrx_queues = 1".toList

/-- The section `translator` of the sample. Kind: C -/
def sampleTranslator : TomlSection where
  entries := [
    ("gateway_addr".toList, .string "fc01:fc::2/64".toList),
    ("host_addr".toList, .string "fc01:fc::1/64".toList),
    ("isd_asn".toList, .string "1-64512".toList)]
  sorted := by decide

/-- The table of the file. Kind: C -/
def sampleTable : TomlTable where
  entries := [
    ("translator".toList, .table sampleTranslator),
    ("xdp".toList, .table ⟨[("interface".toList, .string "vpp0".toList)], by decide⟩)]
  sorted := by decide

/-- The table of what `dumpConfig` returns. Kind: C -/
def sampleDumpTable : TomlTable where
  entries := [
    ("log".toList, .table ⟨[("level".toList, .string "warning".toList)], by decide⟩),
    ("sciond_connection".toList, .table
      ⟨[("address".toList, .string "config.sciondEp".toList)], by decide⟩),
    ("tap".toList, .table ⟨[("name".toList, .string "scion".toList)], by decide⟩),
    ("translator".toList, .table sampleTranslator),
    ("xdp".toList, .table ⟨[
      ("interface".toList, .string "vpp0".toList),
      ("rx_queues".toList, .integer 1)], by decide⟩)]
  sorted := by decide +kernel

/-- `fc01:fc::host/64`. Kind: C -/
def sampleNetwork (host : UInt8) : NetworkV6 :=
  ⟨⟨⟨[0xfc, 1, 0, 0xfc, 0, 0, 0, 0, 0, 0, 0, 0, 0, 0, 0, host], rfl⟩, 0⟩, 64⟩

/-- The names of the levels. Kind: C -/
def sampleLevelName : Level → Text
  | .trace => "trace".toList
  | .debug => "debug".toList
  | .info => "info".toList
  | .warn => "warning".toList
  | .err => "error".toList
  | .critical => "critical".toList
  | .off => "off".toList

/-- The level with a name; other texts turn the log off. Kind: C -/
def sampleLevel (name : Text) : Level :=
  ([.trace, .debug, .info, .warn, .err, .critical].find?
    fun l => sampleLevelName l = name).getD .off

/-- The text of a value. Kind: C -/
def sampleString : Option TomlValue → Option Text
  | some (.string s) => some s
  | _ => none

/-- The number of a value. Kind: C -/
def sampleInt : Option TomlValue → Option ℤ
  | some (.integer v) => integerCast v
  | _ => none

/-- The libraries on the texts of the sample. Kind: C -/
def sampleLibraries : Libraries where
  levelToStringView := sampleLevelName
  levelFromStr := sampleLevel
  tomlView := TomlTable.entryAt
  valueString := sampleString
  valueCString view := (sampleString view).map fun s => s.takeWhile (· ≠ '\x00')
  valueInt := sampleInt
  tomlParse text :=
    if text = sampleFile then .ok sampleTable
    else if text = sampleFileSciond then
      .ok (sampleTable.insertOrAssign "sciond".toList
        (.table (.ofList [("address".toList, .string "10.0.0.1:30255".toList)])))
    else if text = sampleDump then .ok sampleDumpTable
    else .error []
  tomlPrint tab := if tab = sampleDumpTable then sampleDump else []
  makeAddress text :=
    if text = "127.0.0.1".toList then .ok (.v4 ⟨⟨[127, 0, 0, 1], rfl⟩⟩)
    else if text = "10.0.0.1".toList then .ok (.v4 ⟨⟨[10, 0, 0, 1], rfl⟩⟩)
    else .error ⟨.asio, 22⟩
  makeNetworkV4 _ := .error ⟨.asio, 22⟩
  makeNetworkV6 text :=
    if text = "fc01:fc::2/64".toList then .ok (sampleNetwork 2)
    else if text = "fc01:fc::1/64".toList then .ok (sampleNetwork 1)
    else .error ⟨.asio, 22⟩
  networkV4ToString _ := []
  networkV6ToString n :=
    if n = sampleNetwork 2 then "fc01:fc::2/64".toList
    else if n = sampleNetwork 1 then "fc01:fc::1/64".toList
    else []

/-- The configuration of the file, but for the daemon endpoint. Kind: C -/
def sampleConfig (sciond : List.Vector UInt8 4) : TranslatorConfig where
  logLevel := .warn
  localIA := 0x000100000000fc00
  gatewayAddr := sampleNetwork 2
  hostAddr := sampleNetwork 1
  gatewayAddr4 := none
  hostAddr4 := none
  sciondEp := ⟨.v4 ⟨sciond⟩, 30255⟩
  tapName := "scion".toList
  hostInterface := "vpp0".toList
  hostIfQueues := 1

/-- The libraries of the sample are as documented. Kind: L -/
theorem sampleLibraries_documented : sampleLibraries.Documented where
  levelFromStr l := by cases l <;> decide
  levelNames l := by cases l <;> decide
  tomlView _ _ _ := rfl
  valueString _ := rfl
  valueString_none := rfl
  valueCString s hs := by
    refine congrArg some (List.takeWhile_eq_self_iff.mpr fun c hc => ?_)
    exact decide_eq_true fun hnull => hs (hnull ▸ hc)
  valueInt _ := rfl

/-- They read back what they print. Kind: L -/
theorem sampleLibraries_readBack (sciond : List.Vector UInt8 4) :
    LibrariesReadBack sampleLibraries (sampleConfig sciond) where
  __ := sampleLibraries_documented
  toml := by
    have hsame : dumpTable sampleLibraries (sampleConfig sciond)
        = dumpTable sampleLibraries (sampleConfig ⟨[127, 0, 0, 1], rfl⟩) := rfl
    rw [hsame]
    decide +kernel
  gatewayAddr := by
    show sampleLibraries.makeNetworkV6 (sampleLibraries.networkV6ToString (sampleNetwork 2))
      = .ok (sampleNetwork 2)
    decide +kernel
  hostAddr := by
    show sampleLibraries.makeNetworkV6 (sampleLibraries.networkV6ToString (sampleNetwork 1))
      = .ok (sampleNetwork 1)
    decide +kernel
  gatewayAddr4 n h := by cases h
  hostAddr4 n h := by cases h

/-- A sample that is read back. Kind: C -/
theorem loadConfig_dumpConfig_sample :
    loadConfig sampleLibraries (some (dumpConfig sampleLibraries
      (sampleConfig ⟨[127, 0, 0, 1], rfl⟩))) = .ok (sampleConfig ⟨[127, 0, 0, 1], rfl⟩) := by
  have hload : loadConfig sampleLibraries (some sampleFile)
      = .ok (sampleConfig ⟨[127, 0, 0, 1], rfl⟩) := by decide +kernel
  apply (loadConfig_dumpConfig_iff sampleLibraries hload (sampleLibraries_readBack _)).mpr
  exact ⟨by decide +kernel, by decide +kernel, by decide⟩

/-- **Not every configuration is read back**: the daemon endpoint `10.0.0.1:30255` is written as
`config.sciondEp` into a section that is not read, and comes back as the default. Kind: C -/
theorem loadConfig_dumpConfig_ne :
    ¬ ∀ (lib : Libraries) (file : Option Text) (c : TranslatorConfig),
      loadConfig lib file = .ok c → LibrariesReadBack lib c →
        loadConfig lib (some (dumpConfig lib c)) = .ok c := by
  intro hall
  have hload : loadConfig sampleLibraries (some sampleFileSciond)
      = .ok (sampleConfig ⟨[10, 0, 0, 1], rfl⟩) := by decide +kernel
  have hreload : loadConfig sampleLibraries (some (dumpConfig sampleLibraries
      (sampleConfig ⟨[10, 0, 0, 1], rfl⟩))) = .ok (sampleConfig ⟨[127, 0, 0, 1], rfl⟩) := by
    decide +kernel
  have hsame := hall sampleLibraries _ _ hload (sampleLibraries_readBack _)
  rw [hreload] at hsame
  have haddr : sampleConfig ⟨[127, 0, 0, 1], rfl⟩ ≠ sampleConfig ⟨[10, 0, 0, 1], rfl⟩ := by
    decide +kernel
  exact haddr (Except.ok.inj hsame)

end ScionIp.Vpp
