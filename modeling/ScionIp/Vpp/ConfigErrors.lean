import ScionIp.Vpp.StartupErrors
import ScionIp.Vpp.Endpoint

/-!
# Errors in the configuration file

`init` has one handler around `loadConfig`, for `std::runtime_error`. The errors of the file system,
of the TOML and the network library and `ConfigError` are of that class. The two exceptions
`parseEndpoint` itself throws are not, and on a text without a colon it has no behaviour at all.

* `Escapes` — a computation fails in a way the handler does not catch.
* `loadConfig_escapes_iff` — the files on which `loadConfig` does.
* `reportsBadFile_iff` — on the other files `init` returns, as long as the waits of the start-up
  end, unless the IPv4 address is missing when the map is written (`init_failures`).
-/

namespace ScionIp.Vpp

open ScionIp.Lib

/-! ## What the handler does not catch -/

/-- The computation fails, and the handler does not catch it. Kind: D -/
def Escapes {α : Type} (x : Cpp α) : Prop :=
  ∃ failure, x = .error failure ∧ failure.isRuntimeError = false

section Escapes

variable {α β : Type} {lib : Libraries}

/-- A result. Kind: L -/
theorem not_escapes_ok (a : α) : ¬ Escapes (.ok a : Cpp α) := by
  rintro ⟨failure, h, -⟩
  cases h

/-- An exception the handler names. Kind: L -/
theorem not_escapes_thrown {exc : CppException} (h : exc.isRuntimeError = true) :
    ¬ Escapes (.error (.thrown exc) : Cpp α) := by
  rintro ⟨failure, heq, hno⟩
  obtain rfl := Except.error.inj heq
  exact absurd h (Bool.eq_false_iff.mp hno)

/-- A failure the handler does not name. Kind: L -/
theorem escapes_error {failure : Failure} (h : failure.isRuntimeError = false) :
    Escapes (.error failure : Cpp α) := ⟨failure, rfl, h⟩

/-- One statement after another. Kind: L -/
theorem escapes_bind_iff (x : Cpp α) (f : α → Cpp β) :
    Escapes (x >>= f) ↔ Escapes x ∨ ∃ a, x = .ok a ∧ Escapes (f a) := by
  simp only [Escapes, bind_eq_error_iff]
  constructor
  · rintro ⟨failure, h | ⟨a, hx, hf⟩, hno⟩
    · exact .inl ⟨failure, h, hno⟩
    · exact .inr ⟨a, hx, failure, hf, hno⟩
  · rintro (⟨failure, h, hno⟩ | ⟨a, hx, failure, hf, hno⟩)
    · exact ⟨failure, .inl h, hno⟩
    · exact ⟨failure, .inr ⟨a, hx, hf⟩, hno⟩

/-- A statement nothing escapes from, and the rest. Kind: L -/
theorem escapes_bind_iff_of_not {x : Cpp α} (hx : ¬ Escapes x) (f : α → Cpp β) :
    Escapes (x >>= f) ↔ ∃ a, x = .ok a ∧ Escapes (f a) := by
  rw [escapes_bind_iff, or_iff_right hx]

/-- An error of the network library is caught. Kind: L -/
theorem not_escapes_orThrow (what : String) (x : Except ErrorCode α) :
    ¬ Escapes (orThrow what x) := by
  cases x with
  | ok a => exact not_escapes_ok a
  | error code => exact not_escapes_thrown rfl

/-- A field that is missing is reported. Kind: L -/
theorem not_escapes_required (view : Option TomlValue) (message : String) :
    ¬ Escapes (required lib view message) := by
  rw [required]
  cases lib.valueString view with
  | none => exact not_escapes_thrown rfl
  | some s => exact not_escapes_ok s

/-- An ISD-ASN that is not accepted is reported. Kind: L -/
theorem not_escapes_parseLocalIA (isdAsn : Text) : ¬ Escapes (parseLocalIA isdAsn) := by
  rw [parseLocalIA]
  cases IsdAsn.parse isdAsn with
  | error err => exact not_escapes_thrown rfl
  | ok ia => exact not_escapes_ok ia

/-- An IPv4 network that is not accepted is reported. Kind: L -/
theorem not_escapes_optionalV4 (view : Option TomlValue) : ¬ Escapes (optionalV4 lib view) := by
  rw [optionalV4]
  cases lib.valueString view with
  | none => exact not_escapes_ok none
  | some s =>
      show ¬ Escapes (some <$> orThrow "make_network_v4" (lib.makeNetworkV4 s))
      cases lib.makeNetworkV4 s with
      | error code => exact @not_escapes_thrown _ (.system_error code "make_network_v4") rfl
      | ok n => exact not_escapes_ok (some n)

/-- One IPv4 network without the other is reported. Kind: L -/
theorem not_escapes_bothOrNone (gatewayAddr4 hostAddr4 : Option NetworkV4) :
    ¬ Escapes (bothOrNone gatewayAddr4 hostAddr4) := by
  rw [bothOrNone]
  split_ifs
  · exact not_escapes_thrown rfl
  · exact not_escapes_ok ()

/-- **The endpoint texts that end the program**: no colon, a bracket that is not closed, or
something else than digits behind the last colon. Kind: D -/
def BreaksEndpoint (raw : Text) : Prop :=
  ':' ∉ raw ∨ ∃ addr port, raw = addr ++ ':' :: port ∧ ':' ∉ port ∧
    ((addr.head? = some '[' ∧ addr.getLast? ≠ some ']') ∨ ¬ IsPort port)

/-- The brackets. Kind: L -/
theorem stripBrackets_escapes_iff (addr : Text) :
    Escapes (stripBrackets addr) ↔ addr.head? = some '[' ∧ addr.getLast? ≠ some ']' := by
  rw [stripBrackets]
  by_cases hopen : addr.head? = some '['
  · rw [if_pos hopen, and_iff_right hopen]
    by_cases hclose : addr.getLast? ≠ some ']'
    · rw [if_pos hclose]
      exact iff_of_true (escapes_error rfl) hclose
    · rw [if_neg hclose]
      exact iff_of_false (not_escapes_ok _) hclose
  · rw [if_neg hopen]
    exact iff_of_false (not_escapes_ok addr) (fun h => hopen h.1)

/-- The port. Kind: L -/
theorem parsePort_escapes_iff (port : Text) : Escapes (parsePort port) ↔ ¬ IsPort port := by
  rw [isPort_iff, not_not, parsePort_eq]
  by_cases hbad : port.isEmpty = true ∨ (digitRun 10 port).length ≠ port.length
  · rw [if_pos hbad]
    exact iff_of_true (escapes_error rfl) hbad
  · rw [if_neg hbad]
    exact iff_of_false (not_escapes_ok _) hbad

/-- **What escapes from `parseEndpoint`.** Kind: L -/
theorem parseEndpoint_escapes_iff (raw : Text) :
    Escapes (parseEndpoint lib raw) ↔ BreaksEndpoint raw := by
  by_cases hcolon : ':' ∈ raw
  swap
  · rw [parseEndpoint_of_no_colon hcolon]
    exact iff_of_true (escapes_error rfl) (.inl hcolon)
  obtain ⟨parts, hsplit⟩ := Option.ne_none_iff_exists'.mp
    (mt (splitLastColon_eq_none_iff raw).mp (not_not.mpr hcolon))
  obtain ⟨addr, port⟩ := parts
  have hparts := (splitLastColon_eq_some_iff raw addr port).mp hsplit
  obtain ⟨rfl, hlast⟩ := hparts
  have hbehind : ∀ host, Escapes (do
      let portNum ← parsePort port
      let address ← orThrow "make_address" (lib.makeAddress host)
      return (⟨address, portNum⟩ : Endpoint)) ↔ ¬ IsPort port := by
    intro host
    rw [escapes_bind_iff, parsePort_escapes_iff, or_iff_left]
    rintro ⟨portNum, -, hrest⟩
    obtain ⟨address, -, hrest⟩ := (escapes_bind_iff_of_not (not_escapes_orThrow _ _) _).mp hrest
    exact not_escapes_ok _ hrest
  rw [parseEndpoint_append hlast, escapes_bind_iff, stripBrackets_escapes_iff]
  simp only [hbehind]
  constructor
  · rintro (hbracket | ⟨host, -, hport⟩)
    · exact .inr ⟨addr, port, rfl, hlast, .inl hbracket⟩
    · exact .inr ⟨addr, port, rfl, hlast, .inr hport⟩
  · rintro (hno | ⟨addr', port', hraw, hlast', hbad⟩)
    · exact absurd hcolon hno
    · have hsame := (splitLastColon_eq_some_iff _ addr' port').mpr ⟨hraw, hlast'⟩
      rw [hsplit] at hsame
      obtain ⟨rfl, rfl⟩ := Prod.mk.inj (Option.some.inj hsame)
      by_cases hbracket : addr.head? = some '[' ∧ addr.getLast? ≠ some ']'
      · exact .inl hbracket
      · refine .inr ?_
        cases hstrip : stripBrackets addr with
        | ok host => exact ⟨host, rfl, hbad.resolve_left hbracket⟩
        | error failure =>
            refine absurd ((stripBrackets_escapes_iff addr).mp ⟨failure, hstrip, ?_⟩) hbracket
            rw [stripBrackets_eq_error hstrip]
            rfl

end Escapes

/-! ## The files -/

/-- **The section `translator` is accepted**, all of whose fields are read before the endpoint.
Kind: D -/
structure TranslatorAccepted (lib : Libraries) (tab : TomlTable) : Prop where
  isdAsn : ∃ raw ia, lib.valueString (lib.tomlView tab "translator" "isd_asn") = some raw ∧
    IsdAsn.parse raw = .ok ia
  gatewayAddr : ∃ raw n, lib.valueString (lib.tomlView tab "translator" "gateway_addr") = some raw ∧
    lib.makeNetworkV6 raw = .ok n
  hostAddr : ∃ raw n, lib.valueString (lib.tomlView tab "translator" "host_addr") = some raw ∧
    lib.makeNetworkV6 raw = .ok n
  gatewayAddr4 : ∀ raw, lib.valueString (lib.tomlView tab "translator" "gateway_addr4") = some raw →
    ∃ n, lib.makeNetworkV4 raw = .ok n
  hostAddr4 : ∀ raw, lib.valueString (lib.tomlView tab "translator" "host_addr4") = some raw →
    ∃ n, lib.makeNetworkV4 raw = .ok n
  both : (lib.valueString (lib.tomlView tab "translator" "gateway_addr4")).isSome
    = (lib.valueString (lib.tomlView tab "translator" "host_addr4")).isSome

/-- The text of the daemon endpoint. Kind: D -/
def sciondText (lib : Libraries) (tab : TomlTable) : Text :=
  (lib.valueString (lib.tomlView tab "sciond" "address")).getD DEFAULT_SCIOND

section Files

variable {lib : Libraries}

/-- A field that is there. Kind: L -/
theorem required_eq_ok_iff (view : Option TomlValue) (message : String) (raw : Text) :
    required lib view message = .ok raw ↔ lib.valueString view = some raw := by
  rw [required]
  cases lib.valueString view with
  | none => exact iff_of_false (fun h => by cases h) (fun h => by cases h)
  | some s => rw [Except.ok.injEq, Option.some.injEq]

/-- An ISD-ASN that is accepted. Kind: L -/
theorem parseLocalIA_eq_ok_iff (raw : Text) (ia : UInt64) :
    parseLocalIA raw = .ok ia ↔ IsdAsn.parse raw = .ok ia := by
  rw [parseLocalIA]
  cases IsdAsn.parse raw with
  | error err => exact iff_of_false (fun h => by cases h) (fun h => by cases h)
  | ok ia' =>
      show (.ok ia' : Cpp UInt64) = .ok ia ↔ _
      rw [Except.ok.injEq, Except.ok.injEq]

/-- An IPv4 network that is accepted, or left out. Kind: L -/
theorem exists_optionalV4_iff (view : Option TomlValue) :
    (∃ network, optionalV4 lib view = .ok network) ↔
      ∀ raw, lib.valueString view = some raw → ∃ n, lib.makeNetworkV4 raw = .ok n := by
  rw [optionalV4]
  cases lib.valueString view with
  | none =>
      refine iff_of_true ⟨none, rfl⟩ ?_
      intro raw h
      cases h
  | some s =>
      constructor
      · rintro ⟨network, h⟩ raw hraw
        obtain rfl := Option.some.inj hraw
        cases hmake : lib.makeNetworkV4 s with
        | ok n => exact ⟨n, rfl⟩
        | error code =>
            simp only [hmake] at h
            cases h
      · intro h
        obtain ⟨n, hn⟩ := h s rfl
        refine ⟨some n, ?_⟩
        simp only [hn]
        rfl

/-- Whether there is a network. Kind: L -/
theorem isSome_of_optionalV4 {view : Option TomlValue} {network : Option NetworkV4}
    (h : optionalV4 lib view = .ok network) : network.isSome = (lib.valueString view).isSome := by
  rw [optionalV4] at h
  cases hview : lib.valueString view with
  | none =>
      rw [hview] at h
      exact Except.ok.inj h ▸ rfl
  | some s =>
      simp only [hview] at h
      cases hmake : lib.makeNetworkV4 s with
      | ok n =>
          rw [hmake] at h
          exact Except.ok.inj h ▸ rfl
      | error code =>
          rw [hmake] at h
          cases h

/-- Both networks or none. Kind: L -/
theorem bothOrNone_eq_ok_iff (gateway host : Option NetworkV4) :
    bothOrNone gateway host = .ok () ↔ gateway.isSome = host.isSome := by
  rw [bothOrNone]
  by_cases h : gateway.isSome = host.isSome
  · rw [if_neg (not_not.mpr h)]
    exact iff_of_true rfl h
  · rw [if_pos h]
    exact iff_of_false (fun h => by cases h) h

/-- **What escapes from the statements behind `toml::parse`**: what escapes from `parseEndpoint`, if
it is called. Kind: L -/
theorem loadTable_escapes_iff (tab : TomlTable) :
    Escapes (loadTable lib tab) ↔ TranslatorAccepted lib tab ∧ BreaksEndpoint (sciondText lib tab) := by
  rw [← @parseEndpoint_escapes_iff lib]
  constructor
  · intro h
    unfold loadTable at h
    obtain ⟨isdAsn, hisdAsn, h⟩ := (escapes_bind_iff_of_not (not_escapes_required _ _) _).mp h
    obtain ⟨ia, hia, h⟩ := (escapes_bind_iff_of_not (not_escapes_parseLocalIA _) _).mp h
    obtain ⟨gateway, hgateway, h⟩ := (escapes_bind_iff_of_not (not_escapes_required _ _) _).mp h
    obtain ⟨gatewayAddr, hgatewayAddr, h⟩ :=
      (escapes_bind_iff_of_not (not_escapes_orThrow _ _) _).mp h
    obtain ⟨host, hhost, h⟩ := (escapes_bind_iff_of_not (not_escapes_required _ _) _).mp h
    obtain ⟨hostAddr, hhostAddr, h⟩ := (escapes_bind_iff_of_not (not_escapes_orThrow _ _) _).mp h
    obtain ⟨gateway4, hgateway4, h⟩ := (escapes_bind_iff_of_not (not_escapes_optionalV4 _) _).mp h
    obtain ⟨host4, hhost4, h⟩ := (escapes_bind_iff_of_not (not_escapes_optionalV4 _) _).mp h
    obtain ⟨_, hboth, h⟩ := (escapes_bind_iff_of_not (not_escapes_bothOrNone _ _) _).mp h
    refine ⟨⟨⟨isdAsn, ia, (required_eq_ok_iff _ _ _).mp hisdAsn,
        (parseLocalIA_eq_ok_iff _ _).mp hia⟩,
      ⟨gateway, gatewayAddr, (required_eq_ok_iff _ _ _).mp hgateway,
        (orThrow_eq_ok_iff _ _ _).mp hgatewayAddr⟩,
      ⟨host, hostAddr, (required_eq_ok_iff _ _ _).mp hhost,
        (orThrow_eq_ok_iff _ _ _).mp hhostAddr⟩,
      (exists_optionalV4_iff _).mp ⟨gateway4, hgateway4⟩,
      (exists_optionalV4_iff _).mp ⟨host4, hhost4⟩, ?_⟩, ?_⟩
    · rw [← isSome_of_optionalV4 hgateway4, ← isSome_of_optionalV4 hhost4]
      exact (bothOrNone_eq_ok_iff gateway4 host4).mp hboth
    -- behind the endpoint only a missing interface is left, which is reported
    · rcases (escapes_bind_iff _ _).mp h with hendpoint | ⟨sciondEp, -, h⟩
      · exact hendpoint
      · obtain ⟨_, -, h⟩ := (escapes_bind_iff_of_not (not_escapes_required _ _) _).mp h
        exact absurd h (not_escapes_ok _)
  · rintro ⟨⟨⟨isdAsn, ia, hisdAsn, hia⟩, ⟨gateway, gatewayAddr, hgateway, hgatewayAddr⟩,
      ⟨host, hostAddr, hhost, hhostAddr⟩, hgateway4, hhost4, hboth⟩, h⟩
    obtain ⟨gateway4, hgateway4⟩ := (exists_optionalV4_iff _).mpr hgateway4
    obtain ⟨host4, hhost4⟩ := (exists_optionalV4_iff _).mpr hhost4
    rw [← isSome_of_optionalV4 hgateway4, ← isSome_of_optionalV4 hhost4] at hboth
    unfold loadTable
    rw [(required_eq_ok_iff _ _ _).mpr hisdAsn, ok_bind, (parseLocalIA_eq_ok_iff _ _).mpr hia,
      ok_bind, (required_eq_ok_iff _ _ _).mpr hgateway, ok_bind,
      (orThrow_eq_ok_iff _ _ _).mpr hgatewayAddr, ok_bind,
      (required_eq_ok_iff _ _ _).mpr hhost, ok_bind, (orThrow_eq_ok_iff _ _ _).mpr hhostAddr,
      ok_bind, hgateway4, ok_bind, hhost4, ok_bind, (bothOrNone_eq_ok_iff _ _).mpr hboth, ok_bind]
    exact (escapes_bind_iff _ _).mpr (.inl h)

/-- **The files that end the program**: one that is read and whose section `translator` is accepted,
but whose daemon endpoint has no colon, a bracket that is not closed, or something else than digits
behind the last colon. Kind: D -/
def EndsProgram (lib : Libraries) (file : Option Text) : Prop :=
  ∃ text tab, file = some text ∧ lib.tomlParse text = .ok tab ∧ TranslatorAccepted lib tab ∧
    BreaksEndpoint (sciondText lib tab)

/-- **What escapes from `loadConfig`.** Kind: L -/
theorem loadConfig_escapes_iff (file : Option Text) :
    Escapes (loadConfig lib file) ↔ EndsProgram lib file := by
  unfold loadConfig EndsProgram
  cases file with
  | none =>
      refine iff_of_false (not_escapes_thrown rfl) ?_
      rintro ⟨text, tab, h, -⟩
      cases h
  | some text =>
      cases hparse : lib.tomlParse text with
      | error what =>
          simp only [hparse]
          refine iff_of_false (not_escapes_thrown rfl) ?_
          rintro ⟨text', tab, h, hok, -⟩
          obtain rfl := Option.some.inj h
          rw [hparse] at hok
          cases hok
      | ok tab =>
          simp only [hparse, loadTable_escapes_iff]
          constructor
          · rintro ⟨haccepted, hbreaks⟩
            exact ⟨text, tab, rfl, hparse, haccepted, hbreaks⟩
          · rintro ⟨text', tab', h, hok, hrest⟩
            obtain rfl := Option.some.inj h
            rw [hparse] at hok
            obtain rfl := Except.ok.inj hok
            exact hrest

end Files

/-! ## When a bad file is reported -/

/-- **A bad file is reported**: `init` returns, and if `loadConfig` fails it returns false.
Kind: D -/
structure ReportsBadFile (lib : Libraries) (env : Externals) (file : Option Text) : Prop where
  returns : ∃ b m, init lib env file Manager.start = .ok b m
  rejected : ∀ failure, loadConfig lib file = .error failure →
    init lib env file Manager.start = .ok false Manager.start

/-- **The files that lead to an empty optional**: one that is accepted but has no IPv4 addresses,
when the map of the custom XDP program is opened. Kind: D -/
def LacksAddr4 (lib : Libraries) (env : Externals) (file : Option Text) : Prop :=
  ∃ config, loadConfig lib file = .ok config ∧ MissesAddr4 env config

/-- `init` without a configuration. Kind: L -/
theorem init_of_error {lib : Libraries} {file : Option Text} {failure : Failure}
    (h : loadConfig lib file = .error failure) (env : Externals) (m : Manager) :
    init lib env file m = .ok false m ↔ failure.isRuntimeError = true := by
  have hinit : init lib env file m = returnFalseOn Failure.isRuntimeError failure m := by
    unfold init
    rw [h]
  rw [hinit, returnFalseOn]
  by_cases hruntime : failure.isRuntimeError = true
  · rw [if_pos hruntime]
    exact iff_of_true rfl hruntime
  · rw [if_neg hruntime]
    exact iff_of_false (fun h => by cases h) hruntime

/-- **When a bad configuration file is reported.** For every file, and every outcome of the external
calls in which the waits end: exactly if it is none of the files that end the program or lead to an
empty optional. Kind: P -/
theorem reportsBadFile_iff (lib : Libraries) {env : Externals} (hwaits : env.WaitsEnd)
    (file : Option Text) :
    ReportsBadFile lib env file ↔ ¬ EndsProgram lib file ∧ ¬ LacksAddr4 lib env file := by
  rw [← loadConfig_escapes_iff]
  cases hload : loadConfig lib file with
  | error failure =>
      have hlacks : ¬ LacksAddr4 lib env file := by
        rintro ⟨config, hok, -⟩
        rw [hload] at hok
        cases hok
      rw [and_iff_left hlacks]
      constructor
      · rintro ⟨-, hrejected⟩ ⟨failure', heq, hno⟩
        obtain rfl := Except.error.inj heq
        have hruntime := (init_of_error hload env Manager.start).mp (hrejected _ hload)
        rw [hruntime] at hno
        cases hno
      · intro hcaught
        have hruntime : failure.isRuntimeError = true := by
          by_contra hno
          exact hcaught ⟨failure, rfl, Bool.eq_false_iff.mpr hno⟩
        have hfalse := (init_of_error hload env Manager.start).mpr hruntime
        exact ⟨⟨false, _, hfalse⟩, fun _ _ => hfalse⟩
  | ok config =>
      have hlacks : LacksAddr4 lib env file ↔ MissesAddr4 env config := by
        constructor
        · rintro ⟨config', hok, hmisses⟩
          rw [hload] at hok
          exact Except.ok.inj hok ▸ hmisses
        · exact fun hmisses => ⟨config, hload, hmisses⟩
      rw [hlacks, and_iff_right (not_escapes_ok config)]
      have hends := init_failures env hload
      constructor
      · rintro ⟨⟨b, m, hinit⟩, -⟩
        exact (hends.of_ok hinit).1
      · intro hno
        refine ⟨?_, fun failure herr => by rw [hload] at herr; cases herr⟩
        cases hinit : init lib env file Manager.start with
        | ok b m => exact ⟨b, m, rfl⟩
        | error failure m =>
            rcases hends.of_error hinit with ⟨hmisses, -⟩ | ⟨-, -, -, hstuck⟩
            · exact absurd hmisses hno
            · exact absurd hwaits hstuck

/-- The waits of the sample end. Kind: L -/
theorem sampleExternals_waitsEnd (xdpDelete : VapiReply) : (sampleExternals xdpDelete).WaitsEnd := by
  have hwait : ∀ index, (sampleReply index).WaitEnds := fun index h => by cases h
  exact ⟨hwait 1, hwait 1, hwait 2, hwait 2⟩

/-- `init` returns on the sample file. Kind: C -/
theorem reportsBadFile_sample :
    ReportsBadFile sampleLibraries (sampleExternals (sampleReply 2)) (some sampleFile) := by
  apply (reportsBadFile_iff sampleLibraries (sampleExternals_waitsEnd (sampleReply 2)) _).mpr
  have hload : loadConfig sampleLibraries (some sampleFile)
      = .ok (sampleConfig ⟨[127, 0, 0, 1], rfl⟩) := by decide +kernel
  refine ⟨?_, ?_⟩
  · rw [← loadConfig_escapes_iff, hload]
    exact not_escapes_ok _
  · rintro ⟨config, -, -, -, info, hinfo, -⟩
    cases hinfo

/-- A file with a daemon endpoint without a port. Kind: C -/
def sampleFileNoPort : Text :=
  "[sciond]\naddress = \"10.0.0.1:\"\n\n".toList ++ sampleFile

/-- The libraries of the sample, which read this file as well. Kind: C -/
def sampleLibrariesNoPort : Libraries where
  __ := sampleLibraries
  tomlParse text :=
    if text = sampleFileNoPort then
      .ok (sampleTable.insertOrAssign "sciond".toList
        (.table (.ofList [("address".toList, .string "10.0.0.1:".toList)])))
    else sampleLibraries.tomlParse text

/-- **A bad file can end the program**: a daemon endpoint without a port makes `parseEndpoint` throw
`std::out_of_range`, which is no `std::runtime_error`. Kind: C -/
theorem bad_file_ends_program :
    loadConfig sampleLibrariesNoPort (some sampleFileNoPort)
        = .error (.thrown (.out_of_range "invalid port in network address")) ∧
      ¬ ReportsBadFile sampleLibrariesNoPort (sampleExternals (sampleReply 2))
        (some sampleFileNoPort) := by
  have hload : loadConfig sampleLibrariesNoPort (some sampleFileNoPort)
      = .error (.thrown (.out_of_range "invalid port in network address")) := by decide +kernel
  refine ⟨hload, ?_⟩
  rintro ⟨-, hrejected⟩
  have hfalse := hrejected _ hload
  rw [init_of_error hload] at hfalse
  cases hfalse

end ScionIp.Vpp
