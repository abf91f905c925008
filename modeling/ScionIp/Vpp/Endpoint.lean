import ScionIp.Lib.Cut
import ScionIp.Vpp.AsnGrammar
import ScionIp.Vpp.Config

/-!
# Which texts are endpoints

* `EndpointText` — the texts of endpoints: an address, a colon, and a port of 16 bits.
* `parseEndpoint_eq_ok_iff` — what `parseEndpoint` accepts. A port of more than 16 bits is among it,
  because `std::from_chars` consumes its digits and leaves a zero.
* `parsesEndpoint_iff` — it accepts the texts of endpoints and throws on the other ones, exactly if
  there is a colon and no such port.
-/

namespace ScionIp.Vpp

open ScionIp.Lib

/-! ## The texts -/

/-- The text of an address with or without a pair of brackets around it. Kind: D -/
def Unbracketed (addr host : Text) : Prop :=
  (addr.head? ≠ some '[' ∧ host = addr) ∨ addr = '[' :: (host ++ [']'])

/-- A port number, of any size. Kind: D -/
def IsPort (port : Text) : Prop := port ≠ [] ∧ AllDigits 10 port

instance (port : Text) : Decidable (IsPort port) := inferInstanceAs (Decidable (_ ∧ _))

/-- **The text of an endpoint.** Kind: D -/
def EndpointText (lib : Libraries) (raw : Text) (ep : Endpoint) : Prop :=
  ∃ addr port host, raw = addr ++ ':' :: port ∧ ':' ∉ port ∧ IsPort port ∧
    valOf 10 port ≤ 65535 ∧ Unbracketed addr host ∧ lib.makeAddress host = .ok ep.address ∧
    ep.port.toNat = valOf 10 port

/-- The text of an endpoint but for its port, which is too large. Kind: D -/
def OversizedPort (lib : Libraries) (raw : Text) : Prop :=
  ∃ addr port host, raw = addr ++ ':' :: port ∧ ':' ∉ port ∧ IsPort port ∧
    65535 < valOf 10 port ∧ Unbracketed addr host ∧ ∃ address, lib.makeAddress host = .ok address

/-! ## The pieces of the parser -/

/-- **The last colon.** Kind: L -/
theorem splitLastColon_eq_some_iff (raw addr port : Text) :
    splitLastColon raw = some (addr, port) ↔ raw = addr ++ ':' :: port ∧ ':' ∉ port := by
  have hreverse : raw = addr ++ ':' :: port ↔
      raw.reverse = port.reverse ++ ':' :: addr.reverse := by
    rw [← List.reverse_inj]
    simp
  rw [hreverse, ← @List.mem_reverse _ _ port, ← cut_iff, splitLastColon]
  cases hrest : raw.reverse.dropWhile (· ≠ ':') with
  | nil => exact iff_of_false (fun h => by cases h) (fun h => by cases h.2)
  | cons c rest =>
      obtain rfl := head_of_dropWhile_ne hrest
      rw [Option.some.injEq, Prod.mk.injEq, List.cons.injEq, and_iff_right rfl,
        List.reverse_eq_iff, List.reverse_eq_iff, and_comm]

/-- A text without a colon. Kind: L -/
theorem splitLastColon_eq_none_iff (raw : Text) : splitLastColon raw = none ↔ ':' ∉ raw := by
  rw [← List.mem_reverse, ← dropWhile_ne_eq_nil_iff, splitLastColon]
  cases raw.reverse.dropWhile (· ≠ ':') with
  | nil => exact iff_of_true rfl rfl
  | cons c rest => exact iff_of_false (fun h => by cases h) (fun h => by cases h)

/-- **The brackets.** Kind: L -/
theorem stripBrackets_eq_ok_iff (addr host : Text) :
    stripBrackets addr = .ok host ↔ Unbracketed addr host := by
  rw [stripBrackets, Unbracketed]
  by_cases hopen : addr.head? = some '['
  · obtain ⟨rest, rfl⟩ := List.head?_eq_some_iff.mp hopen
    rw [if_pos hopen, or_iff_right (fun h => h.1 hopen)]
    by_cases hclose : ('[' :: rest).getLast? = some ']'
    · rw [if_neg (not_not.mpr hclose), Except.ok.injEq, List.tail_cons, List.cons.injEq,
        and_iff_right rfl]
      have hne : rest ≠ [] := by
        rintro rfl
        cases hclose
      obtain ⟨inner, rfl⟩ : ∃ inner, rest = inner ++ [']'] := by
        rw [List.getLast?_cons_of_ne_nil hne] at hclose
        exact List.getLast?_eq_some_iff.mp hclose
      rw [List.dropLast_concat, List.append_left_inj]
    · rw [if_pos hclose]
      refine iff_of_false (fun h => by cases h) ?_
      intro h
      apply hclose
      rw [h, ← List.cons_append, List.getLast?_concat]
  · rw [if_neg hopen, Except.ok.injEq, and_iff_right hopen, eq_comm, or_iff_left]
    rintro rfl
    exact hopen rfl

/-- The brackets that do not match. Kind: L -/
theorem stripBrackets_eq_error {addr : Text} {failure : Failure}
    (h : stripBrackets addr = .error failure) :
    failure = .thrown (.invalid_argument "invalid network address") := by
  rw [stripBrackets] at h
  split_ifs at h
  exact (Except.error.inj h).symm

/-- The test of a port, and its value. Kind: L -/
theorem parsePort_eq (port : Text) :
    parsePort port =
      if port.isEmpty ∨ (digitRun 10 port).length ≠ port.length then
        .error (.thrown (.out_of_range "invalid port in network address"))
      else .ok (if valOf 10 (digitRun 10 port) < 2 ^ 16
        then UInt16.ofNat (valOf 10 (digitRun 10 port)) else 0) := rfl

/-- The test of a port is passed by digits, whatever their number. Kind: L -/
theorem isPort_iff (port : Text) :
    IsPort port ↔ ¬ (port.isEmpty = true ∨ (digitRun 10 port).length ≠ port.length) := by
  rw [List.isEmpty_iff, not_or, not_not, length_digitRun_eq_iff]
  rfl

/-- **The port**: one of more than 16 bits is read as zero. Kind: L -/
theorem parsePort_eq_ok_iff (port : Text) (n : UInt16) :
    parsePort port = .ok n ↔
      IsPort port ∧ n.toNat = if valOf 10 port ≤ 65535 then valOf 10 port else 0 := by
  rw [parsePort_eq]
  by_cases hport : IsPort port
  · have hrun : digitRun 10 port = port := List.takeWhile_eq_self_iff.mpr hport.2
    rw [if_neg ((isPort_iff port).mp hport), hrun, Except.ok.injEq, and_iff_right hport, eq_comm,
      ← UInt16.toNat_inj]
    by_cases hfits : valOf 10 port < 2 ^ 16
    · rw [if_pos hfits, if_pos (Nat.le_of_lt_succ hfits), UInt16.toNat_ofNat_of_lt' hfits]
    · rw [if_neg hfits, if_neg (fun h => hfits (Nat.lt_succ_of_le h))]
      rfl
  · rw [if_pos (not_not.mp (mt (isPort_iff port).mpr hport))]
    exact iff_of_false (fun h => by cases h) (fun h => hport h.1)

/-- A text that is no port. Kind: L -/
theorem parsePort_eq_error {port : Text} {failure : Failure}
    (h : parsePort port = .error failure) :
    failure = .thrown (.out_of_range "invalid port in network address") := by
  rw [parsePort_eq] at h
  split_ifs at h
  exact (Except.error.inj h).symm

/-! ## The parser -/

section Parser

variable {lib : Libraries} {raw : Text}

/-- The statements behind the cut at the last colon. Kind: L -/
theorem parseEndpoint_append {addr port : Text} (hcolon : ':' ∉ port) :
    parseEndpoint lib (addr ++ ':' :: port) = (do
      let host ← stripBrackets addr
      let portNum ← parsePort port
      let address ← orThrow "make_address" (lib.makeAddress host)
      return ⟨address, portNum⟩) := by
  rw [parseEndpoint, (splitLastColon_eq_some_iff _ addr port).mpr ⟨rfl, hcolon⟩]

/-- A call of `asio` that returns. Kind: L -/
theorem orThrow_eq_ok_iff {α : Type} (what : String) (x : Except ErrorCode α) (a : α) :
    orThrow what x = .ok a ↔ x = .ok a := by
  rw [orThrow]
  cases x with
  | ok b => rw [Except.mapError, Except.ok.injEq, Except.ok.injEq]
  | error code => exact iff_of_false (fun h => by cases h) (fun h => by cases h)

/-- **What `parseEndpoint` accepts**: the texts of endpoints, and those whose port is too large,
with the port zero. Kind: L -/
theorem parseEndpoint_eq_ok_iff (ep : Endpoint) :
    parseEndpoint lib raw = .ok ep ↔
      ∃ addr port host, raw = addr ++ ':' :: port ∧ ':' ∉ port ∧ IsPort port ∧
        Unbracketed addr host ∧ lib.makeAddress host = .ok ep.address ∧
        ep.port.toNat = if valOf 10 port ≤ 65535 then valOf 10 port else 0 := by
  constructor
  · intro h
    cases hsplit : splitLastColon raw with
    | none =>
        rw [parseEndpoint, hsplit] at h
        cases h
    | some parts =>
        obtain ⟨addr, port⟩ := parts
        obtain ⟨rfl, hcolon⟩ := (splitLastColon_eq_some_iff raw addr port).mp hsplit
        rw [parseEndpoint_append hcolon] at h
        obtain ⟨host, hhost, h⟩ := bind_eq_ok_iff.mp h
        obtain ⟨portNum, hport, h⟩ := bind_eq_ok_iff.mp h
        obtain ⟨address, haddress, h⟩ := bind_eq_ok_iff.mp h
        obtain rfl := Except.ok.inj h
        obtain ⟨hisPort, hvalue⟩ := (parsePort_eq_ok_iff port portNum).mp hport
        exact ⟨addr, port, host, rfl, hcolon, hisPort, (stripBrackets_eq_ok_iff addr host).mp hhost,
          (orThrow_eq_ok_iff _ _ _).mp haddress, hvalue⟩
  · rintro ⟨addr, port, host, rfl, hcolon, hisPort, hhost, haddress, hvalue⟩
    rw [parseEndpoint_append hcolon, (stripBrackets_eq_ok_iff addr host).mpr hhost, ok_bind,
      (parsePort_eq_ok_iff port ep.port).mpr ⟨hisPort, hvalue⟩, ok_bind,
      (orThrow_eq_ok_iff _ _ _).mpr haddress, ok_bind]
    rfl

/-- What is thrown on a text with a colon: one exception for each statement. Kind: L -/
theorem parseEndpoint_raises (hcolon : ':' ∈ raw) :
    RaisesOnly (fun failure => ∃ exc, failure = .thrown exc) (parseEndpoint lib raw) := by
  cases hsplit : splitLastColon raw with
  | none => exact absurd hcolon ((splitLastColon_eq_none_iff raw).mp hsplit)
  | some parts =>
      obtain ⟨addr, port⟩ := parts
      obtain ⟨rfl, hnot⟩ := (splitLastColon_eq_some_iff raw addr port).mp hsplit
      rw [parseEndpoint_append hnot]
      apply RaisesOnly.bind
      · intro failure h
        exact ⟨_, stripBrackets_eq_error h⟩
      intro host _
      apply RaisesOnly.bind
      · intro failure h
        exact ⟨_, parsePort_eq_error h⟩
      intro portNum _
      apply RaisesOnly.bind
      · intro failure h
        cases hmake : lib.makeAddress host with
        | ok address =>
            rw [(orThrow_eq_ok_iff _ _ _).mpr hmake] at h
            cases h
        | error code =>
            rw [hmake] at h
            exact ⟨_, (Except.error.inj h).symm⟩
      intro address _
      exact RaisesOnly.ok _

/-- A text without a colon. Kind: L -/
theorem parseEndpoint_of_no_colon (h : ':' ∉ raw) : parseEndpoint lib raw = .error .undefined := by
  rw [parseEndpoint, (splitLastColon_eq_none_iff raw).mpr h]

/-- **The parser accepts the texts of endpoints, and throws on the other ones.** Kind: D -/
def ParsesEndpoint (lib : Libraries) (raw : Text) : Prop :=
  (∀ ep, parseEndpoint lib raw = .ok ep ↔ EndpointText lib raw ep) ∧
    ((¬ ∃ ep, EndpointText lib raw ep) → ∃ exc, parseEndpoint lib raw = .error (.thrown exc))

/-- A text is read in one way. Kind: L -/
theorem EndpointText.not_oversized {ep : Endpoint} (h : EndpointText lib raw ep) :
    ¬ OversizedPort lib raw := by
  rintro ⟨addr', port', host', hraw', hcolon', -, hlarge, -⟩
  obtain ⟨addr, port, host, hraw, hcolon, -, hsmall, -⟩ := h
  have hsplit := (splitLastColon_eq_some_iff raw addr port).mpr ⟨hraw, hcolon⟩
  rw [(splitLastColon_eq_some_iff raw addr' port').mpr ⟨hraw', hcolon'⟩] at hsplit
  obtain ⟨-, rfl⟩ := Prod.mk.inj (Option.some.inj hsplit)
  exact absurd hsmall (not_le.mpr hlarge)

/-- The text of an endpoint has a colon. Kind: L -/
theorem EndpointText.colon_mem {ep : Endpoint} (h : EndpointText lib raw ep) : ':' ∈ raw := by
  obtain ⟨addr, port, host, rfl, -⟩ := h
  simp

/-- A port of more than 16 bits is accepted, as zero. Kind: L -/
theorem OversizedPort.accepted (h : OversizedPort lib raw) :
    ∃ ep, parseEndpoint lib raw = .ok ep := by
  obtain ⟨addr, port, host, hraw, hcolon, hport, hlarge, hhost, address, haddress⟩ := h
  refine ⟨⟨address, 0⟩, (parseEndpoint_eq_ok_iff _).mpr ?_⟩
  refine ⟨addr, port, host, hraw, hcolon, hport, hhost, haddress, ?_⟩
  rw [if_neg (not_le.mpr hlarge)]
  rfl

/-- Apart from such a port exactly the texts of endpoints are accepted. Kind: L -/
theorem parseEndpoint_eq_ok_iff_endpointText (hover : ¬ OversizedPort lib raw) (ep : Endpoint) :
    parseEndpoint lib raw = .ok ep ↔ EndpointText lib raw ep := by
  rw [parseEndpoint_eq_ok_iff]
  constructor
  · rintro ⟨addr, port, host, hraw, hlast, hport, hhost, haddress, hvalue⟩
    by_cases hsmall : valOf 10 port ≤ 65535
    · rw [if_pos hsmall] at hvalue
      exact ⟨addr, port, host, hraw, hlast, hport, hsmall, hhost, haddress, hvalue⟩
    · exact absurd ⟨addr, port, host, hraw, hlast, hport, not_le.mp hsmall, hhost, _, haddress⟩
        hover
  · rintro ⟨addr, port, host, hraw, hlast, hport, hsmall, hhost, haddress, hvalue⟩
    refine ⟨addr, port, host, hraw, hlast, hport, hhost, haddress, ?_⟩
    rw [if_pos hsmall, hvalue]

/-- A text without a colon is not parsed as it should be. Kind: L -/
theorem ParsesEndpoint.colon_mem (h : ParsesEndpoint lib raw) : ':' ∈ raw := by
  by_contra hcolon
  have hnone : ¬ ∃ ep, EndpointText lib raw ep := fun ⟨_, hep⟩ => hcolon hep.colon_mem
  obtain ⟨exc, hexc⟩ := h.2 hnone
  rw [parseEndpoint_of_no_colon hcolon] at hexc
  cases hexc

/-- **When endpoints are parsed as they should be.** For every text: exactly if it has a colon, and
is no endpoint text with a port of more than 16 bits. Kind: P -/
theorem parsesEndpoint_iff (lib : Libraries) (raw : Text) :
    ParsesEndpoint lib raw ↔ ':' ∈ raw ∧ ¬ OversizedPort lib raw := by
  constructor
  · intro hparses
    refine ⟨hparses.colon_mem, fun hover => ?_⟩
    obtain ⟨ep, hread⟩ := hover.accepted
    exact ((hparses.1 ep).mp hread).not_oversized hover
  · rintro ⟨hcolon, hover⟩
    have haccepts := parseEndpoint_eq_ok_iff_endpointText hover
    refine ⟨haccepts, fun hnone => ?_⟩
    cases hread : parseEndpoint lib raw with
    | ok ep => exact absurd ⟨ep, (haccepts ep).mp hread⟩ hnone
    | error failure =>
        obtain ⟨exc, rfl⟩ := parseEndpoint_raises hcolon failure hread
        exact ⟨exc, rfl⟩

/-- **Not every text is parsed as it should be**: `127.0.0.1:65536` is accepted with port 0, and
`localhost` leads to a view that starts outside the text. Kind: C -/
theorem parseEndpoint_misreads :
    ¬ ParsesEndpoint sampleLibraries "127.0.0.1:65536".toList ∧
      ¬ ParsesEndpoint sampleLibraries "localhost".toList := by
  constructor
  · rintro ⟨haccepts, -⟩
    have hread : parseEndpoint sampleLibraries "127.0.0.1:65536".toList
        = .ok ⟨.v4 ⟨⟨[127, 0, 0, 1], rfl⟩⟩, 0⟩ := by decide +kernel
    apply ((haccepts _).mp hread).not_oversized
    refine ⟨"127.0.0.1".toList, "65536".toList, "127.0.0.1".toList, by decide, by decide,
      by decide, by decide, .inl ⟨by decide, rfl⟩, .v4 ⟨⟨[127, 0, 0, 1], rfl⟩⟩, ?_⟩
    decide +kernel
  · intro hparses
    exact absurd hparses.colon_mem (by decide)

end Parser

end ScionIp.Vpp
