import ScionIp.Lib.Lines
import ScionIp.Scion2Ip.Addresses

/-!
# The commands `scion2ip` and `ip2scion`

Both convert the address of their arguments, or, with `--pipe`, one address a line from standard
input. They are filters: what one of them writes, the other one reads.

* `scion2ip`, `ip2scion` — what a command writes and how it ends; a failing line ends it.
* `ip2scion_pipe`, `scion2ip_described` — what `ip2scion` writes, and what `scion2ip` makes of it.
* `there_and_back`, `back_and_there` — the two commands one behind the other, from any text.
* `scion2ip_ended` — which inputs end `scion2ip` with status 0, with status −1, and with an
  exception.
-/

namespace ScionIp.Scion2Ip

open ScionIp.Lib ScionIp.Python

/-! ## Texts -/

/-- `str.isspace` of one character. Kind: D -/
def isSpace (c : Char) : Bool :=
  c.toNat ∈ [9, 10, 11, 12, 13, 0x1c, 0x1d, 0x1e, 0x1f, 0x20] ++ unicodeSpaces

/-- What `sys.stdin` makes of the ends of lines. Kind: D -/
def universalNewlines : Text → Text
  | [] => []
  | '\r' :: '\n' :: cs => '\n' :: universalNewlines cs
  | '\r' :: cs => '\n' :: universalNewlines cs
  | c :: cs => c :: universalNewlines cs

/-- `sys.stdin.readlines()`. Kind: D -/
def stdinLines (stdin : Text) : List Text := readLines '\n' (universalNewlines stdin)

/-! ## What a command does -/

/-- What is printed to standard error: a message, or `error:` and the exception. Kind: D -/
inductive Report where
  | message (text : String)
  | error (exc : PyExc)

/-- The end of a command: the value that is returned, or an exception. Kind: D -/
inductive Ending where
  | returned (value : ℤ)
  | raised (exc : PyExc)
  deriving DecidableEq

/-- A finished command. Kind: D -/
structure Run where
  stdout : Text
  stderr : List Report
  ended : Ending

/-- Why the conversions stop: not four words, or an exception of a conversion. Kind: D -/
inductive Stop where
  | invalidInput
  | exception (exc : PyExc)
  deriving DecidableEq

/-- The lines printed before the conversions stop, and the handler of `InvalidArgument`.
Source: `scion2ip`, `scion2ip` and `ip2scion`. Kind: D -/
def finish : List Text × Option Stop → Run
  | (printed, none) => ⟨unlines '\n' printed, [], .returned 0⟩
  | (printed, some .invalidInput) =>
      ⟨unlines '\n' printed, [.message "error: invalid input"], .returned (-1)⟩
  | (printed, some (.exception exc)) =>
      if isInvalidArgument exc then ⟨unlines '\n' printed, [.error exc], .returned (-1)⟩
      else ⟨unlines '\n' printed, [], .raised exc⟩

@[simp] theorem stdout_finish (r : List Text × Option Stop) :
    (finish r).stdout = unlines '\n' r.1 := by
  rcases r with ⟨printed, _ | _ | exc⟩
  · rfl
  · rfl
  · by_cases hexc : isInvalidArgument exc <;> simp [finish, hexc]

/-- The conversions reach the end. Kind: L -/
theorem ended_of_none {r : List Text × Option Stop} (h : r.2 = none) :
    (finish r).ended = .returned 0 := by
  rcases r with ⟨printed, stop⟩
  subst h
  rfl

/-- There is a handler for what stops the conversions. Kind: D -/
def Stop.Handled (stop : Stop) : Prop :=
  ∀ exc, stop = .exception exc → isInvalidArgument exc = true

/-- They stop. Kind: L -/
theorem ended_of_some {r : List Text × Option Stop} {stop : Stop} (h : r.2 = some stop) :
    stop.Handled ∧ (finish r).ended = .returned (-1) ∨
      ∃ exc, stop = .exception exc ∧ isInvalidArgument exc = false ∧
        (finish r).ended = .raised exc := by
  rcases r with ⟨printed, _⟩
  subst h
  cases stop with
  | invalidInput => exact .inl ⟨fun _ h => (by cases h), rfl⟩
  | exception exc => cases hexc : isInvalidArgument exc <;> simp [finish, Stop.Handled, hexc]

/-- The status is zero only at the end. Kind: L -/
theorem ended_eq_zero_iff (r : List Text × Option Stop) :
    (finish r).ended = .returned 0 ↔ r.2 = none := by
  refine ⟨fun h => ?_, ended_of_none⟩
  cases hstop : r.2 with
  | none => rfl
  | some stop =>
    rcases ended_of_some hstop with ⟨-, hend⟩ | ⟨_, -, -, hend⟩
    · cases hend.symm.trans h
    · cases hend.symm.trans h

/-- The exceptions that are not handled. Kind: L -/
theorem ended_eq_raised_iff (r : List Text × Option Stop) (exc : PyExc) :
    (finish r).ended = .raised exc ↔
      r.2 = some (.exception exc) ∧ isInvalidArgument exc = false := by
  cases hstop : r.2 with
  | none => simp [ended_of_none hstop]
  | some stop =>
    rcases ended_of_some hstop with ⟨hhandled, hend⟩ | ⟨exc', rfl, hother, hend⟩
    · rw [hend]
      refine iff_of_false (fun h => by cases h) ?_
      rintro ⟨hsome, hother⟩
      rw [hhandled exc (Option.some.inj hsome)] at hother
      cases hother
    · rw [hend]
      constructor
      · intro h
        obtain rfl := Ending.raised.inj h
        exact ⟨rfl, hother⟩
      · rintro ⟨hsome, -⟩
        rw [Stop.exception.inj (Option.some.inj hsome)]

/-- There are two values. Kind: L -/
theorem ended_values (r : List Text × Option Stop) {value : ℤ}
    (h : (finish r).ended = .returned value) : value = 0 ∨ value = -1 := by
  cases hstop : r.2 with
  | none =>
    rw [ended_of_none hstop] at h
    exact .inl (Ending.returned.inj h).symm
  | some stop =>
    rcases ended_of_some hstop with ⟨-, hend⟩ | ⟨_, -, -, hend⟩
    · exact .inr (Ending.returned.inj (hend.symm.trans h)).symm
    · cases hend.symm.trans h

/-- An exception of a conversion stops it. Kind: D -/
def stopOnError {α : Type} : Py α → Except Stop α
  | .ok a => .ok a
  | .error exc => .error (.exception exc)

/-- The arguments of `scion2ip`. Kind: D -/
structure Scion2ipArgs where
  address : List Text
  pipe : Bool
  subnetBits : ℤ

/-- One address. Source: `scion2ip`, `scion2ip`. Kind: D -/
def convert (subnetBits : ℕ) : List Text → Except Stop (List Text)
  | [isdAsn, localPrefix, subnet, interface] =>
      ([·]) <$> stopOnError (s2ip isdAsn localPrefix subnet interface subnetBits)
  | _ => .error .invalidInput

/-- Source: `scion2ip`, `scion2ip`. Kind: D -/
def scion2ip (args : Scion2ipArgs) (stdin : Text) : Run :=
  if ¬ (0 ≤ args.subnetBits ∧ args.subnetBits ≤ 24) then
    ⟨unlines '\n' ["error: subnet bits must be in [0, 24]".toList], [], .returned (-1)⟩
  else if args.pipe then
    finish (feed (fun line => convert args.subnetBits.toNat (words isSpace line))
      (stdinLines stdin))
  else finish (feed (convert args.subnetBits.toNat) [args.address])

/-- The arguments of `ip2scion`. Kind: D -/
structure Ip2scionArgs where
  ip : Option IPv6Address
  pipe : Bool
  subnetBits : ℤ

/-- The lines `ip2s` prints and returns. Kind: D -/
def Ip2s.lines (r : Ip2s) : List Text := (r.printed.map String.toList).toList ++ [r.text]

/-- Source: `scion2ip`, `ip2scion`. Kind: D -/
def ip2scion (args : Ip2scionArgs) (stdin : Text) : Run :=
  if ¬ (0 ≤ args.subnetBits ∧ args.subnetBits ≤ 24) then
    ⟨[], [.message "error: subnet bits must be in [0, 24]"], .returned (-1)⟩
  else if args.pipe then
    finish (feed (fun line => do
      let ip ← stopOnError (IPv6Address.parse (strip isSpace line))
      let r ← stopOnError (ip2s ip args.subnetBits.toNat)
      return r.lines) (stdinLines stdin))
  else
    match args.ip with
    | none => ⟨[], [.message "error: must specify exactly one address"], .returned (-1)⟩
    | some ip => finish (feed (fun ip => Ip2s.lines <$> stopOnError (ip2s ip args.subnetBits.toNat))
        [ip])

/-! ## What the commands print -/

/-- The characters of addresses and their fields. Kind: D -/
def InWord (c : Char) : Prop := isDigitOf 16 c = true ∨ c = ':' ∨ c = '-' ∨ c = '.'

/-- None of them is white space. Kind: L -/
theorem InWord.not_isSpace {c : Char} (h : InWord c) : isSpace c = false := by
  rw [isSpace, decide_eq_false_iff_not]
  intro hmem
  have hall : ∀ n ∈ [9, 10, 11, 12, 13, 0x1c, 0x1d, 0x1e, 0x1f, 0x20] ++ unicodeSpaces,
      isDigitOf 16 (Char.ofNat n) = false ∧ Char.ofNat n ≠ ':' ∧ Char.ofNat n ≠ '-' ∧
        Char.ofNat n ≠ '.' := by decide
  obtain ⟨hdigit, hcolon, hdash, hdot⟩ := hall _ hmem
  rw [Char.ofNat_toNat] at hdigit hcolon hdash hdot
  rcases h with h | h | h | h
  · rw [hdigit] at h
    cases h
  · exact hcolon h
  · exact hdash h
  · exact hdot h

/-- The end of a line is white space. Kind: L -/
theorem isSpace_newline : isSpace '\n' = true := by decide

/-- The parts of a compressed text. Kind: L -/
theorem mem_compressHextets {hextets : List Text} {part : Text}
    (h : part ∈ compressHextets hextets) : part = [] ∨ part ∈ hextets := by
  rcases compressHextets_cases hextets with heq | ⟨before, after, n, -, hparts, heq⟩
  · rw [heq] at h
    exact .inr h
  · rw [heq] at h
    rw [hparts]
    simp only [List.mem_append] at h ⊢
    split_ifs at h <;> simp at h <;> tauto

/-- The text of an IPv6 address. Kind: L -/
theorem inWord_of_mem_str {ip : IPv6Address} {c : Char} (h : c ∈ ip.str) : InWord c := by
  rcases mem_intercalate h with rfl | ⟨part, hpart, hc⟩
  · exact .inr (.inl rfl)
  · rcases mem_compressHextets hpart with rfl | hgroup
    · cases hc
    · exact .inl (isDigitOf_of_mem_hexTexts hgroup hc)

/-- The text of a number. Kind: L -/
theorem inWord_of_mem_formatHex {n : ℕ} {c : Char} (h : c ∈ formatHex n) : InWord c := by
  rcases mem_intercalate h with rfl | ⟨part, hpart, hc⟩
  · exact .inr (.inl rfl)
  · exact .inl (isDigitOf_of_mem_hexTexts hpart hc)

/-- A decimal number. Kind: L -/
theorem inWord_of_mem_decimal {n : ℕ} {c : Char} (h : c ∈ Nat.toDigits 10 n) : InWord c := by
  have hten := isDigitOf_of_mem_toDigits (by norm_num) (by norm_num) h
  rw [isDigitOf, decide_eq_true_iff] at hten
  exact .inl (decide_eq_true (by omega))

/-- The words of a line that `ip2s` returns. Kind: D -/
def fields (subnetBits : ℕ) (ip : IPv6Address) : List Text :=
  [isdAsnToken ip, formatHex (bitField ip.ip (64 + subnetBits) (24 - subnetBits)),
    formatHex (bitField ip.ip 64 subnetBits), interfaceToken ip]

/-- They are words. Kind: L -/
theorem inWord_of_mem_fields {subnetBits : ℕ} {ip : IPv6Address} {word : Text}
    (hword : word ∈ fields subnetBits ip) {c : Char} (hc : c ∈ word) : InWord c := by
  simp only [fields, List.mem_cons, List.not_mem_nil, or_false] at hword
  rcases hword with rfl | rfl | rfl | rfl
  · simp only [isdAsnToken, List.mem_append, List.mem_cons] at hc
    rcases hc with hisd | rfl | hasn
    · exact inWord_of_mem_decimal hisd
    · exact .inr (.inr (.inl rfl))
    · exact (ASN.mem_str hasn).elim (fun h => .inr (.inl h)) .inl
  · exact inWord_of_mem_formatHex hc
  · exact inWord_of_mem_formatHex hc
  · unfold interfaceToken at hc
    split_ifs at hc
    · rcases mem_intercalate hc with rfl | ⟨part, hpart, hc⟩
      · exact .inr (.inr (.inr rfl))
      · obtain ⟨b, -, rfl⟩ := List.mem_map.mp hpart
        exact inWord_of_mem_decimal hc
    · exact inWord_of_mem_formatHex hc

/-- Joined parts are not empty if the first one is not. Kind: L -/
theorem intercalate_ne_nil {sep part : Text} {parts : List Text} (h : part ≠ []) :
    sep.intercalate (part :: parts) ≠ [] := by
  cases parts with
  | nil => simpa [List.intercalate_singleton] using h
  | cons next parts => simp [List.intercalate_cons_cons, h]

/-- The text of a number is not empty. Kind: L -/
theorem formatHex_ne_nil (n : ℕ) : formatHex n ≠ [] := by
  have hgroups := hexGroups_ne_nil (show 0 < max 1 ((n.size + 15) / 16) by omega) n
  obtain ⟨g, groups, hcons⟩ := List.exists_cons_of_ne_nil hgroups
  rw [formatHex, hcons]
  exact intercalate_ne_nil Nat.toDigits_ne_nil

/-- Nor is any other word. Kind: L -/
theorem ne_nil_of_mem_fields {subnetBits : ℕ} {ip : IPv6Address} {word : Text}
    (hword : word ∈ fields subnetBits ip) : word ≠ [] := by
  simp only [fields, List.mem_cons, List.not_mem_nil, or_false] at hword
  rcases hword with rfl | rfl | rfl | rfl
  · simp [isdAsnToken]
  · exact formatHex_ne_nil _
  · exact formatHex_ne_nil _
  · unfold interfaceToken
    split_ifs
    · intro hnil
      have hread := (Prototype.lowHost ip).parse_str
      rw [hnil] at hread
      cases hread
    · exact formatHex_ne_nil _

/-- The text of an address is not empty. Kind: L -/
theorem str_ne_nil (ip : IPv6Address) : ip.str ≠ [] := by
  intro hnil
  have hread := ip.parse_str
  rw [hnil] at hread
  cases hread

/-! ## What one command reads of the other -/

/-- Nothing is translated in a text without carriage returns. Kind: L -/
theorem universalNewlines_of_not_mem {text : Text} (h : '\r' ∉ text) :
    universalNewlines text = text := by
  induction text with
  | nil => rfl
  | cons c cs ih =>
    have hc : c ≠ '\r' := fun hc => h (by simp [hc])
    have hcs := ih fun hcs => h (List.mem_cons_of_mem _ hcs)
    rw [universalNewlines, hcs]
    · rintro rest rfl
      exact absurd rfl hc
    · exact fun hc' => absurd hc' hc

/-- What can stand in a line: no end of one. Kind: D -/
def InLine (c : Char) : Prop := c ≠ '\n' ∧ c ≠ '\r'

instance (c : Char) : Decidable (InLine c) := inferInstanceAs (Decidable (_ ∧ _))

/-- Words can. Kind: L -/
theorem InWord.inLine {c : Char} (h : InWord c) : InLine c := by
  have hspace := h.not_isSpace
  constructor <;> rintro rfl <;> cases hspace

/-- **What was printed is read line by line.** Kind: L -/
theorem stdinLines_unlines {printed : List Text} (h : ∀ line ∈ printed, ∀ c ∈ line, InLine c) :
    stdinLines (unlines '\n' printed) = printed.map (· ++ ['\n']) := by
  have hreturn : '\r' ∉ unlines '\n' printed := by
    intro hmem
    obtain ⟨line, hline, hc⟩ := List.mem_flatMap.mp hmem
    rcases List.mem_append.mp hc with hc | hc
    · exact (h line hline _ hc).2 rfl
    · cases List.mem_singleton.mp hc
  rw [stdinLines, universalNewlines_of_not_mem hreturn]
  exact readLines_unlines fun line hline hmem => (h line hline _ hmem).1 rfl

/-- The line printed in front of the fields of an address outside `fc00::/8`. Kind: D -/
def notMapped : Text := "error: not an IPv6-mapped SCION address".toList

/-- The lines `ip2scion` prints for an address. Kind: D -/
def described (subnetBits : ℕ) (ip : IPv6Address) : List Text :=
  (if SCION_NETWORK ip then [] else [notMapped]) ++ [[' '].intercalate (fields subnetBits ip)]

/-- They are lines. Kind: L -/
theorem inLine_of_mem_described {subnetBits : ℕ} {ip : IPv6Address} {line : Text}
    (hline : line ∈ described subnetBits ip) {c : Char} (hc : c ∈ line) : InLine c := by
  have hfields : ∀ c ∈ [' '].intercalate (fields subnetBits ip), InLine c := by
    intro c hc
    rcases mem_intercalate hc with rfl | ⟨word, hword, hc⟩
    · exact ⟨by decide, by decide⟩
    · exact (inWord_of_mem_fields hword hc).inLine
  have hnot : notMapped.all (fun c => InLine c) = true := by decide +kernel
  unfold described at hline
  split_ifs at hline <;> simp only [List.nil_append, List.cons_append, List.mem_cons,
    List.not_mem_nil, or_false] at hline
  · exact hfields c (hline ▸ hc)
  · rcases hline with rfl | rfl
    · exact of_decide_eq_true (List.all_eq_true.mp hnot c hc)
    · exact hfields c hc

/-- The conversion of an address prints these lines. Kind: L -/
theorem lines_ip2s (ip : IPv6Address) {subnetBits : ℕ} (hs : subnetBits ≤ 24) :
    Ip2s.lines <$> stopOnError (ip2s ip subnetBits) = .ok (described subnetBits ip) := by
  rw [ip2s_eq ip hs, described]
  by_cases hnet : SCION_NETWORK ip = true
  · rw [if_pos hnet, if_pos hnet]
    rfl
  · rw [if_neg hnet, if_neg hnet]
    rfl

/-- **The addresses on standard input**: those of the lines in front of the first one that is not
an address. Kind: D -/
def addresses (stdin : Text) : List IPv6Address × Option Stop :=
  feed (fun line => ([·]) <$> stopOnError (IPv6Address.parse (strip isSpace line)))
    (stdinLines stdin)

/-- **What `ip2scion` prints**: its lines for every address. Kind: P -/
theorem ip2scion_pipe (ip : Option IPv6Address) (stdin : Text) {s : ℤ} (hs : 0 ≤ s ∧ s ≤ 24) :
    ip2scion ⟨ip, true, s⟩ stdin
      = finish ((addresses stdin).1.flatMap (described s.toNat), (addresses stdin).2) := by
  have hnat : s.toNat ≤ 24 := by omega
  have hhandle : (fun line => do
      let ip ← stopOnError (IPv6Address.parse (strip isSpace line))
      let r ← stopOnError (ip2s ip s.toNat)
      return r.lines)
        = fun line =>
            described s.toNat <$> stopOnError (IPv6Address.parse (strip isSpace line)) := by
    funext line
    cases stopOnError (IPv6Address.parse (strip isSpace line)) with
    | error stop => rfl
    | ok ip => exact lines_ip2s ip hnat
  rw [ip2scion, if_neg (not_not.mpr hs), if_pos rfl]
  simp only [hhandle]
  rw [feed_bind]
  rfl

/-- The addresses that were printed are read. Kind: L -/
theorem addresses_unlines (ips : List IPv6Address) :
    addresses (unlines '\n' (ips.map IPv6Address.str)) = (ips, none) := by
  have hline : ∀ line ∈ ips.map IPv6Address.str, ∀ c ∈ line, InLine c := by
    intro line hline c hc
    obtain ⟨ip, -, rfl⟩ := List.mem_map.mp hline
    exact (inWord_of_mem_str hc).inLine
  have hread : ∀ ip : IPv6Address,
      IPv6Address.parse (strip isSpace (ip.str ++ ['\n'])) = .ok ip := by
    intro ip
    rw [strip_word (fun c hc => (inWord_of_mem_str hc).not_isSpace) (str_ne_nil ip)
      isSpace_newline, ip.parse_str]
  rw [addresses, stdinLines_unlines hline, List.map_map]
  induction ips with
  | nil => rfl
  | cons ip ips ih =>
    rw [List.map_cons, feed_cons_ok (by rw [Function.comp_apply, hread]; rfl), ih]
    · rfl
    · exact fun line hmem => hline line (List.mem_cons_of_mem _ hmem)

/-- `scion2ip` on a line. Kind: D -/
def convertLine (subnetBits : ℕ) (line : Text) : Except Stop (List Text) :=
  convert subnetBits (words isSpace line)

/-- **What `scion2ip` prints**: the conversions in front of the first line that has none. Kind: L -/
theorem scion2ip_pipe (address : List Text) (stdin : Text) {s : ℤ} (hs : 0 ≤ s ∧ s ≤ 24) :
    scion2ip ⟨address, true, s⟩ stdin
      = finish (feed (convertLine s.toNat) (stdinLines stdin)) := by
  rw [scion2ip, if_neg (not_not.mpr hs), if_pos rfl]
  rfl

/-- **The addresses that come back** from their fields: those of `fc00::/8`, unless they look like
an IPv4 host below a nonzero prefix or subnet. Kind: D -/
def Restored (ip : IPv6Address) : Prop :=
  SCION_NETWORK ip = true ∧ ¬ (LooksIpv4 ip ∧ bitField ip.ip 64 24 ≠ 0)

instance (ip : IPv6Address) : Decidable (Restored ip) := inferInstanceAs (Decidable (_ ∧ _))

/-- Too many words. Kind: L -/
theorem convertLine_notMapped (subnetBits : ℕ) :
    convertLine subnetBits (notMapped ++ ['\n']) = .error .invalidInput := by
  have hlen : (words isSpace (notMapped ++ ['\n'])).length = 6 := by decide +kernel
  unfold convertLine convert
  split
  · rename_i heq
    rw [heq] at hlen
    cases hlen
  · rfl

/-- The fields of an address of `fc00::/8`. Kind: L -/
theorem convertLine_fields {ip : IPv6Address} (hnet : SCION_NETWORK ip = true) {subnetBits : ℕ}
    (hs : subnetBits ≤ 24) :
    convertLine subnetBits ([' '].intercalate (fields subnetBits ip) ++ ['\n'])
      = if LooksIpv4 ip ∧ bitField ip.ip 64 24 ≠ 0 then
          .error (.exception (.InvalidArgument
            "local prefix and subnet must be zero in SCION-IPv4-mapped addresses"))
        else .ok [ip.str] := by
  rw [convertLine, words_intercalate (by decide) isSpace_newline
    (fun word hword => ne_nil_of_mem_fields hword)
    (fun word hword c hc => (inWord_of_mem_fields hword hc).not_isSpace)]
  rw [fields, convert, s2ip_tokens hnet hs]
  split_ifs <;> rfl

/-- The lines of an address that comes back. Kind: L -/
theorem feed_described_of_restored {ip : IPv6Address} (h : Restored ip) {subnetBits : ℕ}
    (hs : subnetBits ≤ 24) :
    feed (convertLine subnetBits) ((described subnetBits ip).map (· ++ ['\n']))
      = ([ip.str], none) := by
  rw [described, if_pos h.1]
  simp [feed, convertLine_fields h.1 hs, h.2]

/-- The lines of an address that does not. Kind: L -/
theorem feed_described_of_not_restored {ip : IPv6Address} (h : ¬ Restored ip) {subnetBits : ℕ}
    (hs : subnetBits ≤ 24) :
    ∃ stop : Stop, stop.Handled ∧
      feed (convertLine subnetBits) ((described subnetBits ip).map (· ++ ['\n']))
        = ([], some stop) := by
  rw [described]
  by_cases hnet : SCION_NETWORK ip = true
  · have hbad : LooksIpv4 ip ∧ bitField ip.ip 64 24 ≠ 0 := by
      by_contra hno
      exact h ⟨hnet, hno⟩
    rw [if_pos hnet]
    refine ⟨_, ?_, feed_cons_error ((convertLine_fields hnet hs).trans (if_pos hbad)) []⟩
    intro exc hexc
    rw [← Stop.exception.inj hexc]
    rfl
  · rw [if_neg hnet]
    exact ⟨.invalidInput, fun _ h => (by cases h),
      feed_cons_error (convertLine_notMapped subnetBits) _⟩

/-- **What `scion2ip` makes of the lines of `ip2scion`**: the addresses in front of the first one
that does not come back. Kind: P -/
theorem scion2ip_described (address : List Text) {s : ℤ} (hs : 0 ≤ s ∧ s ≤ 24)
    (ips : List IPv6Address) :
    (scion2ip ⟨address, true, s⟩ (unlines '\n' (ips.flatMap (described s.toNat)))).stdout
        = unlines '\n' ((ips.takeWhile Restored).map IPv6Address.str) ∧
      (scion2ip ⟨address, true, s⟩ (unlines '\n' (ips.flatMap (described s.toNat)))).ended
        = .returned (if ∀ ip ∈ ips, Restored ip then 0 else -1) := by
  have hnat : s.toNat ≤ 24 := by omega
  have hlines : ∀ line ∈ ips.flatMap (described s.toNat), ∀ c ∈ line, InLine c := by
    intro line hline c hc
    obtain ⟨ip, -, hmem⟩ := List.mem_flatMap.mp hline
    exact inLine_of_mem_described hmem hc
  obtain ⟨hprinted, hend⟩ := feed_flatMap (fun ip h => feed_described_of_restored h hnat)
    (fun ip h => feed_described_of_not_restored h hnat) ips
  rw [scion2ip_pipe address _ hs, stdinLines_unlines hlines, List.map_flatMap, stdout_finish]
  refine ⟨?_, ?_⟩
  · rw [hprinted, ← List.map_eq_flatMap]
  · rcases hend with ⟨hall, hnone⟩ | ⟨⟨ip, hip, hno⟩, stop, hhandled, hstop⟩
    · rw [if_pos hall, ended_of_none hnone]
    · rw [if_neg fun hall => hno (hall ip hip)]
      rcases ended_of_some hstop with ⟨-, hend⟩ | ⟨exc, hexc, hother, -⟩
      · exact hend
      · rw [hhandled exc hexc] at hother
        cases hother

/-- **There and back**, from any text on standard input: of the addresses in front of the first line
that is none, `ip2scion --pipe | scion2ip --pipe` prints those in front of the first one that does
not come back, in their normal form. Kind: P -/
theorem there_and_back (stdin : Text) {s : ℤ} (hs : 0 ≤ s ∧ s ≤ 24) :
    ((ip2scion ⟨none, true, s⟩ stdin).ended = .returned 0 ↔
      ∀ line ∈ stdinLines stdin, ∃ ip, IPv6Address.parse (strip isSpace line) = .ok ip) ∧
    (scion2ip ⟨[], true, s⟩ (ip2scion ⟨none, true, s⟩ stdin).stdout).stdout
      = unlines '\n' (((addresses stdin).1.takeWhile Restored).map IPv6Address.str) ∧
    (scion2ip ⟨[], true, s⟩ (ip2scion ⟨none, true, s⟩ stdin).stdout).ended
      = .returned (if ∀ ip ∈ (addresses stdin).1, Restored ip then 0 else -1) := by
  rw [ip2scion_pipe none stdin hs, stdout_finish]
  refine ⟨?_, scion2ip_described [] hs _⟩
  rw [ended_eq_zero_iff]
  refine (feed_eq_none_iff _ _).trans (forall₂_congr fun line _ => ?_)
  cases IPv6Address.parse (strip isSpace line) with
  | error exc => exact iff_of_false (not_exists_error_eq_ok _) (not_exists_error_eq_ok _)
  | ok ip => exact iff_of_true ⟨[ip], rfl⟩ ⟨ip, rfl⟩

/-- Two addresses; the second one has `1.2.3.4` as interface below subnet 1. Kind: D -/
def sampleStdin : Text := "FC00:10FC:0::1\nfc00:10fc:0:1:0:ffff:102:304\n".toList

/-- Only the first one comes back. Kind: C -/
theorem there_and_back_sample :
    (scion2ip ⟨[], true, 8⟩ (ip2scion ⟨none, true, 8⟩ sampleStdin).stdout).stdout
        = "fc00:10fc::1\n".toList ∧
      (scion2ip ⟨[], true, 8⟩ (ip2scion ⟨none, true, 8⟩ sampleStdin).stdout).ended
        = .returned (-1) := by
  obtain ⟨-, hprinted, hended⟩ := there_and_back sampleStdin (s := 8) (by norm_num)
  have hips : (addresses sampleStdin).1
      = [⟨0xfc0010fc000000000000000000000001, by norm_num⟩,
        ⟨0xfc0010fc000000010000ffff01020304, by norm_num⟩] := by decide +kernel
  rw [hips] at hprinted hended
  rw [hprinted, hended]
  decide +kernel

/-- What `s2ip` returns is an address. Kind: L -/
theorem S2ipArgs.run_eq_ok {a : S2ipArgs} {text : Text} (h : a.run = .ok text) :
    ∃ ip : IPv6Address, text = ip.str := by
  rw [a.run_eq] at h
  obtain ⟨v, -, h⟩ := bind_eq_ok_iff.mp h
  obtain ⟨ip, -, h⟩ := bind_eq_ok_iff.mp h
  exact ⟨ip, (Except.ok.inj h).symm⟩

/-- **Inversion of a conversion**: four words that `s2ip` converts. Kind: L -/
theorem convertLine_cases (subnetBits : ℕ) (line : Text) :
    convertLine subnetBits line = .error .invalidInput ∨
      ∃ a : S2ipArgs, a.subnetBits = subnetBits ∧
        words isSpace line = [a.isdAsn, a.localPrefix, a.subnet, a.interface] ∧
        convertLine subnetBits line = ([·]) <$> stopOnError a.run := by
  unfold convertLine convert
  split
  · rename_i isdAsn localPrefix subnet interface heq
    exact .inr ⟨⟨isdAsn, localPrefix, subnet, interface, subnetBits⟩, rfl, heq, rfl⟩
  · exact .inl rfl

/-- What is printed for a line is an address. Kind: L -/
theorem convertLine_eq_ok {subnetBits : ℕ} {line : Text} {out : List Text}
    (h : convertLine subnetBits line = .ok out) : ∃ ip : IPv6Address, out = [ip.str] := by
  rcases convertLine_cases subnetBits line with hno | ⟨a, -, -, hrun⟩
  · cases hno.symm.trans h
  · rw [hrun] at h
    cases htext : a.run with
    | error exc =>
      rw [htext] at h
      cases h
    | ok text =>
      rw [htext] at h
      obtain ⟨ip, rfl⟩ := S2ipArgs.run_eq_ok htext
      exact ⟨ip, (Except.ok.inj h).symm⟩

/-- What is printed are addresses. Kind: L -/
theorem feed_convertLine (subnetBits : ℕ) (lines : List Text) :
    ∃ ips : List IPv6Address,
      (feed (convertLine subnetBits) lines).1 = ips.map IPv6Address.str := by
  have hall : ∀ text ∈ (feed (convertLine subnetBits) lines).1,
      text ∈ Set.range IPv6Address.str := by
    refine feed_forall (fun line out hout text htext => ?_) lines
    obtain ⟨ip, rfl⟩ := convertLine_eq_ok hout
    exact ⟨ip, (List.mem_singleton.mp htext).symm⟩
  have hrange : (feed (convertLine subnetBits) lines).1 ∈ Set.range (List.map IPv6Address.str) := by
    rw [Set.range_list_map]
    exact hall
  obtain ⟨ips, hips⟩ := hrange
  exact ⟨ips, hips.symm⟩

/-- **And back and there**, from any text on standard input: `ip2scion --pipe` takes whatever
`scion2ip --pipe` prints, and `scion2ip --pipe` prints it again, up to the first address that does
not come back. Kind: P -/
theorem back_and_there (stdin : Text) {s : ℤ} (hs : 0 ≤ s ∧ s ≤ 24) :
    ∃ ips : List IPv6Address,
      (scion2ip ⟨[], true, s⟩ stdin).stdout = unlines '\n' (ips.map IPv6Address.str) ∧
      ip2scion ⟨none, true, s⟩ (scion2ip ⟨[], true, s⟩ stdin).stdout
        = ⟨unlines '\n' (ips.flatMap (described s.toNat)), [], .returned 0⟩ ∧
      (scion2ip ⟨[], true, s⟩
        (ip2scion ⟨none, true, s⟩ (scion2ip ⟨[], true, s⟩ stdin).stdout).stdout).stdout
        = unlines '\n' ((ips.takeWhile Restored).map IPv6Address.str) := by
  obtain ⟨ips, hips⟩ := feed_convertLine s.toNat (stdinLines stdin)
  have hprinted : (scion2ip ⟨[], true, s⟩ stdin).stdout
      = unlines '\n' (ips.map IPv6Address.str) := by
    rw [scion2ip_pipe [] stdin hs, stdout_finish, hips]
  have hread : ip2scion ⟨none, true, s⟩ (unlines '\n' (ips.map IPv6Address.str))
      = ⟨unlines '\n' (ips.flatMap (described s.toNat)), [], .returned 0⟩ := by
    rw [ip2scion_pipe none _ hs, addresses_unlines]
    rfl
  refine ⟨ips, hprinted, ?_, ?_⟩
  · rw [hprinted, hread]
  · rw [hprinted, hread]
    exact (scion2ip_described [] hs ips).1

/-- The first example of the README. Kind: C -/
theorem back_and_there_sample :
    ∃ ips : List IPv6Address,
      (scion2ip ⟨[], true, 8⟩ "1-64512 0 0 1\n".toList).stdout
        = unlines '\n' (ips.map IPv6Address.str) ∧
      ip2scion ⟨none, true, 8⟩ (scion2ip ⟨[], true, 8⟩ "1-64512 0 0 1\n".toList).stdout
        = ⟨unlines '\n' (ips.flatMap (described 8)), [], .returned 0⟩ ∧
      (scion2ip ⟨[], true, 8⟩ (ip2scion ⟨none, true, 8⟩
        (scion2ip ⟨[], true, 8⟩ "1-64512 0 0 1\n".toList).stdout).stdout).stdout
        = unlines '\n' ((ips.takeWhile Restored).map IPv6Address.str) :=
  back_and_there "1-64512 0 0 1\n".toList (s := 8) (by norm_num)

/-! ## How the conversions end -/

/-- Behind the lowest 128 bits of the number put together there are only bits of the ISD. Kind: L -/
theorem S2ipArgs.Reads.joinIp_shiftRight {a : S2ipArgs} {v : S2ipValues} (h : a.Reads v)
    (hs : a.subnetBits ≤ 24) :
    joinIp v.isd.toNat v.encoded v.localPrefix v.subnet v.interface a.subnetBits >>> 128
      = v.isd.toNat >>> 20 := by
  have hcode := (encodedAsn_eq_ok h.encoded).1
  have hbits := h.interfaceBits_lt
  have hlocal : v.localPrefix <<< (64 + a.subnetBits) < 2 ^ 128 := by
    rw [Nat.shiftLeft_eq]
    calc v.localPrefix * 2 ^ (64 + a.subnetBits)
        < 2 ^ (24 - a.subnetBits) * 2 ^ (64 + a.subnetBits) :=
          Nat.mul_lt_mul_of_pos_right (parseHex_lt h.localPrefix) (Nat.two_pow_pos _)
      _ = 2 ^ 88 := by rw [← pow_add]; congr 1; omega
      _ < 2 ^ 128 := by norm_num
  have hsubnet : v.subnet <<< 64 < 2 ^ 128 := by
    rw [Nat.shiftLeft_eq]
    have hlt := parseHex_lt h.subnet
    have hpow : 2 ^ a.subnetBits ≤ 2 ^ 24 := Nat.pow_le_pow_right (by norm_num) hs
    omega
  have hencoded : v.encoded <<< 88 < 2 ^ 128 := by
    rw [Nat.shiftLeft_eq]
    omega
  have hisd : (v.isd.toNat <<< 108) >>> 128 = v.isd.toNat >>> 20 := by
    rw [Nat.shiftLeft_eq, Nat.shiftRight_eq_div_pow, Nat.shiftRight_eq_div_pow]
    omega
  have hfront : (SCION_PREFIX ||| (v.isd.toNat <<< 108) ||| (v.encoded <<< 88)
      ||| (v.localPrefix <<< (64 + a.subnetBits)) ||| (v.subnet <<< 64)) >>> 128
      = v.isd.toNat >>> 20 := by
    simp only [Nat.shiftRight_or_distrib, hisd, Nat.shiftRight_eq_zero _ _ hencoded,
      Nat.shiftRight_eq_zero _ _ hlocal, Nat.shiftRight_eq_zero _ _ hsubnet,
      Nat.shiftRight_eq_zero SCION_PREFIX 128 (by decide), Nat.zero_or, Nat.or_zero]
  unfold joinIp
  cases hface : v.interface with
  | ipv4 v4 =>
    have hv4 : v4.ip >>> 128 = 0 := Nat.shiftRight_eq_zero _ _ (v4.ip_lt.trans (by norm_num))
    simp only [v4.ofBE_packed]
    rw [Nat.shiftRight_or_distrib, Nat.shiftRight_or_distrib, hfront, hv4, Nat.or_zero]
    exact Nat.or_zero _
  | iid id =>
    rw [hface, interfaceBits] at hbits
    simp only
    rw [Nat.shiftRight_or_distrib, hfront,
      Nat.shiftRight_eq_zero id 128 (hbits.trans (by norm_num)), Nat.or_zero]

/-- A bound on the number put together that is a multiple of `2 ^ 128` is one on the ISD. Kind: L -/
theorem S2ipArgs.Reads.joinIp_lt_mul_iff {a : S2ipArgs} {v : S2ipValues} (h : a.Reads v)
    (hs : a.subnetBits ≤ 24) (bound : ℕ) :
    joinIp v.isd.toNat v.encoded v.localPrefix v.subnet v.interface a.subnetBits < bound * 2 ^ 128 ↔
      v.isd.toNat < bound * 2 ^ 20 := by
  rw [← Nat.div_lt_iff_lt_mul (by norm_num), ← Nat.shiftRight_eq_div_pow, h.joinIp_shiftRight hs,
    Nat.shiftRight_eq_div_pow, Nat.div_lt_iff_lt_mul (by norm_num)]

/-- It is that of an address exactly if the ISD has at most twenty bits. Kind: L -/
theorem S2ipArgs.Reads.joinIp_lt_iff {a : S2ipArgs} {v : S2ipValues} (h : a.Reads v)
    (hs : a.subnetBits ≤ 24) :
    joinIp v.isd.toNat v.encoded v.localPrefix v.subnet v.interface a.subnetBits < 2 ^ 128 ↔
      v.isd.toNat < 2 ^ 20 := by
  have hone := h.joinIp_lt_mul_iff hs 1
  rwa [one_mul, one_mul] at hone

/-- Whether it has more decimal digits than a given number is decided by the ISD. Kind: L -/
theorem S2ipArgs.Reads.joinIp_lt_pow_iff {a : S2ipArgs} {v : S2ipValues} (h : a.Reads v)
    (hs : a.subnetBits ≤ 24) (k : ℕ) :
    joinIp v.isd.toNat v.encoded v.localPrefix v.subnet v.interface a.subnetBits < 10 ^ (k + 128) ↔
      v.isd.toNat <<< 108 < 10 ^ (k + 128) := by
  have hpow : 10 ^ (k + 128) = 10 ^ k * 5 ^ 128 * 2 ^ 128 := by
    rw [pow_add, mul_assoc, ← mul_pow, show 5 * 2 = 10 from rfl]
  rw [hpow, h.joinIp_lt_mul_iff hs, Nat.shiftLeft_eq]
  omega

/-- The exception for the number put together is that for the bits of the ISD in it. Kind: L -/
theorem S2ipArgs.Reads.notPermitted_joinIp {a : S2ipArgs} {v : S2ipValues} (h : a.Reads v)
    (hs : a.subnetBits ≤ 24) :
    notPermitted (joinIp v.isd.toNat v.encoded v.localPrefix v.subnet v.interface a.subnetBits)
      = notPermitted (v.isd.toNat <<< 108) := by
  have hdigits : maxStrDigits = 4172 + 128 := rfl
  unfold notPermitted
  rw [hdigits]
  exact if_congr (h.joinIp_lt_pow_iff hs 4172) rfl rfl

/-- **A conversion that raises something else than `InvalidArgument`**: the texts are read, and the
ISD has more than twenty bits. Kind: P -/
theorem S2ipArgs.run_raises_iff (a : S2ipArgs) (hs : a.subnetBits ≤ 24) (exc : PyExc) :
    a.run = .error exc ∧ isInvalidArgument exc = false ↔
      ∃ v, a.Reads v ∧ 2 ^ 20 ≤ v.isd.toNat ∧ exc = notPermitted (v.isd.toNat <<< 108) := by
  have hread : ∀ v, a.Reads v → (a.run = .error exc ↔
      2 ^ 20 ≤ v.isd.toNat ∧ exc = notPermitted (v.isd.toNat <<< 108)) := by
    intro v hv
    rw [hv.run_eq, IPv6Address.ofInt]
    by_cases hlt : v.isd.toNat < 2 ^ 20
    · rw [dif_pos ((hv.joinIp_lt_iff hs).mpr hlt)]
      exact iff_of_false (fun h => by cases h) fun h => absurd hlt (not_lt.mpr h.1)
    · rw [dif_neg fun h => hlt ((hv.joinIp_lt_iff hs).mp h), hv.notPermitted_joinIp hs]
      constructor
      · intro h
        exact ⟨not_lt.mp hlt, (Except.error.inj h).symm⟩
      · rintro ⟨-, rfl⟩
        rfl
  constructor
  · rintro ⟨hrun, hother⟩
    cases hv : a.read with
    | error exc' =>
      rw [a.run_eq, hv, error_bind] at hrun
      obtain rfl := Except.error.inj hrun
      have hinvalid : isInvalidArgument exc' = true := a.read_raises _ hv
      rw [hother] at hinvalid
      cases hinvalid
    | ok v =>
      have hreads := reads_of_read hv
      exact ⟨v, hreads, (hread v hreads).mp hrun⟩
  · rintro ⟨v, hreads, hlarge, rfl⟩
    exact ⟨(hread v hreads).mpr ⟨hlarge, rfl⟩, isInvalidArgument_notPermitted _⟩

/-- The line has four words that are read, the first of them with an ISD of more than twenty bits.
Kind: D -/
def TooLarge (subnetBits : ℕ) (line : Text) (isd : ℕ) : Prop :=
  2 ^ 20 ≤ isd ∧ ∃ a : S2ipArgs, a.subnetBits = subnetBits ∧
    words isSpace line = [a.isdAsn, a.localPrefix, a.subnet, a.interface] ∧
    ∃ v, a.Reads v ∧ v.isd.toNat = isd

/-- A line is too large exactly if its conversion raises an exception that is not handled.
Kind: L -/
theorem tooLarge_iff {subnetBits : ℕ} (hs : subnetBits ≤ 24) (line : Text) (exc : PyExc) :
    convertLine subnetBits line = .error (.exception exc) ∧ isInvalidArgument exc = false ↔
      ∃ isd, TooLarge subnetBits line isd ∧ exc = notPermitted (isd <<< 108) := by
  constructor
  · rintro ⟨hline, hother⟩
    rcases convertLine_cases subnetBits line with hno | ⟨a, rfl, hwords, hrun⟩
    · cases hno.symm.trans hline
    · rw [hrun] at hline
      cases htext : a.run with
      | ok text =>
        rw [htext] at hline
        cases hline
      | error exc' =>
        rw [htext] at hline
        obtain rfl := Stop.exception.inj (Except.error.inj hline)
        obtain ⟨v, hv, hlarge, hexc⟩ := (a.run_raises_iff hs exc').mp ⟨htext, hother⟩
        exact ⟨_, ⟨hlarge, a, rfl, hwords, v, hv, rfl⟩, hexc⟩
  · rintro ⟨isd, ⟨hlarge, a, rfl, hwords, v, hv, rfl⟩, rfl⟩
    obtain ⟨hrun, hother⟩ := (a.run_raises_iff hs _).mpr ⟨v, hv, hlarge, rfl⟩
    refine ⟨?_, hother⟩
    rw [convertLine, hwords]
    show ([·]) <$> stopOnError a.run = _
    rw [hrun]
    rfl

/-- **How `scion2ip --pipe` ends**, for any text on standard input: with status 0 if every line is
converted; with an exception if the first line that is not has an ISD of more than twenty bits and
is all right but for that, where the ISD decides which exception it is; else with status −1.
Kind: P -/
theorem scion2ip_ended (address : List Text) (stdin : Text) {s : ℤ} (hs : 0 ≤ s ∧ s ≤ 24) :
    ((scion2ip ⟨address, true, s⟩ stdin).ended = .returned 0 ↔
      ∀ line ∈ stdinLines stdin, ∃ out, convertLine s.toNat line = .ok out) ∧
    (∀ exc, (scion2ip ⟨address, true, s⟩ stdin).ended = .raised exc ↔
      ∃ before line after isd, stdinLines stdin = before ++ line :: after ∧
        (∀ l ∈ before, ∃ out, convertLine s.toNat l = .ok out) ∧ TooLarge s.toNat line isd ∧
        exc = notPermitted (isd <<< 108)) ∧
    (∀ value, (scion2ip ⟨address, true, s⟩ stdin).ended = .returned value →
      value = 0 ∨ value = -1) := by
  have hnat : s.toNat ≤ 24 := by omega
  rw [scion2ip_pipe address stdin hs]
  refine ⟨?_, fun exc => ?_, fun value hvalue => ?_⟩
  · rw [ended_eq_zero_iff, feed_eq_none_iff]
  · rw [ended_eq_raised_iff, feed_eq_some_iff]
    constructor
    · rintro ⟨⟨before, line, after, heq, hok, hstop⟩, hother⟩
      obtain ⟨isd, hlarge, hexc⟩ := (tooLarge_iff hnat line exc).mp ⟨hstop, hother⟩
      exact ⟨before, line, after, isd, heq, hok, hlarge, hexc⟩
    · rintro ⟨before, line, after, isd, heq, hok, hlarge, hexc⟩
      obtain ⟨hstop, hother⟩ := (tooLarge_iff hnat line exc).mpr ⟨isd, hlarge, hexc⟩
      exact ⟨⟨before, line, after, heq, hok, hstop⟩, hother⟩
  · exact ended_values _ hvalue

/-- An ISD of twenty-one bits in the second line. Kind: C -/
theorem scion2ip_ended_sample :
    (scion2ip ⟨[], true, 8⟩ "1-64512 0 0 1\n1048576-64512 0 0 1\n".toList).ended
      = .raised .AddressValueError := by
  have hlines : stdinLines "1-64512 0 0 1\n1048576-64512 0 0 1\n".toList
      = ["1-64512 0 0 1\n".toList] ++ "1048576-64512 0 0 1\n".toList :: [] := by decide +kernel
  have hfirst : convertLine 8 "1-64512 0 0 1\n".toList = .ok ["fc00:10fc::1".toList] := by
    decide +kernel
  have hread : S2ipArgs.read ⟨"1048576-64512".toList, ['0'], ['0'], ['1'], 8⟩
      = .ok ⟨1048576, ⟨64512, by norm_num⟩, 0, 0, .iid 1, 64512⟩ := by decide +kernel
  refine ((scion2ip_ended [] _ (s := 8) (by norm_num)).2.1 _).mpr
    ⟨_, _, _, 1048576, hlines, ?_, ?_, by decide +kernel⟩
  · intro line hline
    rw [List.mem_singleton.mp hline]
    exact ⟨_, hfirst⟩
  · exact ⟨by norm_num, ⟨"1048576-64512".toList, ['0'], ['0'], ['1'], 8⟩, rfl, by decide +kernel,
      _, S2ipArgs.reads_of_read hread, by decide⟩

end ScionIp.Scion2Ip
