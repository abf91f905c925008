import ScionIp.Bootstrap.Server

/-!
# What the bootstrap server answers

The directory of an AS may hold anything: files with other names, directories, several files whose
names are read alike, files that cannot be read. What the server is for is a shelf of TRCs, put
there one after the other, and a request takes the last one of its name.

* `doGet`, `doHead` — the request handler, with the headers that depend on the content.
* `Serves` — the answers to all requests, for a shelf.
* `loadFiles_serves` — the server refines the shelf, for every directory: either reading fails as it
  does for the shelf, or every request is answered from it, and no request raises.
-/

namespace ScionIp.Bootstrap

open ScionIp.Lib ScionIp.Python

variable {Json : Type}

/-! ## The request handler -/

/-- `str.encode()`. Kind: D -/
def encode (raw : Text) : Bytes := raw.flatMap String.utf8EncodeChar

/-- The bytes of an entry; `dumps` is `json.dumps` with the indentation of the source.
Source: `bootstrap-server.py`, `RequestHandler.send_head`. Kind: D -/
def encodedContent (dumps : Content Json → Text) : Text × Content Json → Py Bytes
  | (ctype, content) =>
      if ctype = "application/json".toList then .ok (encode (dumps content))
      else
        match content with
        | .text raw => .ok (encode raw)
        | _ => .error (.AttributeError "encode")

/-- The head of a response: the media type and the length, or the status 404. Kind: D -/
inductive Head where
  | OK (contentType : Text) (contentLength : ℕ)
  | NOT_FOUND
  deriving DecidableEq

/-- The head that is sent, and the content that is returned.
Source: `bootstrap-server.py`, `RequestHandler.send_head`. Kind: D -/
def sendHeaders (dumps : Content Json → Text) (data : Data Json) (path : Text) :
    Py (Head × Option Bytes) :=
  match sendHead data path with
  | none => .ok (.NOT_FOUND, none)
  | some entry => do
      let encoded ← encodedContent dumps entry
      return (.OK entry.1 encoded.length, some encoded)

/-- The head, and the bytes written behind it; empty content is not written.
Source: `bootstrap-server.py`, `RequestHandler.do_GET`. Kind: D -/
def doGet (dumps : Content Json → Text) (data : Data Json) (path : Text) : Py (Head × Bytes) := do
  let (head, content) ← sendHeaders dumps data path
  match content with
  | none => return (head, [])
  | some content => return (head, if content = [] then [] else content)

/-- Source: `bootstrap-server.py`, `RequestHandler.do_HEAD`. Kind: D -/
def doHead (dumps : Content Json → Text) (data : Data Json) (path : Text) : Py Head := do
  let (head, _) ← sendHeaders dumps data path
  return head

/-! ## The shelf -/

/-- The identity that is read from the name of a file. Kind: D -/
def trcOf (trc : CertPath) : Option TrcId :=
  if trc.isFile then
    match parseTrcName trc.stem with
    | .ok id => some id
    | .error _ => none
  else none

/-- The files that are read as TRCs. Kind: D -/
def trcFiles (certs : List CertPath) : List (TrcId × CertPath) :=
  certs.filterMap fun trc => (trcOf trc).map fun id => (id, trc)

/-- The TRCs in the order in which they are read. Kind: D -/
abbrev Shelf : Type := List (TrcId × Text)

/-- **What the server is for**: the texts of these files. Kind: D -/
def readTrcs (certs : List CertPath) : Py Shelf :=
  (trcFiles certs).mapM fun file => do
    let text ← file.2.readText
    return (file.1, text)

/-- What is stored for a URL, if the server holds the shelf. Kind: D -/
def shelfEntry (json : Json) (shelf : Shelf) (url : Text) : Option (Text × Content Json) :=
  if url = "/topology".toList then some ("application/json".toList, .topology json)
  else if url = "/trcs".toList then
    some ("application/json".toList, .trcs (shelf.map Prod.fst))
  else
    (shelf.reverse.find? fun trc => trcUrl trc.1 = url).map fun trc =>
      ("text/plain".toList, .text trc.2)

/-- **The dictionary holds the shelf.** Kind: D -/
def Holds (json : Json) (shelf : Shelf) (data : Data Json) : Prop :=
  ∀ url, sendHead data url = shelfEntry json shelf url

/-- The numbers are digits. Kind: D -/
def TrcId.Digits (id : TrcId) : Prop :=
  (0 ≤ id.isd ∧ id.isd < 10) ∧ (0 ≤ id.baseNumber ∧ id.baseNumber < 10) ∧
    (0 ≤ id.serialNumber ∧ id.serialNumber < 10)

/-! ## Names -/

/-- A character of the class is read as a digit. Kind: L -/
theorem pyInt_isDecimalDigit {c : Char} (h : isDecimalDigit c = true) :
    ∃ n : ℤ, pyInt 10 [c] = .ok n ∧ 0 ≤ n ∧ n < 10 := by
  have hdigit : ∀ d ∈ [decimalAndSpaceToAscii c], isDigitOf 10 d = true := by
    simpa [isDecimalDigit] using h
  have hsame : pyInt 10 [c] = pyInt 10 [decimalAndSpaceToAscii c] := by
    simp only [pyInt, List.map_cons, List.map_nil, decimalAndSpaceToAscii_digit (by norm_num) h]
  have hlt : digitVal (decimalAndSpaceToAscii c) < 10 := by
    simpa [isDecimalDigit, isDigitOf] using h
  refine ⟨_, hsame.trans (pyInt_digits (by norm_num) (List.cons_ne_nil _ _) hdigit
    (fun _ => by simp)), Int.natCast_nonneg _, ?_⟩
  rw [← List.nil_append [decimalAndSpaceToAscii c], valOf_concat, valOf_nil]
  omega

/-- **What a name is read as**: three digits, or it is skipped. Kind: L -/
theorem parseTrcName_cases (name : Text) :
    (∃ id : TrcId, parseTrcName name = .ok id ∧ id.Digits) ∨
      ∃ exc : PyExc, parseTrcName name = .error exc ∧ exc.isValueError = true := by
  unfold parseTrcName
  split
  · next isd base serial hmatch =>
      have hclass := captures_of_matchPieces hmatch
      have hclasses : trcPattern.filterMap Piece.class?
          = [isDecimalDigit, isDecimalDigit, isDecimalDigit] := rfl
      rw [hclasses] at hclass
      rw [List.forall₂_cons, List.forall₂_cons, List.forall₂_cons] at hclass
      obtain ⟨hisd, hbase, hserial, -⟩ := hclass
      obtain ⟨i, hi, hidigit⟩ := pyInt_isDecimalDigit hisd
      obtain ⟨b, hb, hbdigit⟩ := pyInt_isDecimalDigit hbase
      obtain ⟨s, hs, hsdigit⟩ := pyInt_isDecimalDigit hserial
      left
      refine ⟨⟨i, b, s⟩, ?_, hidigit, hbdigit, hsdigit⟩
      rw [hi, hb, hs]
      rfl
  · exact Or.inr ⟨_, rfl, rfl⟩

/-- The identity of a file consists of digits. Kind: L -/
theorem digits_of_trcOf {trc : CertPath} {id : TrcId} (h : trcOf trc = some id) : id.Digits := by
  unfold trcOf at h
  split_ifs at h
  rcases parseTrcName_cases trc.stem with ⟨id', hname, hdigits⟩ | ⟨exc, hname, -⟩
  · rw [hname] at h
    cases h
    exact hdigits
  · rw [hname] at h
    cases h

/-- A number of digits is a natural number. Kind: L -/
theorem TrcId.Digits.exists_nat {id : TrcId} (h : id.Digits) :
    ∃ i b s : ℕ, id = ⟨i, b, s⟩ := by
  obtain ⟨isd, base, serial⟩ := id
  obtain ⟨i, rfl⟩ := Int.eq_ofNat_of_zero_le h.1.1
  obtain ⟨b, rfl⟩ := Int.eq_ofNat_of_zero_le h.2.1.1
  obtain ⟨s, rfl⟩ := Int.eq_ofNat_of_zero_le h.2.2.1
  exact ⟨i, b, s, rfl⟩

/-- The URL tells the identity. Kind: L -/
theorem TrcId.Digits.eq_of_url {id id' : TrcId} (h : id.Digits) (h' : id'.Digits)
    (hurl : trcUrl id = trcUrl id') : id = id' := by
  obtain ⟨i, b, s, rfl⟩ := h.exists_nat
  obtain ⟨i', b', s', rfl⟩ := h'.exists_nat
  obtain ⟨rfl, rfl, rfl⟩ := trcUrl_inj hurl
  rfl

/-- No TRC has the URL of the topology. Kind: L -/
theorem trcUrl_ne_topology (id : TrcId) : trcUrl id ≠ "/topology".toList := by
  intro h
  have hthird : (trcUrl id)[2]? = some 'r' := rfl
  rw [h] at hthird
  cases hthird

/-! ## One file -/

/-- A file that is skipped. Kind: L -/
theorem addTrc_of_none {trc : CertPath} (h : trcOf trc = none) (data : Data Json) :
    addTrc data trc = .ok data := by
  unfold trcOf at h
  unfold addTrc
  split_ifs at h with hfile
  · rw [if_neg (not_not.mpr hfile)]
    rcases parseTrcName_cases trc.stem with ⟨id, hname, -⟩ | ⟨exc, hname, hvalue⟩
    · rw [hname] at h
      cases h
    · simp only [hname, if_pos hvalue]
  · rw [if_pos hfile]

/-- A TRC. Kind: L -/
theorem addTrc_of_some {trc : CertPath} {id : TrcId} (h : trcOf trc = some id)
    (data : Data Json) :
    addTrc data trc = (do
      let text ← trc.readText
      return (appendTrc data id).insert (trcUrl id) ("text/plain".toList, .text text)) := by
  unfold trcOf at h
  unfold addTrc
  split_ifs at h with hfile
  rw [if_neg (not_not.mpr hfile)]
  rcases parseTrcName_cases trc.stem with ⟨id', hname, -⟩ | ⟨exc, hname, -⟩
  · rw [hname] at h
    cases h
    simp only [hname]
  · rw [hname] at h
    cases h

/-- A file that is skipped adds nothing to the shelf. Kind: L -/
theorem readTrcs_cons_of_none {trc : CertPath} (h : trcOf trc = none) (certs : List CertPath) :
    readTrcs (trc :: certs) = readTrcs certs := by
  simp [readTrcs, trcFiles, h]

/-- A TRC is put on the shelf. Kind: L -/
theorem readTrcs_cons_of_some {trc : CertPath} {id : TrcId} (h : trcOf trc = some id)
    (certs : List CertPath) :
    readTrcs (trc :: certs) = (do
      let text ← trc.readText
      let shelf ← readTrcs certs
      return (id, text) :: shelf) := by
  simp only [readTrcs, trcFiles, List.filterMap_cons, h, Option.map_some, List.mapM_cons]
  cases trc.readText with
  | error exc => rfl
  | ok text => rfl

/-- **One TRC more**: the dictionary holds the longer shelf. Kind: L -/
theorem Holds.append {json : Json} {shelf : Shelf} {data : Data Json} (h : Holds json shelf data)
    (id : TrcId) (text : Text) :
    Holds json (shelf ++ [(id, text)])
      ((appendTrc data id).insert (trcUrl id) ("text/plain".toList, .text text)) := by
  have hlist : data.lookup "/trcs".toList
      = some ("application/json".toList, .trcs (shelf.map Prod.fst)) := h "/trcs".toList
  have happend : appendTrc data id = data.insert "/trcs".toList
      ("application/json".toList, .trcs (shelf.map Prod.fst ++ [id])) := by
    simp only [appendTrc, hlist]
  intro url
  rw [sendHead, happend]
  by_cases htrc : url = trcUrl id
  · subst htrc
    rw [AList.lookup_insert, shelfEntry, if_neg (trcUrl_ne_topology id), if_neg (trcUrl_ne_trcs id)]
    simp
  · rw [AList.lookup_insert_ne htrc]
    by_cases hurl : url = "/trcs".toList
    · subst hurl
      rw [AList.lookup_insert, shelfEntry, if_neg (by decide), if_pos rfl]
      simp
    · have hskip : ¬ trcUrl id = url := fun heq => htrc heq.symm
      rw [AList.lookup_insert_ne hurl]
      refine (h url).trans ?_
      rw [shelfEntry, shelfEntry, if_neg hurl, if_neg hurl, List.reverse_append,
        List.reverse_singleton, List.singleton_append,
        List.find?_cons_of_neg (by simpa using hskip)]

/-! ## The whole directory -/

/-- **All files**: the loop refines the reading of the shelf. The induction is on the files.
Kind: L -/
theorem Holds.run {json : Json} (certs : List CertPath) {shelf : Shelf} {data : Data Json}
    (h : Holds json shelf data) :
    match readTrcs certs with
    | .error exc => certs.foldlM addTrc data = .error exc
    | .ok new =>
        ∃ data', certs.foldlM addTrc data = .ok data' ∧ Holds json (shelf ++ new) data' := by
  induction certs generalizing shelf data with
  | nil =>
      refine ⟨data, rfl, ?_⟩
      rw [List.reverse_nil, List.append_nil]
      exact h
  | cons trc certs ih =>
      rw [List.foldlM_cons]
      cases htrc : trcOf trc with
      | none =>
          rw [readTrcs_cons_of_none htrc, addTrc_of_none htrc, ok_bind]
          exact ih h
      | some id =>
          rw [readTrcs_cons_of_some htrc, addTrc_of_some htrc]
          cases trc.readText with
          | error exc => rfl
          | ok text =>
              have hrest := ih (h.append id text)
              rw [ok_bind, ok_bind]
              cases hread : readTrcs certs with
              | error exc =>
                  rw [hread] at hrest
                  exact hrest
              | ok new =>
                  rw [hread] at hrest
                  obtain ⟨data', hrun, hholds⟩ := hrest
                  refine ⟨data', hrun, ?_⟩
                  rwa [List.append_assoc, List.singleton_append] at hholds

/-- The dictionary without TRCs. Kind: L -/
theorem holds_nil (json : Json) :
    Holds json [] (AList.insert "/trcs".toList ("application/json".toList, .trcs [])
      (AList.insert "/topology".toList ("application/json".toList, .topology json) ∅)) := by
  intro url
  rw [sendHead]
  by_cases hurl : url = "/trcs".toList
  · subst hurl
    rw [AList.lookup_insert]
    rfl
  · rw [AList.lookup_insert_ne hurl]
    by_cases htop : url = "/topology".toList
    · subst htop
      rw [AList.lookup_insert]
      rfl
    · rw [AList.lookup_insert_ne htop, shelfEntry, if_neg htop, if_neg hurl]
      rfl

/-- The identities on the shelf consist of digits. Kind: L -/
theorem digits_of_readTrcs {certs : List CertPath} {shelf : Shelf}
    (h : readTrcs certs = .ok shelf) : ∀ trc ∈ shelf, trc.1.Digits := by
  induction certs generalizing shelf with
  | nil =>
      cases h
      exact fun trc htrc => absurd htrc List.not_mem_nil
  | cons trc certs ih =>
      cases htrc : trcOf trc with
      | none =>
          rw [readTrcs_cons_of_none htrc] at h
          exact ih h
      | some id =>
          rw [readTrcs_cons_of_some htrc, bind_eq_ok_iff] at h
          obtain ⟨text, -, hrest⟩ := h
          obtain ⟨new, hnew, hok⟩ := bind_eq_ok_iff.mp hrest
          cases hok
          exact List.forall_mem_cons.mpr ⟨digits_of_trcOf htrc, ih hnew⟩

/-! ## The answers -/

/-- The response with the text as its content. Kind: D -/
def answer (contentType raw : Text) : Head × Bytes :=
  (.OK contentType (encode raw).length, encode raw)

/-- **The answers of a server with a shelf**: the topology and the list of identities as JSON, for
each identity the text that was put there last, and no file otherwise. Kind: D -/
structure Serves (dumps : Content Json → Text) (json : Json) (shelf : Shelf) (data : Data Json) :
    Prop where
  digits : ∀ trc ∈ shelf, trc.1.Digits
  topology : doGet dumps data "/topology".toList
    = .ok (answer "application/json".toList (dumps (.topology json)))
  trcs : doGet dumps data "/trcs".toList
    = .ok (answer "application/json".toList (dumps (.trcs (shelf.map Prod.fst))))
  trc : ∀ front id text back, shelf = front ++ (id, text) :: back →
    (∀ later ∈ back, later.1 ≠ id) →
    doGet dumps data (trcUrl id) = .ok (answer "text/plain".toList text)
  other : ∀ url, url ≠ "/topology".toList → url ≠ "/trcs".toList →
    (∀ trc ∈ shelf, url ≠ trcUrl trc.1) → doGet dumps data url = .ok (.NOT_FOUND, [])
  total : ∀ url, ∃ head body, doGet dumps data url = .ok (head, body) ∧
    doHead dumps data url = .ok head

section Answers

variable {dumps : Content Json → Text} {data : Data Json} {url : Text}

/-- An entry that is JSON. Kind: L -/
theorem sendHeaders_json {content : Content Json}
    (h : sendHead data url = some ("application/json".toList, content)) :
    sendHeaders dumps data url = .ok (.OK "application/json".toList (encode (dumps content)).length,
      some (encode (dumps content))) := by
  rw [sendHeaders, h]
  rfl

/-- An entry that is text. Kind: L -/
theorem sendHeaders_text {raw : Text}
    (h : sendHead data url = some ("text/plain".toList, .text raw)) :
    sendHeaders dumps data url
      = .ok (.OK "text/plain".toList (encode raw).length, some (encode raw)) := by
  rw [sendHeaders, h]
  rfl

/-- No entry. Kind: L -/
theorem sendHeaders_none (h : sendHead data url = none) :
    sendHeaders dumps data url = .ok (.NOT_FOUND, none) := by
  rw [sendHeaders, h]

/-- The content is written whole. Kind: L -/
theorem doGet_of_some {head : Head} {content : Bytes}
    (h : sendHeaders dumps data url = .ok (head, some content)) :
    doGet dumps data url = .ok (head, content) := by
  rw [doGet, h, ok_bind]
  cases content with
  | nil => rfl
  | cons b bs => rfl

/-- Nothing is written. Kind: L -/
theorem doGet_of_none {head : Head} (h : sendHeaders dumps data url = .ok (head, none)) :
    doGet dumps data url = .ok (head, []) := by
  rw [doGet, h]
  rfl

/-- The head alone. Kind: L -/
theorem doHead_eq {head : Head} {content : Option Bytes}
    (h : sendHeaders dumps data url = .ok (head, content)) :
    doHead dumps data url = .ok head := by
  rw [doHead, h]
  rfl

end Answers

/-- What a shelf has for a URL is JSON, a text, or nothing. Kind: L -/
theorem shelfEntry_cases (json : Json) (shelf : Shelf) (url : Text) :
    (∃ content, shelfEntry json shelf url = some ("application/json".toList, content)) ∨
      (∃ raw, shelfEntry json shelf url = some ("text/plain".toList, .text raw)) ∨
      shelfEntry json shelf url = none := by
  unfold shelfEntry
  split_ifs
  · exact Or.inl ⟨_, rfl⟩
  · exact Or.inl ⟨_, rfl⟩
  · cases shelf.reverse.find? fun trc => trcUrl trc.1 = url with
    | none => exact Or.inr (Or.inr rfl)
    | some trc => exact Or.inr (Or.inl ⟨trc.2, rfl⟩)

/-- The last text of an identity. Kind: L -/
theorem shelfEntry_trcUrl (json : Json) {shelf front back : Shelf} {id : TrcId} {text : Text}
    (hdigits : ∀ trc ∈ shelf, trc.1.Digits) (hshelf : shelf = front ++ (id, text) :: back)
    (hlast : ∀ later ∈ back, later.1 ≠ id) :
    shelfEntry json shelf (trcUrl id) = some ("text/plain".toList, .text text) := by
  subst hshelf
  have hskip : (back.reverse.find? fun trc => trcUrl trc.1 = trcUrl id) = none := by
    rw [List.find?_eq_none]
    intro later hmem hurl
    rw [List.mem_reverse] at hmem
    have hlater := hdigits later (by simp [hmem])
    have hid := hdigits (id, text) (by simp)
    exact hlast later hmem (hlater.eq_of_url hid (of_decide_eq_true hurl))
  rw [shelfEntry, if_neg (trcUrl_ne_topology id), if_neg (trcUrl_ne_trcs id)]
  simp [List.find?_append, hskip]

/-- **The answers of a dictionary that holds a shelf.** Kind: L -/
theorem Holds.serves {json : Json} {shelf : Shelf} {data : Data Json} (h : Holds json shelf data)
    (hdigits : ∀ trc ∈ shelf, trc.1.Digits) (dumps : Content Json → Text) :
    Serves dumps json shelf data where
  digits := hdigits
  topology := doGet_of_some (sendHeaders_json (h _))
  trcs := doGet_of_some (sendHeaders_json (h _))
  trc front id text back hshelf hlast := doGet_of_some (sendHeaders_text
    ((h _).trans (shelfEntry_trcUrl json hdigits hshelf hlast)))
  other url htop hlist hnone := by
    refine doGet_of_none (sendHeaders_none ((h url).trans ?_))
    rw [shelfEntry, if_neg htop, if_neg hlist, Option.map_eq_none_iff, List.find?_eq_none]
    intro trc htrc hurl
    exact hnone trc (List.mem_reverse.mp htrc) (of_decide_eq_true hurl).symm
  total url := by
    rcases shelfEntry_cases json shelf url with ⟨content, hentry⟩ | ⟨raw, hentry⟩ | hentry
    · have hsend : sendHeaders dumps data url = _ := sendHeaders_json ((h url).trans hentry)
      exact ⟨_, _, doGet_of_some hsend, doHead_eq hsend⟩
    · have hsend : sendHeaders dumps data url = _ := sendHeaders_text ((h url).trans hentry)
      exact ⟨_, _, doGet_of_some hsend, doHead_eq hsend⟩
    · have hsend : sendHeaders dumps data url = _ := sendHeaders_none ((h url).trans hentry)
      exact ⟨_, _, doGet_of_none hsend, doHead_eq hsend⟩

/-- **The server refines the shelf**, for every content of the directory, in whatever order it is
listed. It fails to start exactly as reading the topology and then the TRCs does, with the same
exception; and when it starts, it answers every request from the shelf. Kind: P -/
theorem loadFiles_serves (dumps : Content Json → Text) (topology : Py Json)
    (certs : List CertPath) :
    match (do return (← topology, ← readTrcs certs) : Py (Json × Shelf)) with
    | .error exc => loadFiles topology certs = .error exc
    | .ok (json, shelf) =>
        ∃ data, loadFiles topology certs = .ok data ∧ Serves dumps json shelf data := by
  cases topology with
  | error exc => rfl
  | ok json =>
      have hrun := (holds_nil json).run certs
      cases hread : readTrcs certs with
      | error exc =>
          rw [hread] at hrun
          exact hrun
      | ok shelf =>
          rw [hread] at hrun
          obtain ⟨data, hload, hholds⟩ := hrun
          exact ⟨data, hload, hholds.serves (digits_of_readTrcs hread) dumps⟩

end ScionIp.Bootstrap
