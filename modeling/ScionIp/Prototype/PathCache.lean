import ScionIp.Python.IpText

/-!
# The path cache of the Python prototype

* `parsePath`, `splitAddr` — what is made of the raw path and the router address of the daemon.
* `PathCache.lookup` — the first cached path, after asking the daemon once for a destination that
  is not in the dictionary. The daemon's answer is a parameter (`GetPaths`); it may be an exception.
  The cache is part of the result also when an exception is raised. `PathCache.lookup_cases` says
  all a lookup can do.
* `PathCache.Holds` — a property that the daemon promises of its answers, of all that is cached.
-/

namespace ScionIp.Prototype

open ScionIp.Lib ScionIp.Python

/-- A path object. Kind: D -/
inductive ScionPath where
  | empty
  | scion (raw : Bytes)
  deriving DecidableEq

/-- The underlay address of a router; `empty` is the pair `("", 0)`. A link-local address may have
a zone. Kind: D -/
inductive RouterAddr where
  | empty
  | addr (ip : IPAddress) (scopeId : Option Text) (port : ℤ)
  deriving DecidableEq

/-- Source: `scitun.py`, `parse_path`. Kind: D -/
def parsePath (raw : Bytes) : ScionPath := if raw.length = 0 then .empty else .scion raw

/-- `text.strip("[]")`. Kind: D -/
def stripBrackets (text : Text) : Text :=
  (text.dropWhile fun c => c = '[' ∨ c = ']').rdropWhile fun c => c = '[' ∨ c = ']'

/-- The text is cut at its last colon. Source: `scitun.py`, `split_addr`. Kind: D -/
def splitAddr (addr : Text) : Py RouterAddr :=
  if addr = [] then .ok .empty
  else
    match (addr.splitOn ':').reverse with
    | port :: part :: parts => do
        let (ip, scopeId) ← ipAddress (stripBrackets ([':'].intercalate (part :: parts).reverse))
        let port ← pyInt 10 port
        return .addr ip scopeId port
    | _ => .error (.Exception "Invalid router IP")

/-- A path and its router. Kind: D -/
abbrev CachedPath := ScionPath × RouterAddr

/-- The daemon's answer to `get_paths`. Source: `daemon.py`, `Daemon.get_paths`. Kind: D -/
abbrev GetPaths := ℕ → Py (List (Bytes × Text))

/-- The dictionary, and the daemon's own ISD-ASN. Source: `scitun.py`, `PathCache`. Kind: D -/
structure PathCache where
  localIa : ℕ
  paths : ℕ → Option (List CachedPath)

/-- Source: `scitun.py`, `PathCache.local_ia`. Kind: D -/
def PathCache.localIsdAsn (cache : PathCache) : ℕ × ℕ :=
  ((cache.localIa >>> 48) &&& 0xffff, cache.localIa &&& 0xffffffffffff)

/-- The list made of the daemon's answer. Source: `scitun.py`, `PathCache.lookup`. Kind: D -/
def fetchPaths (getPaths : GetPaths) (dstIa : ℕ) : Py (List CachedPath) := do
  let answer ← getPaths dstIa
  answer.mapM fun (raw, router) => do return (parsePath raw, ← splitAddr router)

/-- A list is made of the daemon's answer exactly if each router address is readable. Kind: L -/
theorem exists_fetchPaths_iff (getPaths : GetPaths) (dstIa : ℕ) :
    (∃ paths, fetchPaths getPaths dstIa = .ok paths) ↔
      ∃ answer, getPaths dstIa = .ok answer ∧
        ∀ path ∈ answer, ∃ router, splitAddr path.2 = .ok router := by
  have hmade : ∀ path : Bytes × Text,
      (∃ made, (do return (parsePath path.1, ← splitAddr path.2) : Py CachedPath) = .ok made) ↔
        ∃ router, splitAddr path.2 = .ok router := by
    intro path
    cases splitAddr path.2 with
    | error exc =>
        exact iff_of_false (not_exists_error_eq_ok exc) (not_exists_error_eq_ok exc)
    | ok router => exact iff_of_true ⟨_, rfl⟩ ⟨_, rfl⟩
  constructor
  · rintro ⟨paths, hpaths⟩
    obtain ⟨answer, hanswer, hmap⟩ := bind_eq_ok_iff.mp hpaths
    refine ⟨answer, hanswer, fun path hpath => (hmade path).mp ?_⟩
    exact exists_mapM_eq_ok_iff.mp ⟨paths, hmap⟩ path hpath
  · rintro ⟨answer, hanswer, hrouters⟩
    obtain ⟨paths, hmap⟩ := exists_mapM_eq_ok_iff.mpr fun path hpath =>
      (hmade path).mpr (hrouters path hpath)
    exact ⟨paths, bind_eq_ok_iff.mpr ⟨answer, hanswer, hmap⟩⟩

/-- The list made of an answer is as long as the answer. Kind: L -/
theorem length_of_fetchPaths {getPaths : GetPaths} {dstIa : ℕ} {answer : List (Bytes × Text)}
    {paths : List CachedPath} (hanswer : getPaths dstIa = .ok answer)
    (hpaths : fetchPaths getPaths dstIa = .ok paths) : paths.length = answer.length := by
  obtain ⟨answer', hanswer', hmap⟩ := bind_eq_ok_iff.mp hpaths
  obtain rfl := Except.ok.inj (hanswer.symm.trans hanswer')
  exact (mapM_eq_ok_iff.mp hmap).length_eq.symm

/-- A list made of the daemon's answer has the paths and routers of the answer. Kind: L -/
theorem mem_fetchPaths {getPaths : GetPaths} {ia : ℕ} {paths : List CachedPath}
    (h : fetchPaths getPaths ia = .ok paths) :
    ∃ answer, getPaths ia = .ok answer ∧
      ∀ path ∈ paths, ∃ raw ∈ answer, parsePath raw.1 = path.1 ∧ splitAddr raw.2 = .ok path.2 := by
  obtain ⟨answer, hanswer, hmap⟩ := bind_eq_ok_iff.mp h
  refine ⟨answer, hanswer, ?_⟩
  clear h hanswer
  induction mapM_eq_ok_iff.mp hmap with
  | nil => simp
  | @cons raw path answer paths hmade hrest ih =>
    obtain ⟨router, hrouter, hpair⟩ := bind_eq_ok_iff.mp hmade
    obtain rfl := Except.ok.inj hpair
    intro made hmem
    rcases List.mem_cons.mp hmem with rfl | hmem
    · exact ⟨raw, List.mem_cons_self, rfl, hrouter⟩
    · obtain ⟨raw', hraw', hmade'⟩ := ih (mapM_eq_ok_iff.mpr hrest) made hmem
      exact ⟨raw', List.mem_cons_of_mem _ hraw', hmade'⟩

/-- Source: `scitun.py`, `PathCache.lookup`. Kind: D -/
def PathCache.lookup (getPaths : GetPaths) (cache : PathCache) (dstIa : ℕ) :
    Py (Option CachedPath) × PathCache :=
  match cache.paths dstIa with
  | some paths => (.ok paths.head?, cache)
  | none =>
      match fetchPaths getPaths dstIa with
      | .error exc => (.error exc, cache)
      | .ok paths =>
          (.ok paths.head?, { cache with paths := Function.update cache.paths dstIa (some paths) })

/-- **Inversion of a lookup**: the ISD-ASN is in the dictionary, the daemon or the parsing of its
answer raises, or the answer is stored. Kind: L -/
theorem PathCache.lookup_cases (getPaths : GetPaths) (cache : PathCache) (dstIa : ℕ) :
    (∃ paths, cache.paths dstIa = some paths ∧
      cache.lookup getPaths dstIa = (.ok paths.head?, cache)) ∨
    (∃ exc, cache.paths dstIa = none ∧ fetchPaths getPaths dstIa = .error exc ∧
      cache.lookup getPaths dstIa = (.error exc, cache)) ∨
    (∃ paths, cache.paths dstIa = none ∧ fetchPaths getPaths dstIa = .ok paths ∧
      cache.lookup getPaths dstIa = (.ok paths.head?,
        { cache with paths := Function.update cache.paths dstIa (some paths) })) := by
  unfold lookup
  cases hknown : cache.paths dstIa with
  | some paths => exact .inl ⟨paths, rfl, rfl⟩
  | none =>
      cases hfetch : fetchPaths getPaths dstIa with
      | error exc => exact .inr (.inl ⟨exc, rfl, rfl, rfl⟩)
      | ok paths => exact .inr (.inr ⟨paths, rfl, rfl, rfl⟩)

/-- A lookup does not change the daemon's own ISD-ASN. Kind: L -/
theorem PathCache.lookup_localIa (getPaths : GetPaths) (cache : PathCache) (dstIa : ℕ) :
    (cache.lookup getPaths dstIa).2.localIa = cache.localIa := by
  rcases cache.lookup_cases getPaths dstIa with ⟨_, _, heq⟩ | ⟨_, _, _, heq⟩ | ⟨_, _, _, heq⟩ <;>
    rw [heq]

/-- What is looked up is in the cache then. Kind: L -/
theorem lookup_mem {getPaths : GetPaths} {cache : PathCache} {ia : ℕ} {path : CachedPath}
    (h : (cache.lookup getPaths ia).1 = .ok (some path)) :
    ∃ paths, (cache.lookup getPaths ia).2.paths ia = some paths ∧ path ∈ paths := by
  rcases cache.lookup_cases getPaths ia with ⟨paths, hknown, heq⟩ | ⟨_, _, _, heq⟩ |
    ⟨paths, _, _, heq⟩
  · rw [heq] at h ⊢
    exact ⟨paths, hknown, List.mem_of_mem_head? (Except.ok.inj h)⟩
  · rw [heq] at h
    cases h
  · rw [heq] at h ⊢
    exact ⟨paths, Function.update_self _ _ _, List.mem_of_mem_head? (Except.ok.inj h)⟩

/-! ## What the daemon promises of its answers -/

/-- What is made of the daemon's answers has the property. Kind: D -/
def AnswersOk (ok : CachedPath → Prop) (getPaths : GetPaths) : Prop :=
  ∀ ia answer, getPaths ia = .ok answer → ∀ path ∈ answer, ∀ router,
    splitAddr path.2 = .ok router → ok (parsePath path.1, router)

/-- What is in the dictionary has the property. Kind: D -/
def PathCache.Holds (ok : CachedPath → Prop) (cache : PathCache) : Prop :=
  ∀ ia paths, cache.paths ia = some paths → ∀ path ∈ paths, ok path

/-- **A lookup keeps the property.** Kind: L -/
theorem PathCache.Holds.lookup {ok : CachedPath → Prop} {cache : PathCache} (h : cache.Holds ok)
    {getPaths : GetPaths} (hanswers : AnswersOk ok getPaths) (ia : ℕ) :
    (cache.lookup getPaths ia).2.Holds ok := by
  rcases cache.lookup_cases getPaths ia with ⟨_, _, heq⟩ | ⟨_, _, _, heq⟩ | ⟨paths, _, hfetch, heq⟩
  · rwa [heq]
  · rwa [heq]
  · rw [heq]
    obtain ⟨answer, hanswer, hmem⟩ := mem_fetchPaths hfetch
    intro ia' paths' hpaths path hpath
    replace hpaths : Function.update cache.paths ia (some paths) ia' = some paths' := hpaths
    by_cases hia : ia' = ia
    · subst hia
      rw [Function.update_self] at hpaths
      obtain rfl := Option.some.inj hpaths
      obtain ⟨raw, hraw, hparse, hsplit⟩ := hmem path hpath
      have hok := hanswers ia' answer hanswer raw hraw path.2 hsplit
      rwa [hparse] at hok
    · rw [Function.update_of_ne hia] at hpaths
      exact h ia' paths' hpaths path hpath

/-- So does what is looked up. Kind: L -/
theorem PathCache.Holds.found {ok : CachedPath → Prop} {cache : PathCache} (h : cache.Holds ok)
    {getPaths : GetPaths} (hanswers : AnswersOk ok getPaths) {ia : ℕ} {path : CachedPath}
    (hfound : (cache.lookup getPaths ia).1 = .ok (some path)) : ok path := by
  obtain ⟨paths, hpaths, hmem⟩ := lookup_mem hfound
  exact h.lookup hanswers ia ia paths hpaths path hmem

end ScionIp.Prototype
