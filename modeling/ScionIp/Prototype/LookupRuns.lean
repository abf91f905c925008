import ScionIp.Lib.WriteOnce
import ScionIp.Prototype.PathCache

/-!
# The path cache of the prototype over whole runs

A run is a sequence of lookups of arbitrary ISD-ASNs. The daemon is a different one at each of them:
its path sets change between the lookups as they like, and a call may fail.

* `lookup_paths` — the dictionary is a table written once per key, so after a run it holds the first
  answer for each ISD-ASN.
* `FoundEmpty` — this answer was the empty path set.
* `honestRun_iff` — nothing is reported unreachable while it is reachable exactly if an ISD-ASN that
  was found without paths never gets one.
-/

namespace ScionIp.Prototype

open ScionIp.Lib ScionIp.Python

/-! ## Runs -/

/-- A lookup, with the daemon's path sets at that time and the exception its call ends with, if it
fails. Kind: D -/
structure LookupCall where
  dstIa : ℕ
  paths : ℕ → List (Bytes × Text)
  failure : Option PyExc

/-- Source: `daemon.py`, `Daemon.get_paths`. Kind: D -/
def LookupCall.getPaths (call : LookupCall) : GetPaths := fun dstIa =>
  match call.failure with
  | some exc => .error exc
  | none => .ok (call.paths dstIa)

/-- The lookup itself. Kind: D -/
def LookupCall.run (call : LookupCall) (cache : PathCache) : Py (Option CachedPath) × PathCache :=
  cache.lookup call.getPaths call.dstIa

/-- Source: `scitun.py`, `PathCache.__init__`. Kind: D -/
def newPathCache (localIa : ℕ) : PathCache := ⟨localIa, fun _ => none⟩

/-- The cache after lookups one after the other. Kind: D -/
def afterLookups (localIa : ℕ) (calls : List LookupCall) : PathCache :=
  calls.foldl (fun cache call => (call.run cache).2) (newPathCache localIa)

/-- The daemon returns its paths, and the address of each router is readable. Kind: D -/
def LookupCall.Answered (call : LookupCall) : Prop :=
  call.failure = none ∧ ∀ path ∈ call.paths call.dstIa, ∃ router, splitAddr path.2 = .ok router

/-- The daemon returns that there is no path to the ISD-ASN. Kind: D -/
def LookupCall.FindsNone (call : LookupCall) (dstIa : ℕ) : Prop :=
  call.dstIa = dstIa ∧ call.failure = none ∧ call.paths dstIa = []

/-- **The first answered lookup of the ISD-ASN found no path.** Kind: D -/
def FoundEmpty (calls : List LookupCall) (dstIa : ℕ) : Prop :=
  ∃ earlier call later, calls = earlier ++ call :: later ∧ call.FindsNone dstIa ∧
    ∀ c ∈ earlier, c.dstIa = dstIa → ¬ c.Answered

/-- A lookup reports no path only if the daemon has none, and changes nothing if it raises.
Kind: D -/
structure Honest (cache : PathCache) (call : LookupCall) : Prop where
  unreachable : (call.run cache).1 = .ok none → call.paths call.dstIa = []
  raises : ∀ exc, (call.run cache).1 = .error exc → (call.run cache).2 = cache

/-- **Each lookup of the run is honest.** Kind: D -/
def HonestRun (localIa : ℕ) (calls : List LookupCall) : Prop :=
  ∀ earlier call later, calls = earlier ++ call :: later →
    Honest (afterLookups localIa earlier) call

/-! ## One lookup -/

/-- What the daemon's answer is made into, if it is answered. Kind: D -/
def LookupCall.answer (call : LookupCall) : Option (List CachedPath) :=
  (fetchPaths call.getPaths call.dstIa).toOption

/-- The dictionary is written once per ISD-ASN. Kind: L -/
theorem LookupCall.run_paths (call : LookupCall) (cache : PathCache) :
    (call.run cache).2.paths = remember cache.paths call.dstIa call.answer := by
  unfold run answer
  rcases cache.lookup_cases call.getPaths call.dstIa with
    ⟨paths, hknown, heq⟩ | ⟨exc, hunknown, hfetch, heq⟩ | ⟨paths, hunknown, hfetch, heq⟩
  · rw [heq, remember_of_known hknown]
  · rw [heq, hfetch]
    exact (remember_none _ _).symm
  · rw [heq, hfetch]
    exact (remember_of_unknown hunknown paths).symm

/-- A lookup that raises changes nothing. Kind: L -/
theorem LookupCall.run_error {call : LookupCall} {cache : PathCache} {exc : PyExc}
    (h : (call.run cache).1 = .error exc) : (call.run cache).2 = cache := by
  unfold run at h ⊢
  rcases cache.lookup_cases call.getPaths call.dstIa with
    ⟨paths, -, heq⟩ | ⟨exc', -, -, heq⟩ | ⟨paths, -, -, heq⟩
  · rw [heq]
  · rw [heq]
  · rw [heq] at h
    cases h

/-- No path is reported exactly if the dictionary has the empty list afterwards. Kind: L -/
theorem LookupCall.run_none_iff (call : LookupCall) (cache : PathCache) :
    (call.run cache).1 = .ok none ↔ (call.run cache).2.paths call.dstIa = some [] := by
  have hhead : ∀ paths : List CachedPath,
      (.ok paths.head? : Py (Option CachedPath)) = .ok none ↔ some paths = some [] := by
    intro paths
    rw [Except.ok.injEq, Option.some.injEq, List.head?_eq_none_iff]
  unfold run
  rcases cache.lookup_cases call.getPaths call.dstIa with
    ⟨paths, hknown, heq⟩ | ⟨exc, hunknown, -, heq⟩ | ⟨paths, -, -, heq⟩
  · rw [heq, hknown]
    exact hhead paths
  · rw [heq, hunknown]
    exact iff_of_false (fun h => by cases h) (fun h => by cases h)
  · rw [heq]
    simp only [Function.update_self]
    exact hhead paths

/-! ## Answers -/

/-- When the daemon's answer becomes a list. Kind: L -/
theorem LookupCall.answer_eq_none_iff (call : LookupCall) :
    call.answer = none ↔ ¬ call.Answered := by
  have hsome : (∃ paths, fetchPaths call.getPaths call.dstIa = .ok paths) ↔ call.Answered := by
    rw [exists_fetchPaths_iff]
    unfold getPaths Answered
    cases call.failure with
    | some exc => exact iff_of_false (fun ⟨_, h, _⟩ => by cases h) (fun h => by cases h.1)
    | none =>
        constructor
        · rintro ⟨answer, hanswer, hrouters⟩
          obtain rfl := Except.ok.inj hanswer
          exact ⟨rfl, hrouters⟩
        · rintro ⟨-, hrouters⟩
          exact ⟨_, rfl, hrouters⟩
  rw [← hsome, answer]
  cases fetchPaths call.getPaths call.dstIa with
  | error exc => exact iff_of_true rfl (not_exists_error_eq_ok exc)
  | ok paths => exact iff_of_false (fun h => by cases h) fun h => h ⟨paths, rfl⟩

/-- When it becomes the empty list. Kind: L -/
theorem LookupCall.answer_eq_nil_iff (call : LookupCall) :
    call.answer = some [] ↔ call.failure = none ∧ call.paths call.dstIa = [] := by
  constructor
  · intro hnil
    have hanswered : call.Answered := by
      by_contra hno
      rw [call.answer_eq_none_iff.mpr hno] at hnil
      cases hnil
    have hanswer : call.getPaths call.dstIa = .ok (call.paths call.dstIa) := by
      rw [getPaths, hanswered.1]
    have hfetch : fetchPaths call.getPaths call.dstIa = .ok [] := by
      unfold answer at hnil
      cases hpaths : fetchPaths call.getPaths call.dstIa with
      | error exc =>
          rw [hpaths] at hnil
          cases hnil
      | ok paths =>
          rw [hpaths] at hnil
          rw [Option.some.inj hnil]
    exact ⟨hanswered.1, List.length_eq_zero_iff.mp (length_of_fetchPaths hanswer hfetch).symm⟩
  · rintro ⟨hfailure, hempty⟩
    rw [answer, fetchPaths, getPaths, hfailure, hempty]
    rfl

/-! ## Runs -/

/-- The dictionary after a run: the first answers. Kind: L -/
theorem afterLookups_paths (localIa : ℕ) (calls : List LookupCall) (dstIa : ℕ) :
    (afterLookups localIa calls).paths dstIa =
      calls.findSome? fun call => if call.dstIa = dstIa then call.answer else none := by
  have hfold : ∀ cache : PathCache,
      (calls.foldl (fun cache call => (call.run cache).2) cache).paths
        = rememberAll cache.paths (calls.map fun call => (call.dstIa, call.answer)) := by
    induction calls with
    | nil =>
        intro cache
        rfl
    | cons call calls ih =>
        intro cache
        rw [List.foldl_cons, ih, call.run_paths]
        rfl
  rw [afterLookups, hfold, rememberAll_apply, List.findSome?_map]
  rfl

/-- The dictionary has the empty list exactly if the first answer was empty. Kind: L -/
theorem afterLookups_nil_iff (localIa : ℕ) (calls : List LookupCall) (dstIa : ℕ) :
    (afterLookups localIa calls).paths dstIa = some [] ↔ FoundEmpty calls dstIa := by
  have hnil : ∀ call : LookupCall, (if call.dstIa = dstIa then call.answer else none) = some [] ↔
      call.FindsNone dstIa := by
    intro call
    by_cases hdst : call.dstIa = dstIa
    · rw [if_pos hdst, call.answer_eq_nil_iff, hdst]
      exact (and_iff_right hdst).symm
    · rw [if_neg hdst]
      exact iff_of_false (fun h => by cases h) fun h => hdst h.1
  have hnone : ∀ call : LookupCall, (if call.dstIa = dstIa then call.answer else none) = none ↔
      (call.dstIa = dstIa → ¬ call.Answered) := by
    intro call
    by_cases hdst : call.dstIa = dstIa
    · rw [if_pos hdst, call.answer_eq_none_iff]
      exact ⟨fun h _ => h, fun h => h hdst⟩
    · rw [if_neg hdst]
      exact iff_of_true rfl fun h => absurd h hdst
  rw [afterLookups_paths, List.findSome?_eq_some_iff, FoundEmpty]
  simp only [hnil, hnone]

/-- **When a lookup reports no path**: the first answer, this lookup's own included, was empty.
Kind: L -/
theorem run_afterLookups_none_iff (localIa : ℕ) (earlier : List LookupCall) (call : LookupCall) :
    (call.run (afterLookups localIa earlier)).1 = .ok none ↔
      FoundEmpty (earlier ++ [call]) call.dstIa := by
  rw [call.run_none_iff, ← afterLookups_nil_iff localIa, afterLookups, afterLookups,
    List.foldl_append]
  rfl

/-- An ISD-ASN found without paths stays so. Kind: L -/
theorem FoundEmpty.append {calls : List LookupCall} {dstIa : ℕ} (h : FoundEmpty calls dstIa)
    (later : List LookupCall) : FoundEmpty (calls ++ later) dstIa := by
  obtain ⟨earlier, call, rest, rfl, hnone, hfirst⟩ := h
  exact ⟨earlier, call, rest ++ later, by rw [List.append_assoc, List.cons_append], hnone, hfirst⟩

/-- Without paths from before, or from the last lookup. Kind: L -/
theorem foundEmpty_concat {calls : List LookupCall} {call : LookupCall} {dstIa : ℕ}
    (h : FoundEmpty (calls ++ [call]) dstIa) :
    FoundEmpty calls dstIa ∨ call.FindsNone dstIa := by
  obtain ⟨earlier, first, later, heq, hnone, hfirst⟩ := h
  rcases List.eq_nil_or_concat later with rfl | ⟨rest, last, rfl⟩
  · obtain ⟨-, hlast⟩ := List.append_inj' heq rfl
    rw [(List.cons.inj hlast).1]
    exact .inr hnone
  · rw [List.concat_eq_append, ← List.cons_append, ← List.append_assoc] at heq
    obtain ⟨rfl, -⟩ := List.append_inj' heq rfl
    exact .inl ⟨earlier, first, rest, rfl, hnone, hfirst⟩

/-- **When every lookup of a run is honest.** Whatever is looked up, however the daemon's path sets
change and its calls fail: exactly if an ISD-ASN whose first answer was the empty path set has no
path at any later lookup. Kind: P -/
theorem honestRun_iff (localIa : ℕ) (calls : List LookupCall) :
    HonestRun localIa calls ↔
      ∀ earlier call later, calls = earlier ++ call :: later →
        FoundEmpty earlier call.dstIa → call.paths call.dstIa = [] := by
  constructor
  · intro hrun earlier call later hcalls hempty
    apply (hrun earlier call later hcalls).unreachable
    exact (run_afterLookups_none_iff localIa earlier call).mpr (hempty.append [call])
  · intro hstays earlier call later hcalls
    refine ⟨fun hnone => ?_, fun exc herr => LookupCall.run_error herr⟩
    rcases foundEmpty_concat ((run_afterLookups_none_iff localIa earlier call).mp hnone) with
      hbefore | hnow
    · exact hstays earlier call later hcalls hbefore
    · exact hnow.2.2

/-! ## A path that appears too late -/

/-- A lookup of `1-64512` while the daemon has no path to anywhere. Kind: D -/
def lookupWithoutPaths : LookupCall := ⟨0x000100000000fc00, fun _ => [], none⟩

/-- A lookup of `1-64512` while the daemon has an empty path to everywhere. Kind: D -/
def lookupWithPath : LookupCall := ⟨0x000100000000fc00, fun _ => [([], [])], none⟩

/-- **The path cache can hide a path**: the daemon has none at the first lookup of an ISD-ASN, it
has one at the second, and the second lookup reports that there is none. Kind: C -/
theorem not_honestRun : ¬ HonestRun 0x000100000000fc01 [lookupWithoutPaths, lookupWithPath] := by
  intro hrun
  have hpaths := (hrun [lookupWithoutPaths] lookupWithPath [] rfl).unreachable rfl
  cases hpaths

end ScionIp.Prototype
