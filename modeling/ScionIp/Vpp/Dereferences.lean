import ScionIp.Vpp.ConfigErrors

/-!
# Null pointers and empty optionals in a run of `main`

The pointer to the dataplane is dereferenced by the start-up behind the connection and by the
clean-up, the address `hostAddr4` by the update of the address filter. The only other step without
defined behaviour is the cut of an endpoint text without a colon in `loadConfig`.

* `main_of_rejected`, `main_of_accepted` — how a run ends.
* `dereferencesSafely_iff` — the runs that dereference nothing empty. A start-up that ends before
  the connection is made is followed by a clean-up all the same.
-/

namespace ScionIp.Vpp

open ScionIp.Lib

section Main

variable {lib : Libraries} {env : Externals} {file : Option Text}

/-- **A run dereferences nothing empty**: it reaches no step without defined behaviour, but for the
one in `loadConfig`. Kind: D -/
def DereferencesSafely (lib : Libraries) (env : Externals) (file : Option Text) : Prop :=
  loadConfig lib file ≠ .error .undefined →
    ∀ m, main lib env file Manager.start ≠ .error .undefined m

/-- **The runs that do.** The configuration is rejected with an exception the handler catches, or
it is accepted and the connection fails, so that the pointer is null in the clean-up; or the IPv4
address is missing when the map is written. Kind: D -/
def DereferencesEmpty (lib : Libraries) (env : Externals) (file : Option Text) : Prop :=
  (∃ failure, loadConfig lib file = .error failure ∧ failure.isRuntimeError = true) ∨
    ∃ config, loadConfig lib file = .ok config ∧
      (env.connect ≠ .VAPI_OK ∨ MissesAddr4 env config)

/-- `init` without a configuration, in a run. Kind: L -/
theorem init_rejected {failure : Failure} (hload : loadConfig lib file = .error failure) :
    Post (init lib env file) Manager.start
      (fun b s => failure.isRuntimeError = true ∧ b = false ∧ s = Manager.start)
      (fun failure' _ => failure.isRuntimeError = false ∧ failure' = failure) := by
  unfold init
  rw [hload]
  show Post (returnFalseOn Failure.isRuntimeError failure) _ _ _
  unfold returnFalseOn
  by_cases hruntime : failure.isRuntimeError = true
  · rw [if_pos hruntime]
    exact ⟨hruntime, rfl, rfl⟩
  · rw [if_neg hruntime]
    exact ⟨Bool.eq_false_iff.mpr hruntime, rfl⟩

/-- The clean-up in a run. Kind: L -/
theorem cleanup_returns {m : Manager} {Q : ℤ → Manager → Prop} {E : Failure → Manager → Prop}
    (h : Post (cleanup env) m (fun _ s => Q (-1) s) E) :
    Post (do
      cleanup env
      return (-1 : ℤ)) m Q E := (post_bind _ _).mpr h

/-- **A run with a configuration that is rejected.** Kind: L -/
theorem main_of_rejected {failure : Failure} (hload : loadConfig lib file = .error failure) :
    Post (main lib env file) Manager.start (fun _ _ => False)
      (fun failure' _ => (failure.isRuntimeError = true ∧ failure' = .undefined) ∨
        (failure.isRuntimeError = false ∧ failure' = failure)) := by
  unfold main
  refine (post_bind _ _).mpr ((init_rejected hload).mono ?_ ?_)
  · rintro _ _ ⟨hruntime, rfl, rfl⟩
    apply cleanup_returns
    apply (cleanDataplane_of_null rfl).mono
    · exact fun _ _ h => h.elim
    · exact fun _ _ h => .inl ⟨hruntime, h⟩
  · rintro _ _ h
    exact .inr h

/-- **A run with a configuration that is accepted.** Kind: L -/
theorem main_of_accepted {config : TranslatorConfig} (hload : loadConfig lib file = .ok config) :
    Post (main lib env file) Manager.start
      (fun _ _ => env.connect = .VAPI_OK ∧ ¬ MissesAddr4 env config)
      (fun failure _ => failure = .undefined ↔
        env.connect ≠ .VAPI_OK ∨ MissesAddr4 env config) := by
  unfold main
  refine (post_bind _ _).mpr ((init_failures env hload).mono ?_ ?_)
  · rintro b s ⟨hno, hfits, hfalse⟩
    by_cases hconnect : env.connect = .VAPI_OK
    · have hsafe : ∀ failure : Failure, Foreseen True failure → (failure = .undefined ↔
          env.connect ≠ .VAPI_OK ∨ MissesAddr4 env config) := fun failure hforeseen =>
        iff_of_false hforeseen.ne_undefined (not_or.mpr ⟨not_not.mpr hconnect, hno⟩)
      cases b with
      | true => exact ⟨hconnect, hno⟩
      | false =>
          apply cleanup_returns
          apply (cleanDataplane_foreseen (hfits.mpr hconnect)).mono
          · exact fun _ _ _ => ⟨hconnect, hno⟩
          · exact fun failure _ h => hsafe failure h.1
    · obtain rfl := hfalse hconnect
      have hnull : s.dp = false := Bool.eq_false_iff.mpr (mt hfits.mp hconnect)
      apply cleanup_returns
      apply (cleanDataplane_of_null hnull).mono
      · exact fun _ _ h => h.elim
      · exact fun _ _ h => iff_of_true h (.inl hconnect)
  · rintro failure s (⟨hmisses, rfl⟩ | ⟨hno, hconnect, rfl, -⟩)
    · exact iff_of_true rfl (.inr hmisses)
    · refine iff_of_false (fun h => by cases h) ?_
      exact not_or.mpr ⟨not_not.mpr hconnect, hno⟩

/-- The rejected configurations among those runs. Kind: L -/
theorem dereferencesEmpty_of_rejected {failure : Failure}
    (hload : loadConfig lib file = .error failure) :
    DereferencesEmpty lib env file ↔ failure.isRuntimeError = true := by
  constructor
  · rintro (⟨failure', h, hruntime⟩ | ⟨config, h, -⟩)
    · rw [hload] at h
      exact Except.error.inj h ▸ hruntime
    · rw [hload] at h
      cases h
  · exact fun hruntime => .inl ⟨failure, hload, hruntime⟩

/-- The accepted configurations among those runs. Kind: L -/
theorem dereferencesEmpty_of_accepted {config : TranslatorConfig}
    (hload : loadConfig lib file = .ok config) :
    DereferencesEmpty lib env file ↔ env.connect ≠ .VAPI_OK ∨ MissesAddr4 env config := by
  constructor
  · rintro (⟨failure, h, -⟩ | ⟨config', h, hbad⟩)
    · rw [hload] at h
      cases h
    · rw [hload] at h
      exact Except.ok.inj h ▸ hbad
  · exact fun hbad => .inr ⟨config, hload, hbad⟩

/-- With a configuration that is rejected, exactly the clean-up behind the handler does. Kind: L -/
theorem dereferencesSafely_of_rejected {failure : Failure}
    (hload : loadConfig lib file = .error failure) :
    DereferencesSafely lib env file ↔ ¬ failure.isRuntimeError = true := by
  have hrun := @main_of_rejected lib env file failure hload
  constructor
  · intro hsafe hruntime
    have hdefined : loadConfig lib file ≠ .error .undefined := by
      rw [hload]
      intro h
      rw [Except.error.inj h] at hruntime
      cases hruntime
    obtain ⟨failure', m, hmain, ⟨-, rfl⟩ | ⟨hno, -⟩⟩ := hrun.exists_error
    · exact hsafe hdefined m hmain
    · rw [hruntime] at hno
      cases hno
  · intro hno hdefined m hmain
    rcases hrun.of_error hmain with ⟨hruntime, -⟩ | ⟨-, h⟩
    · exact hno hruntime
    · rw [hload, ← h] at hdefined
      exact hdefined rfl

/-- With a configuration that is accepted, exactly a null pointer and a missing address do.
Kind: L -/
theorem dereferencesSafely_of_accepted {config : TranslatorConfig}
    (hload : loadConfig lib file = .ok config) :
    DereferencesSafely lib env file ↔ ¬ (env.connect ≠ .VAPI_OK ∨ MissesAddr4 env config) := by
  have hrun := @main_of_accepted lib env file config hload
  have hdefined : loadConfig lib file ≠ .error .undefined := by
    rw [hload]
    exact fun h => by cases h
  constructor
  · intro hsafe hbad
    cases hmain : main lib env file Manager.start with
    | ok code m =>
        obtain ⟨hconnect, hno⟩ := hrun.of_ok hmain
        exact hbad.elim (fun h => h hconnect) hno
    | error failure m =>
        obtain rfl := (hrun.of_error hmain).mpr hbad
        exact hsafe hdefined m hmain
  · intro hno _ m hmain
    exact hno ((hrun.of_error hmain).mp rfl)

/-- **When a run dereferences nothing empty.** For every configuration file and every outcome of
the external calls: exactly if it is none of the runs above. Kind: P -/
theorem dereferencesSafely_iff (lib : Libraries) (env : Externals) (file : Option Text) :
    DereferencesSafely lib env file ↔ ¬ DereferencesEmpty lib env file := by
  cases hload : loadConfig lib file with
  | error failure =>
      rw [dereferencesSafely_of_rejected hload, dereferencesEmpty_of_rejected hload]
  | ok config =>
      rw [dereferencesSafely_of_accepted hload, dereferencesEmpty_of_accepted hload]

end Main

/-- The outcomes of a start-up that gets as far as the map, which the kernel knows. Kind: C -/
def sampleMapKnown : Externals where
  __ := sampleExternals (sampleReply 2)
  bpfMapInfo := some ⟨1, 4, 20⟩

/-- The outcomes of a start-up that cannot connect. Kind: C -/
def sampleNotConnected : Externals where
  __ := sampleExternals (sampleReply 2)
  connect := .VAPI_ECON_FAIL

/-- **A run can dereference something empty**: the pointer in the clean-up, behind a file that
cannot be opened and behind a connection that fails; the IPv4 address, with a configuration that has
none and a custom XDP program. Kind: C -/
theorem main_dereferences_empty :
    ¬ DereferencesSafely sampleLibraries sampleMapKnown none ∧
      ¬ DereferencesSafely sampleLibraries sampleNotConnected (some sampleFile) ∧
      ¬ DereferencesSafely sampleLibraries sampleMapKnown (some sampleFile) := by
  have hload : loadConfig sampleLibraries (some sampleFile)
      = .ok (sampleConfig ⟨[127, 0, 0, 1], rfl⟩) := by decide +kernel
  have hopened : sampleMapKnown.MapOpened :=
    ⟨⟨⟨⟨rfl, ⟨some samplePath, rfl⟩, by decide⟩, by decide, by decide⟩, samplePath, rfl⟩,
      by decide, by decide⟩
  have hmisses : MissesAddr4 sampleMapKnown (sampleConfig ⟨[127, 0, 0, 1], rfl⟩) :=
    ⟨hopened, rfl, ⟨1, 4, 20⟩, rfl, rfl, rfl, rfl⟩
  refine ⟨?_, ?_, ?_⟩
  · rw [@dereferencesSafely_of_rejected sampleLibraries sampleMapKnown none _ rfl]
    exact not_not.mpr rfl
  · rw [dereferencesSafely_of_accepted hload]
    exact not_not.mpr (.inl (by decide))
  · rw [dereferencesSafely_of_accepted hload]
    exact not_not.mpr (.inr hmisses)

end ScionIp.Vpp
