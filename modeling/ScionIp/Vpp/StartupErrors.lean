import ScionIp.Vpp.CleanUp

/-!
# How the start-up fails

With the pointer to the dataplane set, every external call fails in a way that `init` foresees: an
exception of the class the outer handler names, or a wait that does not end (`Foreseen`). The one
step without defined behaviour is the read of the IPv4 address that goes into the map
(`MissesAddr4`).

* `initDataplane_failures`, `init_failures` — how the start-up fails, and whether the pointer is set
  then.
* `cleanDataplane_foreseen` — how the clean-up fails if the pointer is set.
-/

namespace ScionIp.Vpp

open ScionIp.Lib

/-- The waits for this response end. Kind: D -/
def VapiReply.WaitEnds (r : VapiReply) : Prop :=
  VapiReply.waitForResponse r.waits ≠ .error .stuck

/-- **The waits of the start-up end**, with a response or with an error. Kind: D -/
structure Externals.WaitsEnd (env : Externals) : Prop where
  tapCreate : env.tapCreate.WaitEnds
  tapUp : env.tapUp.WaitEnds
  xdpCreate : env.xdpCreate.WaitEnds
  xdpUp : env.xdpUp.WaitEnds

/-- The outer handler of `init` catches it, or it is a wait that does not end where `S` says that
there may be one. Kind: D -/
def Foreseen (S : Prop) (failure : Failure) : Prop :=
  failure = .stuck ∧ S ∨ failure.isRuntimeError = true

/-- A foreseen failure is no step without defined behaviour. Kind: L -/
theorem Foreseen.ne_undefined {S : Prop} {failure : Failure} (h : Foreseen S failure) :
    failure ≠ .undefined := by
  rintro rfl
  rcases h with ⟨h, -⟩ | h
  · cases h
  · cases h

section Calls

variable {env : Externals} {m : Manager} {S : Prop}

/-! ## The calls -/

/-- The waits for the response. Kind: L -/
theorem waitForResponse_raises {waits : List VapiErrorCode}
    (hS : VapiReply.waitForResponse waits = .error .stuck → S) :
    RaisesOnly (Foreseen S) (VapiReply.waitForResponse waits) := by
  induction waits with
  | nil => exact RaisesOnly.error (.inl ⟨rfl, hS rfl⟩)
  | cons err waits ih =>
      rw [VapiReply.waitForResponse] at hS ⊢
      split_ifs at hS ⊢
      · exact ih hS
      · exact RaisesOnly.error (.inr rfl)
      · exact RaisesOnly.ok ()

/-- A request. Kind: L -/
theorem execAndWait_raises {r : VapiReply} (hS : ¬ r.WaitEnds → S) :
    RaisesOnly (Foreseen S) r.execAndWait := by
  unfold VapiReply.execAndWait VapiReply.executeReq
  apply RaisesOnly.bind
  · split_ifs
    · exact RaisesOnly.error (.inr rfl)
    · exact RaisesOnly.ok ()
  intro _ _
  apply RaisesOnly.bind (waitForResponse_raises fun hstuck => hS (not_not.mpr hstuck))
  intro _ _
  exact RaisesOnly.ok _

/-- A checked request. Kind: L -/
theorem execAndCheck_raises {r : VapiReply} (hS : ¬ r.WaitEnds → S) (what : String) :
    RaisesOnly (Foreseen S) (r.execAndCheck what) := by
  unfold VapiReply.execAndCheck
  apply RaisesOnly.bind (execAndWait_raises hS)
  rintro ⟨retval, index⟩ _
  dsimp only
  split_ifs
  · exact RaisesOnly.error (.inr rfl)
  · exact RaisesOnly.ok _

/-- The search for the program. Kind: L -/
theorem findProgram_raises : RaisesOnly (Foreseen S) (findProgram env) := by
  unfold findProgram
  cases env.absolute with
  | error code => exact RaisesOnly.ok none
  | ok path =>
      cases env.fileExists with
      | error code => exact RaisesOnly.error (.inr rfl)
      | ok found => exact RaisesOnly.ok _

/-- A failed call of the route socket. Kind: L -/
theorem throwErrno_raises (what : String) (failed : Option ℤ) :
    RaisesOnly (Foreseen S) (throwErrno what failed) := by
  cases failed with
  | none => exact RaisesOnly.ok ()
  | some errno => exact RaisesOnly.error (.inr rfl)

/-- The route socket. Kind: L -/
theorem netlinkOpen_raises : RaisesOnly (Foreseen S) (netlinkOpen env) := by
  unfold netlinkOpen
  by_cases hopen : ¬ env.netlinkOpen
  · rw [if_pos hopen]
    exact RaisesOnly.error (.inr rfl)
  · rw [if_neg hopen]
    exact throwErrno_raises _ _

/-- A request to change a route. Kind: L -/
theorem netlinkRoute_raises (dev : Text) (reply : NetlinkReply) :
    RaisesOnly (Foreseen S) (netlinkRoute dev reply) := by
  unfold netlinkRoute netlinkExecute
  split_ifs
  · exact RaisesOnly.error (.inr rfl)
  · apply RaisesOnly.bind (throwErrno_raises _ _)
    intro _ _
    apply RaisesOnly.bind (throwErrno_raises _ _)
    intro _ _
    exact throwErrno_raises _ _

/-- The routes. Kind: L -/
theorem configureRoutes_raises (config : TranslatorConfig) :
    RaisesOnly (Foreseen S) (configureRoutes env config) := by
  unfold configureRoutes
  apply RaisesOnly.bind netlinkOpen_raises
  intro _ _
  apply RaisesOnly.bind (netlinkRoute_raises _ _)
  intro _ _
  have hdel : RaisesOnly (Foreseen S) (netlinkRoute config.hostInterface env.delRoute) :=
    netlinkRoute_raises _ _
  split
  · split_ifs
    · exact RaisesOnly.ok ()
    · exact RaisesOnly.error (.inr rfl)
  · exact hdel

/-! ## The interfaces -/

/-- A function of the manager that keeps the pointer, and fails in a foreseen way. Kind: D -/
abbrev KeepsPointer {α : Type} (S : Prop) (x : PathManager α) (m : Manager) : Prop :=
  Post x m (fun _ s => s.dp = true) fun failure s => Foreseen S failure ∧ s.dp = true

/-- A connection that fails. Kind: L -/
theorem connectDataplane_raises :
    Post (connectDataplane env) m (fun _ _ => True) fun failure _ =>
      failure.isRuntimeError = true := by
  unfold connectDataplane
  apply (post_bind _ _).mpr
  split_ifs
  · exact rfl
  · exact trivial

/-- An interface comes up. Kind: L -/
theorem setVppInterfaceUp_keeps {r : VapiReply} (hS : ¬ r.WaitEnds → S) (hdp : m.dp = true) :
    KeepsPointer S (setVppInterfaceUp r) m := by
  unfold setVppInterfaceUp
  refine (post_bind _ _).mpr (derefDataplane_post hdp ?_)
  apply (post_bind _ _).mpr
  refine (post_liftExcept _).mpr ⟨fun _ _ => hdp, ?_⟩
  intro failure hfailure
  exact ⟨execAndWait_raises hS failure hfailure, hdp⟩

/-- An interface is created, and what is done with it afterwards. Kind: L -/
theorem createInterface_keeps {β : Type} {reply : VapiReply} (hS : ¬ reply.WaitEnds → S)
    (what : String) (made : UInt32 → List Event) (remember : UInt32 → Manager → Manager)
    (f : UInt32 → PathManager β) (hdp : m.dp = true)
    (hf : ∀ index m₀, m₀.dp = true → KeepsPointer S (f index) (remember index m₀)) :
    KeepsPointer S (createInterface reply what made remember >>= f) m := by
  unfold createInterface
  refine (post_bind _ _).mpr ((post_bind _ _).mpr (derefDataplane_post hdp ?_))
  apply (post_bind _ _).mpr
  refine (post_liftExcept _).mpr ⟨?_, ?_⟩
  · intro index _
    exact hf index _ hdp
  · intro failure hfailure
    exact ⟨execAndCheck_raises hS what failure hfailure, hdp⟩

/-- The steps about the tap: its index is there when it is asked for. Kind: L -/
theorem bringUpTap_keeps (config : TranslatorConfig) (hcreate : ¬ env.tapCreate.WaitEnds → S)
    (hup : ¬ env.tapUp.WaitEnds → S) (hdp : m.dp = true) :
    KeepsPointer S (bringUpTap env config) m := by
  unfold bringUpTap
  refine (post_bind _ _).mpr ((post_modify _).mpr ?_)
  apply createInterface_keeps hcreate
  · exact hdp
  intro index m₀ hdp₀
  refine (post_bind _ _).mpr (post_get.mpr ?_)
  apply (post_bind _ _).mpr
  apply (post_bind _ _).mpr
  exact setVppInterfaceUp_keeps hup hdp₀

/-- The steps about the AF_XDP interface. Kind: L -/
theorem bringUpXdp_keeps (config : TranslatorConfig) (hcreate : ¬ env.xdpCreate.WaitEnds → S)
    (hup : ¬ env.xdpUp.WaitEnds → S) (hdp : m.dp = true) :
    KeepsPointer S (bringUpXdp env config) m := by
  unfold bringUpXdp
  refine (post_bind _ _).mpr ((post_modify _).mpr ?_)
  apply (post_bind _ _).mpr
  refine (post_bind _ _).mpr (post_get.mpr ?_)
  apply (post_bind _ _).mp
  apply createInterface_keeps hcreate
  · exact hdp
  intro index m₀ hdp₀
  refine (post_bind _ _).mpr (post_get.mpr ?_)
  apply (post_bind _ _).mpr
  apply (post_bind _ _).mpr
  exact setVppInterfaceUp_keeps hup hdp₀

/-- Deleting an interface. Kind: L -/
theorem destroyInterface_keeps (ifIndex : Option UInt32) {reply : VapiReply}
    (hS : ¬ reply.WaitEnds → S) (what : String) (resource : UInt32 → Resource)
    (forget : Manager → Manager) (hdp : m.dp = true) (hforget : ∀ m₀, (forget m₀).dp = m₀.dp) :
    KeepsPointer S (destroyInterface ifIndex reply what resource forget) m := by
  unfold destroyInterface
  refine (post_bind _ _).mpr (derefDataplane_post hdp ?_)
  cases ifIndex with
  | none => exact hdp
  | some index =>
      refine (post_bind _ _).mpr ((post_modify _).mpr ?_)
      apply (post_bind _ _).mpr
      refine (post_liftExcept _).mpr ⟨?_, ?_⟩
      · intro _ _
        exact (hforget _).trans hdp
      · intro failure hfailure
        exact ⟨execAndCheck_raises hS what failure hfailure, hdp⟩

/-- **How the clean-up fails** if the pointer is set. Kind: L -/
theorem cleanDataplane_foreseen (hdp : m.dp = true) :
    KeepsPointer True (cleanDataplane env) m := by
  unfold cleanDataplane destroyXdp destroyTap
  apply (post_bind _ _).mpr
  refine (post_bind _ _).mpr (post_get.mpr ?_)
  refine Post.mono (destroyInterface_keeps _ (fun _ => trivial) _ _ _ hdp ?_) ?_ (fun _ _ h => h)
  · exact fun _ => rfl
  intro _ s hs
  apply (post_bind _ _).mpr
  refine (post_bind _ _).mpr (post_get.mpr ?_)
  refine Post.mono (destroyInterface_keeps _ (fun _ => trivial) _ _ _ hs ?_) ?_ (fun _ _ h => h)
  · exact fun _ => rfl
  intro _ s' hs'
  exact unpinScionIpMap_post (fun _ => hs') (fun _ => hs')

/-- A clean-up without the pointer: its first step has no defined behaviour. Kind: L -/
theorem cleanDataplane_of_null (hdp : m.dp = false) :
    Post (cleanDataplane env) m (fun _ _ => False) fun failure _ => failure = .undefined := by
  unfold cleanDataplane destroyXdp destroyInterface derefDataplane
  apply (post_bind _ _).mpr
  refine (post_bind _ _).mpr (post_get.mpr ?_)
  apply (post_bind _ _).mpr
  refine (post_bind _ _).mpr (post_get.mpr ?_)
  rw [hdp]
  exact rfl

/-! ## The start-up -/

/-- **The IPv4 address is missing when the map is written**: the pinned map is opened, the kernel
says it has one entry of the right sizes, and the configuration has no IPv4 addresses. Kind: D -/
def MissesAddr4 (env : Externals) (config : TranslatorConfig) : Prop :=
  env.MapOpened ∧ config.hostAddr4 = none ∧
    ∃ info, env.bpfMapInfo = some info ∧ info.maxEntries = 1 ∧ info.keySize = 4 ∧
      info.valueSize = 20

/-- The read of the IPv4 address. Kind: L -/
theorem updateScionIpMap_cases (config : TranslatorConfig) (hopen : env.MapOpened) :
    (MissesAddr4 env config ∧
        updateScionIpMap env config env.bpfObjGet = .error .undefined) ∨
      (¬ MissesAddr4 env config ∧ ∃ b, updateScionIpMap env config env.bpfObjGet = .ok b) := by
  unfold updateScionIpMap
  rw [if_neg (not_lt.mpr hopen.2.2)]
  cases hinfo : env.bpfMapInfo with
  | none =>
      refine .inr ⟨?_, false, rfl⟩
      rintro ⟨-, -, info, h, -⟩
      rw [hinfo] at h
      cases h
  | some info =>
      by_cases hsize : info.maxEntries ≠ 1 ∨ info.keySize ≠ 4 ∨ info.valueSize ≠ 20
      · simp only [if_pos hsize]
        refine .inr ⟨?_, false, rfl⟩
        rintro ⟨-, -, info', h, hentries, hkey, hvalue⟩
        rw [hinfo] at h
        obtain rfl := Option.some.inj h
        rcases hsize with hsize | hsize | hsize
        · exact hsize hentries
        · exact hsize hkey
        · exact hsize hvalue
      · simp only [if_neg hsize]
        cases haddr : config.hostAddr4 with
        | none =>
            obtain ⟨hentries, hkey, hvalue⟩ : info.maxEntries = 1 ∧ info.keySize = 4 ∧
                info.valueSize = 20 := by
              simpa [not_or] using hsize
            exact .inl ⟨⟨hopen, haddr, info, hinfo, hentries, hkey, hvalue⟩, rfl⟩
        | some n =>
            refine .inr ⟨?_, _, rfl⟩
            rintro ⟨-, h, -⟩
            rw [haddr] at h
            cases h

/-- The pointer is set as the connection says. Kind: D -/
def PointerFits (env : Externals) (s : Manager) : Prop := s.dp = true ↔ env.connect = .VAPI_OK

/-- **How the start-up fails.** Up to the read of the IPv4 address every failure is foreseen, and a
failed connection is an exception. Kind: L -/
theorem initDataplane_failures (config : TranslatorConfig) :
    Post (connectDataplane env >>= fun _ => initDataplane env config) Manager.start
      (fun _ s => ¬ MissesAddr4 env config ∧ env.connect = .VAPI_OK ∧ s.dp = true)
      (fun failure s => (MissesAddr4 env config ∧ failure = .undefined) ∨
        (¬ MissesAddr4 env config ∧ Foreseen (¬ env.WaitsEnd) failure ∧
          PointerFits env s ∧ (env.connect ≠ .VAPI_OK → failure.isRuntimeError = true))) := by
  have hmade : MissesAddr4 env config → env.TapMade := fun h => h.1.1.1.1
  have hwaits : (¬ env.tapCreate.WaitEnds → ¬ env.WaitsEnd) ∧
      (¬ env.tapUp.WaitEnds → ¬ env.WaitsEnd) ∧ (¬ env.xdpCreate.WaitEnds → ¬ env.WaitsEnd) ∧
      (¬ env.xdpUp.WaitEnds → ¬ env.WaitsEnd) :=
    ⟨fun h hall => h hall.tapCreate, fun h hall => h hall.tapUp, fun h hall => h hall.xdpCreate,
      fun h hall => h hall.xdpUp⟩
  apply initDataplane_exits config
  · intro failure m' hrun
    obtain ⟨hconnect, rfl⟩ := connectDataplane_post.of_error hrun
    have hruntime := connectDataplane_raises.of_error hrun
    refine .inr ⟨fun h => hconnect (hmade h).1, .inr hruntime, ?_, fun _ => hruntime⟩
    exact iff_of_false Bool.false_ne_true hconnect
  · intro failure m' hconnect hm' hfailure
    refine .inr ⟨?_, findProgram_raises failure hfailure, iff_of_true hm'.dp hconnect,
      absurd hconnect⟩
    intro hmisses
    obtain ⟨-, ⟨program, hprogram⟩, -⟩ := hmade hmisses
    rw [hprogram] at hfailure
    cases hfailure
  · intro program failure m₁ m' hconnect hprogram hm₁ hrun
    obtain ⟨hforeseen, hdp⟩ := (bringUpTap_keeps config hwaits.1 hwaits.2.1 hm₁.dp).of_error hrun
    refine .inr ⟨?_, hforeseen, iff_of_true hdp hconnect, absurd hconnect⟩
    intro hmisses
    rcases (bringUpTap_post config hm₁).of_error hrun with ⟨hno, -⟩ | ⟨-, hno, -⟩
    · exact hno (hmade hmisses).2.2
    · exact hno hmisses.1.1.1.2.1
  · intro program failure m₂ m' htap _ _ hm₂ hrun
    obtain ⟨hforeseen, hdp⟩ := (bringUpXdp_keeps config hwaits.2.2.1 hwaits.2.2.2 hm₂.dp).of_error hrun
    refine .inr ⟨?_, hforeseen, iff_of_true hdp htap.1, absurd htap.1⟩
    intro hmisses
    rcases (bringUpXdp_post config hm₂).of_error hrun with ⟨hno, -⟩ | ⟨-, hno, -⟩
    · exact hno hmisses.1.1.1.2.2
    · exact hno hmisses.1.2.1
  · intro program m₃ hxdp hxdpUp hprogram hm₃
    have hconnect := hxdp.1.1
    constructor
    · rintro rfl
      refine ⟨?_, hconnect, hm₃.dp⟩
      rintro hmisses
      obtain ⟨path, hpath⟩ := hmisses.1.1.2
      rw [hprogram] at hpath
      cases hpath
    · rintro path rfl
      unfold initScionIpMap
      refine (post_bind _ _).mpr ((post_modify _).mpr ?_)
      by_cases hfd : env.bpfObjGet < 0
      · rw [if_pos hfd]
        exact ⟨fun hmisses => not_le.mpr hfd hmisses.1.2.2, hconnect, hm₃.dp⟩
      · rw [if_neg hfd]
        have hopen : env.MapOpened := ⟨⟨hxdp, path, hprogram⟩, hxdpUp, not_lt.mp hfd⟩
        rcases updateScionIpMap_cases config hopen with ⟨hmisses, hupdate⟩ | ⟨hno, b, hupdate⟩
        · rw [hupdate]
          exact .inl ⟨hmisses, rfl⟩
        · rw [hupdate]
          exact ⟨hno, hconnect, hm₃.dp⟩

/-- **How `init` ends** with an accepted configuration: without a result only in a wait that does not
end, or in the read of a missing IPv4 address. Kind: P -/
theorem init_failures {lib : Libraries} {file : Option Text} {config : TranslatorConfig}
    (env : Externals) (hload : loadConfig lib file = .ok config) :
    Post (init lib env file) Manager.start
      (fun b s => ¬ MissesAddr4 env config ∧ PointerFits env s ∧
        (env.connect ≠ .VAPI_OK → b = false))
      (fun failure _ => (MissesAddr4 env config ∧ failure = .undefined) ∨
        (¬ MissesAddr4 env config ∧ env.connect = .VAPI_OK ∧ failure = .stuck ∧
          ¬ env.WaitsEnd)) := by
  unfold init
  rw [hload]
  have hrun := (post_bind _ _).mp (@initDataplane_failures env config)
  have hcatch : ∀ failure s, (MissesAddr4 env config ∧ failure = .undefined) ∨
        (¬ MissesAddr4 env config ∧ Foreseen (¬ env.WaitsEnd) failure ∧
          PointerFits env s ∧ (env.connect ≠ .VAPI_OK → failure.isRuntimeError = true)) →
      Post (returnFalseOn Failure.isRuntimeError failure) s
        (fun b s => ¬ MissesAddr4 env config ∧ PointerFits env s ∧
          (env.connect ≠ .VAPI_OK → b = false))
        (fun failure _ => (MissesAddr4 env config ∧ failure = .undefined) ∨
          (¬ MissesAddr4 env config ∧ env.connect = .VAPI_OK ∧ failure = .stuck ∧
          ¬ env.WaitsEnd)) := by
    rintro failure s (⟨hmisses, rfl⟩ | ⟨hno, hforeseen, hfits, hruntime⟩)
    · exact .inl ⟨hmisses, rfl⟩
    · unfold returnFalseOn
      by_cases hcaught : failure.isRuntimeError = true
      · rw [if_pos hcaught]
        exact ⟨hno, hfits, fun _ => rfl⟩
      · rw [if_neg hcaught]
        exact .inr ⟨hno, by_contra fun hconnect => hcaught (hruntime hconnect),
          hforeseen.resolve_right hcaught⟩
  refine (post_tryCatch _ _).mpr ((post_bind _ _).mpr (hrun.mono ?_ hcatch))
  intro _ s hinit
  refine (post_bind _ _).mpr (hinit.mono ?_ hcatch)
  rintro _ s' ⟨hno, hconnect, hdp⟩
  have hfits : PointerFits env s' := iff_of_true hdp hconnect
  refine (post_tryCatch _ _).mpr ((post_bind _ _).mpr ((post_liftExcept _).mpr ⟨?_, ?_⟩))
  · intro _ _
    exact ⟨hno, hfits, absurd hconnect⟩
  · intro failure hfailure
    have hforeseen : Foreseen (¬ env.WaitsEnd) failure :=
      configureRoutes_raises config failure hfailure
    exact returnFalseOn_post ⟨hno, hfits, fun _ => rfl⟩
      (hcatch failure s' (.inr ⟨hno, hforeseen, hfits, absurd hconnect⟩))

end Calls

end ScionIp.Vpp
