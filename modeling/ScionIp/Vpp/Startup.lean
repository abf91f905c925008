import ScionIp.Vpp.PathManager

/-!
# What the start-up of the path manager leaves

Each function of the start-up has one lemma that says what it does to the manager, by the outcomes
of its external calls.

* `initDataplane_exits` — the start-up can stop at any of its calls; what is known at each.
* `initDataplane_post` — what exists then, and what the manager remembers of it, is `Started`.
-/

namespace ScionIp.Vpp

open ScionIp.Lib

/-! ## What the requests do -/

namespace VapiReply

variable {r : VapiReply}

/-- A request that is answered returns the answer. Kind: L -/
theorem execAndWait_of_answered (h : r.Answered) : r.execAndWait = .ok (r.retval, r.swIfIndex) := by
  unfold execAndWait executeReq
  rw [if_neg (fun hne => hne h.1), h.2]
  rfl

/-- A request that returns is answered. Kind: L -/
theorem answered_of_execAndWait {p : ℤ × UInt32} (h : r.execAndWait = .ok p) : r.Answered := by
  unfold execAndWait executeReq at h
  obtain ⟨_, hexecute, h⟩ := bind_eq_ok_iff.mp h
  obtain ⟨_, hwaits, h⟩ := bind_eq_ok_iff.mp h
  refine ⟨?_, hwaits⟩
  by_contra hne
  rw [if_pos hne] at hexecute
  cases hexecute

/-- A checked request returns the index when it succeeds. Kind: L -/
theorem execAndCheck_of_succeeds (what : String) (h : r.Succeeds) :
    r.execAndCheck what = .ok r.swIfIndex := by
  unfold execAndCheck
  rw [execAndWait_of_answered h.1, ok_bind]
  exact if_neg (fun hne => hne h.2)

/-- A checked request that returns succeeds. Kind: L -/
theorem succeeds_of_execAndCheck {what : String} {index : UInt32}
    (h : r.execAndCheck what = .ok index) : r.Succeeds := by
  unfold execAndCheck at h
  obtain ⟨p, hwait, h⟩ := bind_eq_ok_iff.mp h
  have hanswered := answered_of_execAndWait hwait
  rw [execAndWait_of_answered hanswered] at hwait
  obtain rfl := Except.ok.inj hwait
  refine ⟨hanswered, ?_⟩
  by_contra hne
  simp only [if_pos hne] at h
  cases h

end VapiReply

section Requests

variable {env : Externals} {m : Manager} {E : Failure → Manager → Prop}

/-- A checked request. Kind: L -/
theorem execAndCheck_post {Q : UInt32 → Manager → Prop} {r : VapiReply} (what : String)
    (hok : r.Succeeds → Q r.swIfIndex m) (herr : ∀ failure, ¬ r.Succeeds → E failure m) :
    Post (liftExcept (r.execAndCheck what) : PathManager UInt32) m Q E := by
  refine (post_liftExcept _).mpr ⟨?_, ?_⟩
  · intro index hindex
    have hsucceeds := VapiReply.succeeds_of_execAndCheck hindex
    rw [VapiReply.execAndCheck_of_succeeds what hsucceeds] at hindex
    exact Except.ok.inj hindex ▸ hok hsucceeds
  · intro failure hfailure
    apply herr
    intro hsucceeds
    rw [VapiReply.execAndCheck_of_succeeds what hsucceeds] at hfailure
    cases hfailure

/-- A pointer that is not null. Kind: L -/
theorem derefDataplane_post {Q : PUnit → Manager → Prop} (hdp : m.dp = true) (h : Q ⟨⟩ m) :
    Post derefDataplane m Q E := by
  unfold derefDataplane
  refine (post_bind _ _).mpr (post_get.mpr ?_)
  rw [if_pos hdp]
  exact h

/-- Source: `dataplane.cpp`, `setVppInterfaceUp`. Kind: L -/
theorem setVppInterfaceUp_post {Q : ℤ → Manager → Prop} {r : VapiReply} (hdp : m.dp = true)
    (hok : r.Answered → Q r.retval m) (herr : ∀ failure, ¬ r.Answered → E failure m) :
    Post (setVppInterfaceUp r) m Q E := by
  unfold setVppInterfaceUp
  refine (post_bind _ _).mpr (derefDataplane_post hdp ?_)
  refine (post_bind _ _).mpr ((post_liftExcept _).mpr ⟨?_, ?_⟩)
  · intro p hp
    have hanswered := VapiReply.answered_of_execAndWait hp
    rw [VapiReply.execAndWait_of_answered hanswered] at hp
    obtain rfl := Except.ok.inj hp
    exact hok hanswered
  · intro failure hfailure
    apply herr
    intro hanswered
    rw [VapiReply.execAndWait_of_answered hanswered] at hfailure
    cases hfailure

/-- Creating an interface. Kind: L -/
theorem createInterface_post {Q : UInt32 → Manager → Prop} {reply : VapiReply} {what : String}
    {made : UInt32 → List Event} {remember : UInt32 → Manager → Manager} (hdp : m.dp = true)
    (hok : reply.Succeeds → Q reply.swIfIndex
      (remember reply.swIfIndex { m with events := m.events ++ made reply.swIfIndex }))
    (herr : ∀ failure, ¬ reply.Succeeds → E failure m) :
    Post (createInterface reply what made remember) m Q E := by
  unfold createInterface
  refine (post_bind _ _).mpr (derefDataplane_post hdp ?_)
  exact (post_bind _ _).mpr (execAndCheck_post _ hok herr)

end Requests

/-! ## What the start-up leaves -/

namespace Externals

variable (env : Externals)

/-- A custom XDP program is found. Kind: D -/
def CustomProgram : Prop := ∃ path, findProgram env = .ok (some path)

/-- The start-up gets as far as the tap. Kind: D -/
def TapMade : Prop :=
  env.connect = .VAPI_OK ∧ (∃ program, findProgram env = .ok program) ∧ env.tapCreate.Succeeds

/-- The start-up gets as far as the AF_XDP interface. Kind: D -/
def XdpMade : Prop := env.TapMade ∧ env.tapUp.Answered ∧ env.xdpCreate.Succeeds

/-- A map is pinned. Kind: D -/
def MapPinned : Prop := env.XdpMade ∧ env.CustomProgram

/-- The pinned map is opened. Kind: D -/
def MapOpened : Prop := env.MapPinned ∧ env.xdpUp.Answered ∧ 0 ≤ env.bpfObjGet

end Externals

/-- **What the start-up leaves**: what exists, and what the manager remembers of it. Kind: D -/
structure Started (env : Externals) (m : Manager) : Prop where
  dp : env.TapMade → m.dp = true
  tap : ∀ index, m.tap.ifIndex = some index ↔ env.TapMade ∧ index = env.tapCreate.swIfIndex
  xdp : ∀ index, m.xdp.ifIndex = some index ↔ env.XdpMade ∧ index = env.xdpCreate.swIfIndex
  scionIpMap : 0 ≤ m.scionIpMap ↔ env.MapOpened
  created : ∀ r, .created r ∈ m.events ↔ (env.TapMade ∧ r = .tap env.tapCreate.swIfIndex) ∨
    (env.XdpMade ∧ r = .afXdp env.xdpCreate.swIfIndex) ∨
    (env.MapPinned ∧ r = .pinnedMap SCION_IP_MAP)

/-- The manager between two steps: the pointer is set, no map is open, and the interfaces and the
trace are the given ones. Kind: D -/
structure Snapshot (m : Manager) (program : Text) (tap xdp : Option UInt32)
    (events : List Event) : Prop where
  dp : m.dp = true
  program : m.xdp.program = program
  tap : m.tap.ifIndex = tap
  xdp : m.xdp.ifIndex = xdp
  scionIpMap : m.scionIpMap < 0
  events : m.events = events

section Started

variable {env : Externals} {m : Manager}

/-- The program that is found has a name. Kind: L -/
theorem ne_nil_of_findProgram {path : Text} (h : findProgram env = .ok (some path)) :
    path ≠ [] := by
  unfold findProgram at h
  cases habs : env.absolute with
  | error code =>
      rw [habs] at h
      cases Except.ok.inj h
  | ok found =>
      rw [habs] at h
      cases hexists : env.fileExists with
      | error code =>
          simp only [hexists] at h
          cases h
      | ok isThere =>
          simp only [hexists, Except.ok.injEq] at h
          split_ifs at h
          exact Option.some.inj h ▸ found.property

/-- Opening the map changes the descriptor only. Kind: L -/
theorem initScionIpMap_post (config : TranslatorConfig) {P : Manager → Prop}
    (h : P { m with scionIpMap := env.bpfObjGet }) :
    Post (initScionIpMap env config) m (fun _ => P) fun _ => P := by
  unfold initScionIpMap
  refine (post_bind _ _).mpr ((post_modify _).mpr ?_)
  split_ifs
  · exact h
  · exact (post_liftExcept _).mpr ⟨fun _ _ => h, fun _ _ => h⟩

/-- Setting the program. Kind: L -/
theorem Snapshot.setProgram {tap xdp : Option UInt32} {events : List Event}
    (h : Snapshot m [] tap xdp events) (program : Option Text) :
    Snapshot { m with xdp := { m.xdp with program := program.getD m.xdp.program } }
      (program.getD []) tap xdp events :=
  ⟨h.dp, by rw [h.program], h.tap, h.xdp, h.scionIpMap, h.events⟩

/-- The steps about the tap. Kind: L -/
theorem bringUpTap_post (config : TranslatorConfig) {program : Text}
    (h : Snapshot m program none none []) :
    Post (bringUpTap env config) m
      (fun _ m' => env.tapCreate.Succeeds ∧ env.tapUp.Answered ∧
        Snapshot m' program (some env.tapCreate.swIfIndex) none
          [.created (.tap env.tapCreate.swIfIndex)])
      (fun _ m' => (¬ env.tapCreate.Succeeds ∧ Snapshot m' program none none []) ∨
        (env.tapCreate.Succeeds ∧ ¬ env.tapUp.Answered ∧
          Snapshot m' program (some env.tapCreate.swIfIndex) none
            [.created (.tap env.tapCreate.swIfIndex)])) := by
  obtain ⟨hdp, hprogram, htap, hxdp, hmap, hevents⟩ := h
  unfold bringUpTap
  refine (post_bind _ _).mpr ((post_modify _).mpr ?_)
  refine (post_bind _ _).mpr (createInterface_post hdp ?_ ?_)
  · intro hcreate
    refine (post_bind _ _).mpr (post_get.mpr ?_)
    apply (post_bind _ _).mpr
    have hnew : m.events ++ [Event.created (.tap env.tapCreate.swIfIndex)]
        = [.created (.tap env.tapCreate.swIfIndex)] := by
      rw [hevents, List.nil_append]
    refine (post_bind _ _).mpr (setVppInterfaceUp_post hdp ?_ ?_)
    · intro hup
      exact ⟨hcreate, hup, hdp, hprogram, rfl, hxdp, hmap, hnew⟩
    · intro _ hno
      exact Or.inr ⟨hcreate, hno, hdp, hprogram, rfl, hxdp, hmap, hnew⟩
  · intro _ hno
    exact Or.inl ⟨hno, hdp, hprogram, htap, hxdp, hmap, hevents⟩

/-- The steps about the AF_XDP interface. Kind: L -/
theorem bringUpXdp_post (config : TranslatorConfig) {program : Text} {tap : Option UInt32}
    {events : List Event} (h : Snapshot m program tap none events) :
    Post (bringUpXdp env config) m
      (fun _ m' => env.xdpCreate.Succeeds ∧ env.xdpUp.Answered ∧
        Snapshot m' program tap (some env.xdpCreate.swIfIndex)
          (events ++ xdpEvents program env.xdpCreate.swIfIndex))
      (fun _ m' => (¬ env.xdpCreate.Succeeds ∧ Snapshot m' program tap none events) ∨
        (env.xdpCreate.Succeeds ∧ ¬ env.xdpUp.Answered ∧
          Snapshot m' program tap (some env.xdpCreate.swIfIndex)
            (events ++ xdpEvents program env.xdpCreate.swIfIndex))) := by
  obtain ⟨hdp, rfl, htap, hxdp, hmap, rfl⟩ := h
  unfold bringUpXdp
  refine (post_bind _ _).mpr ((post_modify _).mpr ?_)
  refine (post_bind _ _).mpr ((post_bind _ _).mpr (post_get.mpr (createInterface_post hdp ?_ ?_)))
  · intro hcreate
    refine (post_bind _ _).mpr (post_get.mpr ?_)
    apply (post_bind _ _).mpr
    refine (post_bind _ _).mpr (setVppInterfaceUp_post hdp ?_ ?_)
    · intro hup
      exact ⟨hcreate, hup, hdp, rfl, htap, rfl, hmap, rfl⟩
    · intro _ hno
      exact Or.inr ⟨hcreate, hno, hdp, rfl, htap, rfl, hmap, rfl⟩
  · intro _ hno
    exact Or.inl ⟨hno, hdp, rfl, htap, hxdp, hmap, rfl⟩

/-- Connecting. Kind: L -/
theorem connectDataplane_post :
    Post (connectDataplane env) Manager.start
      (fun _ m' => env.connect = .VAPI_OK ∧ Snapshot m' [] none none [])
      (fun _ m' => env.connect ≠ .VAPI_OK ∧ m' = Manager.start) := by
  unfold connectDataplane
  apply (post_bind _ _).mpr
  by_cases hconnect : env.connect = .VAPI_OK
  · rw [if_neg (fun hne => hne hconnect)]
    exact ⟨hconnect, rfl, rfl, rfl, rfl, by decide, rfl⟩
  · rw [if_pos hconnect]
    exact ⟨hconnect, rfl⟩

/-! ### The states it can end in -/

/-- Nothing was made. Kind: L -/
theorem Started.of_nothing (h : ¬ env.TapMade) (htap : m.tap.ifIndex = none)
    (hxdp : m.xdp.ifIndex = none) (hmap : m.scionIpMap < 0) (hevents : m.events = []) :
    Started env m := by
  have hnoXdp : ¬ env.XdpMade := fun hx => h hx.1
  have hnoPin : ¬ env.MapPinned := fun hp => hnoXdp hp.1
  have hnoOpen : ¬ env.MapOpened := fun ho => hnoPin ho.1
  refine ⟨fun ht => absurd ht h, ?_, ?_, ?_, ?_⟩
  · intro index
    simp [htap, h]
  · intro index
    simp [hxdp, hnoXdp]
  · exact iff_of_false (not_le.mpr hmap) hnoOpen
  · intro r
    simp [hevents, h, hnoXdp, hnoPin]

/-- The tap was made. Kind: L -/
theorem Started.of_tap (h : env.TapMade) (hno : ¬ env.XdpMade) {program : Text}
    (hm : Snapshot m program (some env.tapCreate.swIfIndex) none
      [.created (.tap env.tapCreate.swIfIndex)]) : Started env m := by
  have hnoPin : ¬ env.MapPinned := fun hp => hno hp.1
  have hnoOpen : ¬ env.MapOpened := fun ho => hnoPin ho.1
  refine ⟨fun _ => hm.dp, ?_, ?_, ?_, ?_⟩
  · intro index
    simp [hm.tap, h, eq_comm]
  · intro index
    simp [hm.xdp, hno]
  · exact iff_of_false (not_le.mpr hm.scionIpMap) hnoOpen
  · intro r
    simp [hm.events, h, hno, hnoPin]

/-- Both interfaces were made; the descriptor is what it is. Kind: L -/
theorem Started.of_xdp (h : env.XdpMade) {program : Option Text}
    (hprogram : findProgram env = .ok program)
    (hm : Snapshot m (program.getD []) (some env.tapCreate.swIfIndex)
      (some env.xdpCreate.swIfIndex) (.created (.tap env.tapCreate.swIfIndex) ::
        xdpEvents (program.getD []) env.xdpCreate.swIfIndex)) (fd : ℤ)
    (hfd : 0 ≤ fd ↔ env.MapOpened) : Started env { m with scionIpMap := fd } := by
  refine ⟨fun _ => hm.dp, ?_, ?_, hfd, ?_⟩
  · intro index
    simp [hm.tap, h.1, eq_comm]
  · intro index
    simp [hm.xdp, h, eq_comm]
  · intro r
    cases program with
    | none =>
        have hno : ¬ env.CustomProgram := by
          rintro ⟨path, hpath⟩
          rw [hprogram] at hpath
          cases hpath
        simp [hm.events, h, h.1, Externals.MapPinned, hno, xdpEvents]
    | some path =>
        have hcustom : env.CustomProgram := ⟨path, hprogram⟩
        have hne := ne_nil_of_findProgram hprogram
        simp [hm.events, h, h.1, Externals.MapPinned, hcustom, xdpEvents, hne]

/-- **The exits of the start-up**, with what is known at each: the connection fails, the search for
the program, a step about the tap or the AF_XDP interface, or it comes to its end with or without
opening the map. Kind: L -/
theorem initDataplane_exits (config : TranslatorConfig) {Q : PUnit → Manager → Prop}
    {E : Failure → Manager → Prop}
    (hconnect : ∀ failure m, connectDataplane env Manager.start = .error failure m → E failure m)
    (hprogram : ∀ failure m, env.connect = .VAPI_OK → Snapshot m [] none none [] →
      findProgram env = .error failure → E failure m)
    (htap : ∀ program failure m m', env.connect = .VAPI_OK → findProgram env = .ok program →
      Snapshot m (program.getD []) none none [] → bringUpTap env config m = .error failure m' →
      E failure m')
    (hxdp : ∀ program failure m m', env.TapMade → env.tapUp.Answered →
      findProgram env = .ok program →
      Snapshot m (program.getD []) (some env.tapCreate.swIfIndex) none
        [.created (.tap env.tapCreate.swIfIndex)] →
      bringUpXdp env config m = .error failure m' → E failure m')
    (hend : ∀ program m, env.XdpMade → env.xdpUp.Answered → findProgram env = .ok program →
      Snapshot m (program.getD []) (some env.tapCreate.swIfIndex) (some env.xdpCreate.swIfIndex)
        (.created (.tap env.tapCreate.swIfIndex) ::
          xdpEvents (program.getD []) env.xdpCreate.swIfIndex) →
      (program = none → Q ⟨⟩ m) ∧
        ∀ path, program = some path → Post (initScionIpMap env config) m (fun _ => Q ⟨⟩) E) :
    Post (connectDataplane env >>= fun _ => initDataplane env config) Manager.start Q E := by
  refine (post_bind _ _).mpr ((connectDataplane_post.and (post_self _ _)).mono ?_ ?_)
  swap
  · rintro failure m₀ ⟨-, hrun⟩
    exact hconnect failure m₀ hrun
  rintro _ m₀ ⟨⟨hconnected, hm₀⟩, -⟩
  unfold initDataplane
  refine (post_bind _ _).mpr ((post_liftExcept _).mpr ⟨?_, ?_⟩)
  swap
  · intro failure hfailure
    exact hprogram failure m₀ hconnected hm₀ hfailure
  intro program hfound
  refine (post_bind _ _).mpr ((post_modify _).mpr ?_)
  have hm₁ := hm₀.setProgram program
  refine (post_bind _ _).mpr (((bringUpTap_post config hm₁).and (post_self _ _)).mono ?_ ?_)
  swap
  · rintro failure m₂ ⟨-, hrun⟩
    exact htap program failure _ m₂ hconnected hfound hm₁ hrun
  rintro _ m₂ ⟨⟨htapCreate, htapUp, hm₂⟩, -⟩
  have htapMade : env.TapMade := ⟨hconnected, ⟨program, hfound⟩, htapCreate⟩
  refine (post_bind _ _).mpr (((bringUpXdp_post config hm₂).and (post_self _ _)).mono ?_ ?_)
  swap
  · rintro failure m₃ ⟨-, hrun⟩
    exact hxdp program failure m₂ m₃ htapMade htapUp hfound hm₂ hrun
  rintro _ m₃ ⟨⟨hxdpCreate, hxdpUp, hm₃⟩, -⟩
  obtain ⟨hnone, hsome⟩ := hend program m₃ ⟨htapMade, htapUp, hxdpCreate⟩ hxdpUp hfound hm₃
  cases program with
  | none => exact hnone rfl
  | some path => exact (post_bind _ _).mpr (hsome path rfl)

/-- **Every way out of the start-up leaves what `Started` says.** Kind: P -/
theorem initDataplane_post (config : TranslatorConfig) :
    Post (connectDataplane env >>= fun _ => initDataplane env config) Manager.start
      (fun _ => Started env) fun _ => Started env := by
  apply initDataplane_exits config
  · intro _ m' hrun
    obtain ⟨hconnect, rfl⟩ := connectDataplane_post.of_error hrun
    exact Started.of_nothing (fun hmade => hconnect hmade.1) rfl rfl (by decide) rfl
  · intro failure m' _ hm' hfailure
    refine Started.of_nothing ?_ hm'.tap hm'.xdp hm'.scionIpMap hm'.events
    rintro ⟨-, ⟨program, hprogram⟩, -⟩
    rw [hprogram] at hfailure
    cases hfailure
  -- up to here nothing was made; from the tap on a failure leaves something behind
  · intro program _ m₁ m' hconnect hprogram hm₁ hrun
    rcases (bringUpTap_post config hm₁).of_error hrun with ⟨hno, hm'⟩ | ⟨hcreate, hno, hm'⟩
    · exact Started.of_nothing (fun hmade => hno hmade.2.2) hm'.tap hm'.xdp hm'.scionIpMap
        hm'.events
    · exact Started.of_tap ⟨hconnect, ⟨program, hprogram⟩, hcreate⟩ (fun hmade => hno hmade.2.1) hm'
  · intro program _ m₂ m' htap htapUp hprogram hm₂ hrun
    rcases (bringUpXdp_post config hm₂).of_error hrun with ⟨hno, hm'⟩ | ⟨hcreate, hno, hm'⟩
    · exact Started.of_tap htap (fun hmade => hno hmade.2.2) hm'
    · refine Started.of_xdp ⟨htap, htapUp, hcreate⟩ hprogram hm' m'.scionIpMap ?_
      exact iff_of_false (not_le.mpr hm'.scionIpMap) (fun hopen => hno hopen.2.1)
  · intro program m₃ hxdp hxdpUp hprogram hm₃
    constructor
    · rintro rfl
      apply Started.of_xdp hxdp hprogram hm₃ m₃.scionIpMap
      apply iff_of_false (not_le.mpr hm₃.scionIpMap)
      rintro ⟨⟨-, path, hpath⟩, -⟩
      rw [hprogram] at hpath
      cases hpath
    · rintro path rfl
      apply initScionIpMap_post config
      refine Started.of_xdp hxdp hprogram hm₃ env.bpfObjGet ⟨?_, fun hopen => hopen.2.2⟩
      intro hfd
      exact ⟨⟨hxdp, path, hprogram⟩, hxdpUp, hfd⟩

end Started

end ScionIp.Vpp
