import ScionIp.Vpp.Startup

/-!
# The clean-up after a failed start-up

A deletion that throws ends the clean-up, and a pinned map whose descriptor was not opened is
forgotten.

* `cleanup_attempts` — which deletions a clean-up attempts.
* `cleanup_attempts_iff` — when it attempts the deletion of everything a failed start-up caused to
  exist.
-/

namespace ScionIp.Vpp

open ScionIp.Lib

/-! ## What the clean-up attempts -/

section CleanUp

variable {env : Externals} {m : Manager} {Q : PUnit → Manager → Prop}
  {E : Failure → Manager → Prop}

/-- Deleting an interface, if there is one. Kind: L -/
theorem destroyInterface_post {ifIndex : Option UInt32} {reply : VapiReply} {what : String}
    {resource : UInt32 → Resource} {forget : Manager → Manager} (hdp : m.dp = true)
    (hnone : ifIndex = none → Q ⟨⟩ m)
    (hok : ∀ index, ifIndex = some index → reply.Succeeds →
      Q ⟨⟩ (forget { m with events := m.events ++ [.deleting (resource index)] }))
    (herr : ∀ index failure, ifIndex = some index → ¬ reply.Succeeds →
      E failure { m with events := m.events ++ [.deleting (resource index)] }) :
    Post (destroyInterface ifIndex reply what resource forget) m Q E := by
  unfold destroyInterface
  refine (post_bind _ _).mpr (derefDataplane_post hdp ?_)
  cases hindex : ifIndex with
  | none => exact hnone hindex
  | some index =>
      refine (post_bind _ _).mpr ((post_modify _).mpr ?_)
      exact (post_bind _ _).mpr (execAndCheck_post _ (hok index hindex)
        fun failure hno => herr index failure hindex hno)

/-- Removing the pin: an error of the file system is no failure. Kind: L -/
theorem unpinScionIpMap_post (hclosed : m.scionIpMap < 0 → Q ⟨⟩ m)
    (hopen : 0 ≤ m.scionIpMap → Q ⟨⟩ { m with
      events := m.events ++ [.deleting (.pinnedMap SCION_IP_MAP)]
      scionIpMap := -1 }) :
    Post (unpinScionIpMap env) m Q E := by
  unfold unpinScionIpMap
  refine (post_bind _ _).mpr (post_get.mpr ?_)
  by_cases hfd : m.scionIpMap < 0
  · rw [if_pos hfd]
    exact hclosed hfd
  · rw [if_neg hfd]
    have hdone := hopen (not_lt.mp hfd)
    refine (post_bind _ _).mpr ((post_modify _).mpr ?_)
    refine (post_bind _ _).mpr ((post_tryCatch _ _).mpr ?_)
    refine (post_bind _ _).mpr ((post_liftExcept _).mpr ⟨fun _ _ => hdone, ?_⟩)
    intro failure hfailure
    cases hremove : env.remove with
    | ok removed =>
        rw [hremove] at hfailure
        cases hfailure
    | error code =>
        rw [hremove] at hfailure
        obtain rfl := Except.error.inj hfailure
        exact hdone

variable (env m)

/-- The deletions attempted behind that of the AF_XDP interface: the tap, then the pinned map unless
the tap's threw. Kind: D -/
def AttemptsBehind (r : Resource) : Prop :=
  (∃ index, m.tap.ifIndex = some index ∧ r = .tap index) ∨
    ((m.tap.ifIndex.isSome → env.tapDelete.Succeeds) ∧
      0 ≤ m.scionIpMap ∧ r = .pinnedMap SCION_IP_MAP)

/-- The deletions a clean-up attempts: the AF_XDP interface, then the others unless that threw.
Kind: D -/
def Attempts (r : Resource) : Prop :=
  (∃ index, m.xdp.ifIndex = some index ∧ r = .afXdp index) ∨
    ((m.xdp.ifIndex.isSome → env.xdpDelete.Succeeds) ∧ AttemptsBehind env m r)

variable {env m}

/-- Removing the pin adds one entry to the trace, if a map is open. Kind: L -/
theorem unpinScionIpMap_events (r : Resource) :
    Post (unpinScionIpMap env) m
      (fun _ s => .deleting r ∈ s.events ↔ .deleting r ∈ m.events ∨
        (0 ≤ m.scionIpMap ∧ r = .pinnedMap SCION_IP_MAP)) E := by
  refine unpinScionIpMap_post ?_ ?_
  · intro hclosed
    simp [not_le.mpr hclosed]
  · intro hopen
    simp [hopen]

/-- **An interface, and what is deleted behind it** unless its deletion throws. Kind: L -/
theorem destroyInterface_events {ifIndex : Option UInt32} {reply : VapiReply} {what : String}
    {resource : UInt32 → Resource} {forget : Manager → Manager} {rest : PathManager PUnit}
    {r : Resource} {behind : Prop} (hdp : m.dp = true)
    (hforget : ∀ s, (forget s).events = s.events)
    (hrest : ∀ s, s = m ∨ (∃ events, s = forget { m with events := events }) →
      Post rest s (fun _ s' => .deleting r ∈ s'.events ↔ .deleting r ∈ s.events ∨ behind)
        (fun _ s' => .deleting r ∈ s'.events ↔ .deleting r ∈ s.events ∨ behind)) :
    Post (destroyInterface ifIndex reply what resource forget >>= fun _ => rest) m
      (fun _ s => .deleting r ∈ s.events ↔ .deleting r ∈ m.events ∨
        (∃ index, ifIndex = some index ∧ r = resource index) ∨
          ((ifIndex.isSome → reply.Succeeds) ∧ behind))
      (fun _ s => .deleting r ∈ s.events ↔ .deleting r ∈ m.events ∨
        (∃ index, ifIndex = some index ∧ r = resource index) ∨
          ((ifIndex.isSome → reply.Succeeds) ∧ behind)) := by
  refine (post_bind _ _).mpr (destroyInterface_post hdp ?_ ?_ ?_)
  · intro hnone
    have hiff : ∀ s : Manager, (.deleting r ∈ s.events ↔ .deleting r ∈ m.events ∨ behind) →
        (.deleting r ∈ s.events ↔ .deleting r ∈ m.events ∨
          (∃ index, ifIndex = some index ∧ r = resource index) ∨
            ((ifIndex.isSome → reply.Succeeds) ∧ behind)) := by
      intro s hs
      rw [hs]
      simp [hnone]
    exact (hrest m (.inl rfl)).mono (fun _ => hiff) fun _ => hiff
  · intro index hindex hdelete
    have hiff : ∀ s : Manager,
        (.deleting r ∈ s.events ↔
          .deleting r ∈ (forget { m with
            events := m.events ++ [.deleting (resource index)] }).events ∨ behind) →
        (.deleting r ∈ s.events ↔ .deleting r ∈ m.events ∨
          (∃ index, ifIndex = some index ∧ r = resource index) ∨
            ((ifIndex.isSome → reply.Succeeds) ∧ behind)) := by
      intro s hs
      rw [hs, hforget]
      simp [hindex, hdelete, or_assoc]
    exact (hrest _ (.inr ⟨_, rfl⟩)).mono (fun _ => hiff) fun _ => hiff
  · intro index failure hindex hno
    simp [hindex, hno]

/-- The tap and the pinned map. Kind: L -/
theorem destroyTap_unpin_events (hdp : m.dp = true) (r : Resource) :
    Post (destroyTap env >>= fun _ => unpinScionIpMap env) m
      (fun _ s => .deleting r ∈ s.events ↔ .deleting r ∈ m.events ∨ AttemptsBehind env m r)
      (fun _ s => .deleting r ∈ s.events ↔ .deleting r ∈ m.events ∨ AttemptsBehind env m r) := by
  refine destroyInterface_events hdp (fun _ => rfl) ?_
  rintro s (rfl | ⟨events, rfl⟩)
  · exact unpinScionIpMap_events r
  · exact unpinScionIpMap_events r

/-- The three deletions. Kind: L -/
theorem cleanDataplane_events (hdp : m.dp = true) (r : Resource) :
    Post (cleanDataplane env) m
      (fun _ s => .deleting r ∈ s.events ↔ .deleting r ∈ m.events ∨ Attempts env m r)
      (fun _ s => .deleting r ∈ s.events ↔ .deleting r ∈ m.events ∨ Attempts env m r) := by
  refine destroyInterface_events hdp (fun _ => rfl) ?_
  rintro s (rfl | ⟨events, rfl⟩)
  · exact destroyTap_unpin_events hdp r
  · exact @destroyTap_unpin_events env
      { m with xdp := { m.xdp with ifIndex := none }, events := events } hdp r

/-- **What the clean-up attempts.** Kind: P -/
theorem cleanup_attempts (hdp : m.dp = true) (r : Resource) :
    .deleting r ∈ (finalState (cleanup env { m with events := [] })).events ↔
      Attempts env m r := by
  have hevents := (@cleanDataplane_events env { m with events := [] } hdp r).finalState
  rw [cleanup, hevents]
  exact or_iff_right List.not_mem_nil

/-! ## A failed start-up and its clean-up -/

/-- A handler. Kind: L -/
theorem returnFalseOn_post {caught : Failure → Bool} {failure : Failure}
    {Q : Bool → Manager → Prop} (hQ : Q false m) (hE : E failure m) :
    Post (returnFalseOn caught failure) m Q E := by
  unfold returnFalseOn
  split_ifs
  · exact (post_pure false).mpr hQ
  · exact (post_throw failure).mpr hE

/-- The state a start-up ends in: nothing happens without a configuration. Kind: L -/
theorem init_post (lib : Libraries) (file : Option Text) :
    Post (init lib env file) Manager.start
      (fun _ s => ((∀ config, loadConfig lib file ≠ .ok config) ∧ s = Manager.start) ∨
        ((∃ config, loadConfig lib file = .ok config) ∧ Started env s))
      (fun _ s => ((∀ config, loadConfig lib file ≠ .ok config) ∧ s = Manager.start) ∨
        ((∃ config, loadConfig lib file = .ok config) ∧ Started env s)) := by
  unfold init
  cases hload : loadConfig lib file with
  | error failure =>
      have hnone : ∀ config, (.error failure : Cpp TranslatorConfig) ≠ .ok config := by
        intro config h
        cases h
      exact returnFalseOn_post (Or.inl ⟨hnone, rfl⟩) (Or.inl ⟨hnone, rfl⟩)
  | ok config =>
      have hstart := (post_bind _ _).mp (@initDataplane_post env config)
      have hdone : ∀ s, Started env s →
          ((∀ config', (.ok config : Cpp TranslatorConfig) ≠ .ok config') ∧ s = Manager.start) ∨
            ((∃ config', (.ok config : Cpp TranslatorConfig) = .ok config') ∧ Started env s) :=
        fun s hs => Or.inr ⟨⟨config, rfl⟩, hs⟩
      refine (post_tryCatch _ _).mpr ((post_bind _ _).mpr (hstart.mono ?_ ?_))
      · intro _ s hinit
        refine (post_bind _ _).mpr (hinit.mono ?_ ?_)
        · -- configuring the routes touches neither the resources nor the handles
          intro _ s' hs'
          refine (post_tryCatch _ _).mpr ((post_bind _ _).mpr ((post_liftExcept _).mpr ⟨?_, ?_⟩))
          · intro _ _
            exact hdone s' hs'
          · intro failure _
            have hfinal := hdone s' hs'
            exact returnFalseOn_post hfinal (returnFalseOn_post hfinal hfinal)
        · intro failure s' hs'
          exact returnFalseOn_post (hdone s' hs') (hdone s' hs')
      · intro failure s hs
        exact returnFalseOn_post (hdone s hs) (hdone s hs)

/-- **When a failed start-up leaves nothing behind.** The clean-up attempts the deletion of
everything the start-up caused to exist if and only if the deletion of an AF_XDP interface that was
made succeeds and a map that was pinned was opened and the deletion of the tap succeeds. Kind: P -/
theorem cleanup_attempts_iff (lib : Libraries) (env : Externals) (file : Option Text) {m : Manager}
    (h : init lib env file Manager.start = .ok false m) :
    (∀ r, .created r ∈ m.events →
        .deleting r ∈ (finalState (cleanup env { m with events := [] })).events) ↔
      ((∃ config, loadConfig lib file = .ok config) →
        (env.XdpMade → env.xdpDelete.Succeeds) ∧
        (env.MapPinned → env.MapOpened ∧ env.tapDelete.Succeeds)) := by
  rcases (init_post lib file).of_ok h with ⟨hnone, rfl⟩ | ⟨hloads, hm⟩
  · refine iff_of_true ?_ ?_
    · intro r hr
      exact absurd hr List.not_mem_nil
    · rintro ⟨config, hload⟩
      exact absurd hload (hnone config)
  rw [imp_iff_right hloads]
  by_cases htap : env.TapMade
  swap
  · -- nothing was made, so the clean-up has nothing to attempt
    refine iff_of_true ?_ ⟨fun hxdp => absurd hxdp.1 htap, fun hpin => absurd hpin.1.1 htap⟩
    intro r hr
    rcases (hm.created r).mp hr with ⟨hmade, -⟩ | ⟨hmade, -⟩ | ⟨hmade, -⟩
    · exact absurd hmade htap
    · exact absurd hmade.1 htap
    · exact absurd hmade.1.1 htap
  have hxdpSome : m.xdp.ifIndex.isSome → env.XdpMade := by
    intro hsome
    obtain ⟨index, hindex⟩ := Option.isSome_iff_exists.mp hsome
    exact ((hm.xdp index).mp hindex).1
  have htapIndex : m.tap.ifIndex = some env.tapCreate.swIfIndex := (hm.tap _).mpr ⟨htap, rfl⟩
  simp only [cleanup_attempts (hm.dp htap)]
  constructor
  · intro hall
    refine ⟨?_, ?_⟩
    · intro hxdp
      have hxdpIndex : m.xdp.ifIndex = some env.xdpCreate.swIfIndex := (hm.xdp _).mpr ⟨hxdp, rfl⟩
      rcases hall _ ((hm.created _).mpr (Or.inl ⟨htap, rfl⟩)) with ⟨_, _, heq⟩ | ⟨hdelete, -⟩
      · cases heq
      · exact hdelete (by rw [hxdpIndex]; rfl)
    · intro hpin
      rcases hall _ ((hm.created _).mpr (Or.inr (Or.inr ⟨hpin, rfl⟩))) with
        ⟨_, _, heq⟩ | ⟨-, ⟨_, _, heq⟩ | ⟨hdelete, hfd, -⟩⟩
      · cases heq
      · cases heq
      · exact ⟨hm.scionIpMap.mp hfd, hdelete (by rw [htapIndex]; rfl)⟩
  · rintro ⟨hdelete, hpin⟩ r hr
    rcases (hm.created r).mp hr with ⟨-, rfl⟩ | ⟨hxdp, rfl⟩ | ⟨hmade, rfl⟩
    · exact Or.inr ⟨fun hsome => hdelete (hxdpSome hsome), Or.inl ⟨_, htapIndex, rfl⟩⟩
    · exact Or.inl ⟨_, (hm.xdp _).mpr ⟨hxdp, rfl⟩, rfl⟩
    · exact Or.inr ⟨fun hsome => hdelete (hxdpSome hsome),
        Or.inr ⟨fun _ => (hpin hmade).2, hm.scionIpMap.mpr (hpin hmade).1, rfl⟩⟩

end CleanUp

/-! ### A sample -/

/-- A request that is answered with success. Kind: C -/
def sampleReply (index : UInt32) : VapiReply := ⟨.VAPI_OK, [.VAPI_EAGAIN, .VAPI_OK], 0, index⟩

/-- The path of the sample's XDP program. Kind: C -/
def samplePath : Text := "/opt/bpf/af_xdp.c.o".toList

/-- The process may not open the route socket; the other calls of the start-up succeed, but for the
question about the map. Kind: C -/
def sampleExternals (xdpDelete : VapiReply) : Externals where
  absolute := .ok ⟨samplePath, by decide⟩
  fileExists := .ok true
  connect := .VAPI_OK
  tapCreate := sampleReply 1
  tapUp := sampleReply 1
  xdpCreate := sampleReply 2
  xdpUp := sampleReply 2
  bpfObjGet := 5
  bpfMapInfo := none
  bpfMapUpdate := 0
  netlinkOpen := true
  netlinkBind := some 1
  addRoute := ⟨3, none, none, none⟩
  delRoute := ⟨4, none, none, none⟩
  xdpDelete := xdpDelete
  tapDelete := sampleReply 1
  remove := .ok true

/-- The manager after the failed start-up. Kind: C -/
def sampleManager : Manager where
  dp := true
  tap := ⟨"scion".toList, sampleNetwork 1, some 1⟩
  xdp := ⟨"xdp".toList, "vpp0".toList, samplePath, 1, some 2⟩
  scionIpMap := 5
  events := [.created (.tap 1), .created (.afXdp 2), .created (.pinnedMap SCION_IP_MAP)]

/-- The start-up of the sample fails. Kind: L -/
theorem init_sample (xdpDelete : VapiReply) :
    init sampleLibraries (sampleExternals xdpDelete) (some sampleFile) Manager.start
      = .ok false sampleManager := by
  have hload : loadConfig sampleLibraries (some sampleFile)
      = .ok (sampleConfig ⟨[127, 0, 0, 1], rfl⟩) := by decide +kernel
  unfold init
  rw [hload]
  rfl

/-- A sample of which nothing is left. Kind: C -/
theorem cleanup_attempts_sample :
    .deleting (.pinnedMap SCION_IP_MAP) ∈ (finalState (cleanup (sampleExternals (sampleReply 2))
      { sampleManager with events := [] })).events := by
  apply (cleanup_attempts_iff sampleLibraries _ _ (init_sample (sampleReply 2))).mpr
  · intro _
    refine ⟨fun _ => by decide, fun hpin => ⟨⟨hpin, by decide, by decide⟩, by decide⟩⟩
  · decide

/-- **A failed start-up can leave something behind**: when VPP answers the deletion of the AF_XDP
interface with an error, the tap and the pinned map stay. Kind: C -/
theorem not_cleanup_attempts :
    ¬ ∀ (lib : Libraries) (env : Externals) (file : Option Text) (m : Manager),
      init lib env file Manager.start = .ok false m → ∀ r, .created r ∈ m.events →
        .deleting r ∈ (finalState (cleanup env { m with events := [] })).events := by
  intro hall
  have htap := hall _ _ _ _ (init_sample ⟨.VAPI_OK, [.VAPI_OK], -1, 2⟩) (.tap 1) (by decide)
  have hevents : (finalState (cleanup (sampleExternals ⟨.VAPI_OK, [.VAPI_OK], -1, 2⟩)
      { sampleManager with events := [] })).events = [.deleting (.afXdp 2)] := rfl
  rw [hevents] at htap
  exact absurd htap (by decide)

end ScionIp.Vpp
