import ScionIp.Lib.Transition
import ScionIp.Vpp.Dereferences
import ScionIp.Vpp.FilteredFrames

/-!
# What runs of the path manager leave in force

* `main_leaves` — which resources exist when a run ends, for each way to end.
* `scionIpAfter` — the pinned map behind a run, which a later run finds again by its name.
* `filter_in_force` — behind any number of runs, what the XDP program hands to VPP once a run ended
  well. A map that could not be written is no failure of the run: an older filter stays.
-/

namespace ScionIp.Vpp

open ScionIp.Lib ScionIp.Ebpf

/-! ## When the start-up succeeds -/

section StartUp

variable {lib : Libraries} {env : Externals} {file : Option Text} {config : TranslatorConfig}
  {m : Manager}

/-- Both interfaces are made and brought up, and the filter does not miss an address. Kind: D -/
def Externals.BringsUp (env : Externals) (config : TranslatorConfig) : Prop :=
  env.XdpMade ∧ env.xdpUp.Answered ∧ ¬ MissesAddr4 env config

/-- The start-up comes to its end. Kind: D -/
def Externals.StartsUp (env : Externals) (config : TranslatorConfig) : Prop :=
  env.BringsUp config ∧ configureRoutes env config = .ok ()

/-- **When the dataplane is brought up.** Kind: L -/
theorem initDataplane_brings (config : TranslatorConfig) :
    Post (connectDataplane env >>= fun _ => initDataplane env config) Manager.start
      (fun _ _ => env.BringsUp config) fun _ _ => ¬ env.BringsUp config := by
  have hfailures := @initDataplane_failures env config
  suffices h : Post (connectDataplane env >>= fun _ => initDataplane env config) Manager.start
      (fun _ _ => env.XdpMade ∧ env.xdpUp.Answered)
      (fun failure _ => failure = .undefined ∨ ¬ (env.XdpMade ∧ env.xdpUp.Answered)) by
    refine (hfailures.and h).mono ?_ ?_
    · rintro _ _ ⟨⟨hno, -⟩, hxdp, hup⟩
      exact ⟨hxdp, hup, hno⟩
    · rintro failure _ ⟨hfailure, hend⟩ ⟨hxdp, hup, hno⟩
      rcases hfailure with ⟨hmisses, -⟩ | ⟨-, hforeseen, -⟩
      · exact hno hmisses
      · exact hend.elim hforeseen.ne_undefined fun hnot => hnot ⟨hxdp, hup⟩
  apply initDataplane_exits config
  · intro failure m' hrun
    have hconnect := (connectDataplane_post.of_error hrun).1
    exact .inr fun h => hconnect h.1.1.1
  · intro failure m' _ _ hfailure
    refine .inr ?_
    rintro ⟨⟨⟨-, ⟨program, hprogram⟩, -⟩, -⟩, -⟩
    rw [hprogram] at hfailure
    cases hfailure
  · intro program failure m₁ m' _ _ hm₁ hrun
    rcases (bringUpTap_post config hm₁).of_error hrun with ⟨hno, -⟩ | ⟨-, hno, -⟩
    · exact .inr fun h => hno h.1.1.2.2
    · exact .inr fun h => hno h.1.2.1
  · intro program failure m₂ m' _ _ _ hm₂ hrun
    rcases (bringUpXdp_post config hm₂).of_error hrun with ⟨hno, -⟩ | ⟨-, hno, -⟩
    · exact .inr fun h => hno h.1.2.2
    · exact .inr fun h => hno h.2
  · intro program m₃ hxdp hxdpUp hprogram _
    refine ⟨fun _ => ⟨hxdp, hxdpUp⟩, ?_⟩
    rintro path rfl
    unfold initScionIpMap
    refine (post_bind _ _).mpr ((post_modify _).mpr ?_)
    split_ifs with hfd
    · exact ⟨hxdp, hxdpUp⟩
    · refine (post_liftExcept _).mpr ⟨fun _ _ => ⟨hxdp, hxdpUp⟩, ?_⟩
      intro failure hfailure
      have hopen : env.MapOpened := ⟨⟨hxdp, path, hprogram⟩, hxdpUp, not_lt.mp hfd⟩
      rcases updateScionIpMap_cases config hopen with ⟨-, hupdate⟩ | ⟨-, b, hupdate⟩
      · rw [hupdate] at hfailure
        exact .inl (Except.error.inj hfailure).symm
      · rw [hupdate] at hfailure
        cases hfailure

/-- A handler that is not needed for success. Kind: L -/
theorem returnFalseOn_fails {caught : Failure → Bool} {failure : Failure} {P : Prop} (h : ¬ P) :
    Post (returnFalseOn caught failure) m (fun b _ => b = true ↔ P) fun _ _ => ¬ P :=
  returnFalseOn_post (iff_of_false Bool.false_ne_true h) h

/-- **When `init` succeeds.** Kind: L -/
theorem init_succeeds (hload : loadConfig lib file = .ok config) :
    Post (init lib env file) Manager.start (fun b _ => b = true ↔ env.StartsUp config)
      fun _ _ => ¬ env.StartsUp config := by
  unfold init
  rw [hload]
  have hbrings := (post_bind _ _).mp (@initDataplane_brings env config)
  have hcatch : ∀ failure s, ¬ env.BringsUp config →
      Post (returnFalseOn Failure.isRuntimeError failure) s
        (fun b _ => b = true ↔ env.StartsUp config) fun _ _ => ¬ env.StartsUp config :=
    fun failure s hno => returnFalseOn_fails fun h => hno h.1
  refine (post_tryCatch _ _).mpr ((post_bind _ _).mpr (hbrings.mono ?_ hcatch))
  intro _ s hinit
  refine (post_bind _ _).mpr (hinit.mono ?_ hcatch)
  intro _ s' hup
  refine (post_tryCatch _ _).mpr ((post_bind _ _).mpr ((post_liftExcept _).mpr ⟨?_, ?_⟩))
  · intro _ hroutes
    exact iff_of_true rfl ⟨hup, hroutes⟩
  · intro failure hfailure
    have hno : ¬ env.StartsUp config := by
      rintro ⟨-, hroutes⟩
      rw [hroutes] at hfailure
      cases hfailure
    refine (returnFalseOn_fails hno).mono (fun _ _ h => h) ?_
    intro failure' s'' _
    exact returnFalseOn_fails hno

end StartUp

/-! ## What is left behind -/

namespace Externals

variable (env : Externals)

/-- An attempted deletion takes effect: a request for one that fails deletes nothing. Kind: D -/
def Removes : Resource → Prop
  | .tap _ => env.tapDelete.Succeeds
  | .afXdp _ => env.xdpDelete.Succeeds
  | .pinnedMap _ => ∃ removed, env.remove = .ok removed

/-- What the start-up makes. Kind: D -/
def Makes (r : Resource) : Prop :=
  (env.TapMade ∧ r = .tap env.tapCreate.swIfIndex) ∨
    (env.XdpMade ∧ r = .afXdp env.xdpCreate.swIfIndex) ∨
    (env.MapPinned ∧ r = .pinnedMap SCION_IP_MAP)

end Externals

/-- **A resource is left behind**: it was made, and no deletion of it took effect. Kind: D -/
def LeftBehind (env : Externals) (m : Manager) (r : Resource) : Prop :=
  .created r ∈ m.events ∧ ¬ (.deleting r ∈ m.events ∧ env.Removes r)

section CleanUp

variable {env : Externals} {m : Manager}

/-- The trace names the same resources as made. Kind: D -/
abbrev KeepsCreated {α : Type} (x : PathManager α) (m : Manager) : Prop :=
  Post x m (fun _ s => ∀ r, .created r ∈ s.events ↔ .created r ∈ m.events)
    fun _ s => ∀ r, .created r ∈ s.events ↔ .created r ∈ m.events

/-- Deleting an interface makes nothing. Kind: L -/
theorem destroyInterface_created (ifIndex : Option UInt32) (reply : VapiReply) (what : String)
    (resource : UInt32 → Resource) {forget : Manager → Manager}
    (hforget : ∀ s, (forget s).events = s.events) :
    KeepsCreated (destroyInterface ifIndex reply what resource forget) m := by
  unfold destroyInterface derefDataplane
  refine (post_bind _ _).mpr ((post_bind _ _).mpr (post_get.mpr ?_))
  refine (post_liftExcept _).mpr ⟨fun _ _ => ?_, fun _ _ _ => Iff.rfl⟩
  cases ifIndex with
  | none => exact fun _ => Iff.rfl
  | some index =>
      refine (post_bind _ _).mpr ((post_modify _).mpr ?_)
      refine (post_bind _ _).mpr ((post_liftExcept _).mpr ⟨fun _ _ => ?_, fun _ _ r => by simp⟩)
      refine (post_modify _).mpr fun r => ?_
      simp [hforget]

/-- The clean-up makes nothing. Kind: L -/
theorem cleanDataplane_created : KeepsCreated (cleanDataplane env) m := by
  unfold cleanDataplane destroyXdp destroyTap
  refine (post_bind _ _).mpr ((post_bind _ _).mpr (post_get.mpr ?_))
  refine Post.mono (destroyInterface_created _ _ _ _ ?_) ?_ fun _ _ h => h
  · exact fun _ => rfl
  intro _ s hs
  refine (post_bind _ _).mpr ((post_bind _ _).mpr (post_get.mpr ?_))
  refine Post.mono (destroyInterface_created _ _ _ _ ?_) ?_ fun _ _ h r => (h r).trans (hs r)
  · exact fun _ => rfl
  intro _ s' hs'
  refine unpinScionIpMap_post (fun _ r => (hs' r).trans (hs r)) fun _ r => ?_
  simp [hs', hs]

/-- The requests to delete the interfaces that are there succeed. Kind: D -/
def DeletesTake (env : Externals) (m : Manager) : Prop :=
  (m.xdp.ifIndex.isSome → env.xdpDelete.Succeeds) ∧ (m.tap.ifIndex.isSome → env.tapDelete.Succeeds)

/-- The clean-up returns exactly if they do. Kind: L -/
theorem cleanDataplane_returns (hdp : m.dp = true) :
    Post (cleanDataplane env) m (fun _ _ => DeletesTake env m) fun _ _ => ¬ DeletesTake env m := by
  have htap : ∀ s : Manager, s.dp = true → s.tap = m.tap →
      (m.xdp.ifIndex.isSome → env.xdpDelete.Succeeds) →
      Post (destroyTap env >>= fun _ => unpinScionIpMap env) s (fun _ _ => DeletesTake env m)
        fun _ _ => ¬ DeletesTake env m := by
    intro s hs hsame hxdp
    refine (post_bind _ _).mpr (destroyInterface_post hs ?_ ?_ ?_)
    · intro hnone
      have htake : DeletesTake env m := ⟨hxdp, fun hsome => by simp [← hsame, hnone] at hsome⟩
      exact unpinScionIpMap_post (fun _ => htake) fun _ => htake
    · intro index _ hdelete
      have htake : DeletesTake env m := ⟨hxdp, fun _ => hdelete⟩
      exact unpinScionIpMap_post (fun _ => htake) fun _ => htake
    · intro index failure hindex hno htake
      exact hno (htake.2 (by simp [← hsame, hindex]))
  unfold cleanDataplane
  refine (post_bind _ _).mpr (destroyInterface_post hdp ?_ ?_ ?_)
  · intro hnone
    exact htap m hdp rfl fun hsome => by simp [hnone] at hsome
  · intro index _ hdelete
    exact htap _ hdp rfl fun _ => hdelete
  · intro index failure hindex hno htake
    exact hno (htake.1 (by simp [hindex]))

/-- The clean-up of what the start-up left, when it returns: at most the pin stays. Kind: L -/
theorem Started.left_of_returns (hm : Started env m) (htake : DeletesTake env m) (r : Resource) :
    env.Makes r ∧ ¬ (Attempts env m r ∧ env.Removes r) ↔
      r = .pinnedMap SCION_IP_MAP ∧ env.MapPinned ∧
        (env.MapOpened → ∀ removed, env.remove ≠ .ok removed) := by
  constructor
  · rintro ⟨⟨hmade, rfl⟩ | ⟨hmade, rfl⟩ | ⟨hmade, rfl⟩, hno⟩
    · have hindex := (hm.tap _).mpr ⟨hmade, rfl⟩
      exact absurd ⟨Or.inr ⟨htake.1, Or.inl ⟨_, hindex, rfl⟩⟩, htake.2 (by simp [hindex])⟩ hno
    · have hindex := (hm.xdp _).mpr ⟨hmade, rfl⟩
      exact absurd ⟨Or.inl ⟨_, hindex, rfl⟩, htake.1 (by simp [hindex])⟩ hno
    · refine ⟨rfl, hmade, fun hopen removed hremove => hno ⟨?_, removed, hremove⟩⟩
      exact Or.inr ⟨htake.1, Or.inr ⟨htake.2, hm.scionIpMap.mpr hopen, rfl⟩⟩
  · rintro ⟨rfl, hmade, hstays⟩
    refine ⟨Or.inr (Or.inr ⟨hmade, rfl⟩), ?_⟩
    rintro ⟨⟨_, _, heq⟩ | ⟨-, ⟨_, _, heq⟩ | ⟨-, hopen, -⟩⟩, removed, hremove⟩
    · cases heq
    · cases heq
    · exact hstays (hm.scionIpMap.mp hopen) removed hremove

/-- The clean-up of what the start-up left, when it throws: everything stays, or the AF_XDP
interface is gone and the rest stays. Kind: L -/
theorem Started.left_of_throws (hm : Started env m) (hno : ¬ DeletesTake env m) :
    (∀ r, env.Makes r ∧ ¬ (Attempts env m r ∧ env.Removes r) ↔ env.Makes r) ∨
      (env.TapMade ∧ ¬ env.tapDelete.Succeeds ∧ env.xdpDelete.Succeeds ∧
        ∀ r, env.Makes r ∧ ¬ (Attempts env m r ∧ env.Removes r) ↔
          env.Makes r ∧ r ≠ .afXdp env.xdpCreate.swIfIndex) := by
  by_cases hxdp : env.xdpDelete.Succeeds
  swap
  · -- the deletion of the AF_XDP interface is the last one that is attempted, if there is one
    left
    intro r
    refine and_iff_left_of_imp ?_
    rintro - ⟨⟨_, _, rfl⟩ | ⟨hbefore, hbehind⟩, hremoves⟩
    · exact hxdp hremoves
    · have hnone : ¬ m.xdp.ifIndex.isSome := fun hsome => hxdp (hbefore hsome)
      have htap : m.tap.ifIndex.isSome ∧ ¬ env.tapDelete.Succeeds := by
        by_contra hc
        exact hno ⟨fun hsome => absurd hsome hnone, by tauto⟩
      rcases hbehind with ⟨_, _, rfl⟩ | ⟨hsucceeds, -⟩
      · exact htap.2 hremoves
      · exact htap.2 (hsucceeds htap.1)
  have htap : m.tap.ifIndex.isSome ∧ ¬ env.tapDelete.Succeeds := by
    by_contra hc
    exact hno ⟨fun _ => hxdp, by tauto⟩
  obtain ⟨index, hindex⟩ := Option.isSome_iff_exists.mp htap.1
  refine .inr ⟨((hm.tap _).mp hindex).1, htap.2, hxdp, fun r => and_congr_right fun hmakes => ?_⟩
  constructor
  · rintro hstays rfl
    rcases hmakes with ⟨-, heq⟩ | ⟨hmade, -⟩ | ⟨-, heq⟩
    · cases heq
    · exact hstays ⟨Or.inl ⟨_, (hm.xdp _).mpr ⟨hmade, rfl⟩, rfl⟩, hxdp⟩
    · cases heq
  · rintro hne ⟨⟨_, hindex, rfl⟩ | ⟨-, ⟨_, _, rfl⟩ | ⟨hsucceeds, -⟩⟩, hremoves⟩
    · exact hne (by rw [((hm.xdp _).mp hindex).2])
    · exact htap.2 hremoves
    · exact htap.2 (hsucceeds htap.1)

end CleanUp

/-! ## How a run ends -/

section Main

variable {lib : Libraries} {env : Externals} {file : Option Text} {config : TranslatorConfig}

/-- The trace names no deletion. Kind: D -/
def DeletesNothing (m : Manager) : Prop := ∀ r, .deleting r ∉ m.events

/-- The start-up deletes nothing. Kind: L -/
theorem initDataplane_deletes (config : TranslatorConfig) :
    Post (connectDataplane env >>= fun _ => initDataplane env config) Manager.start
      (fun _ => DeletesNothing) fun _ => DeletesNothing := by
  have hnone : ∀ m : Manager, m.events = [] → DeletesNothing m := fun m h r => by simp [h]
  have htap : ∀ m : Manager, m.events = [.created (.tap env.tapCreate.swIfIndex)] →
      DeletesNothing m := fun m h r => by simp [h]
  have hxdp : ∀ (m : Manager) (program : Text), m.events =
      .created (.tap env.tapCreate.swIfIndex) :: xdpEvents program env.xdpCreate.swIfIndex →
      DeletesNothing m := by
    intro m program h r
    unfold xdpEvents at h
    split_ifs at h
    · simp [h]
    · simp [h]
  apply initDataplane_exits config
  · intro _ m' hrun
    obtain ⟨-, rfl⟩ := connectDataplane_post.of_error hrun
    exact hnone _ rfl
  · intro _ m' _ hm' _
    exact hnone _ hm'.events
  · intro program _ m₁ m' _ _ hm₁ hrun
    rcases (bringUpTap_post config hm₁).of_error hrun with ⟨-, hm'⟩ | ⟨-, -, hm'⟩
    · exact hnone _ hm'.events
    · exact htap _ hm'.events
  · intro program _ m₂ m' _ _ _ hm₂ hrun
    rcases (bringUpXdp_post config hm₂).of_error hrun with ⟨-, hm'⟩ | ⟨-, -, hm'⟩
    · exact htap _ hm'.events
    · exact hxdp _ _ hm'.events
  · intro program m₃ _ _ _ hm₃
    exact ⟨fun _ => hxdp _ _ hm₃.events,
      fun _ _ => initScionIpMap_post config (hxdp _ _ hm₃.events)⟩

/-- `init` leaves what `Started` says, and deletes nothing. Kind: L -/
theorem init_starts (hload : loadConfig lib file = .ok config) :
    Post (init lib env file) Manager.start (fun _ s => Started env s ∧ DeletesNothing s)
      fun _ s => Started env s ∧ DeletesNothing s := by
  have hcatch : ∀ (caught : Failure → Bool) failure s, Started env s ∧ DeletesNothing s →
      Post (returnFalseOn caught failure) s (fun _ s => Started env s ∧ DeletesNothing s)
        fun _ s => Started env s ∧ DeletesNothing s :=
    fun _ _ _ hs => returnFalseOn_post hs hs
  have hstart : Post (connectDataplane env >>= fun _ => initDataplane env config) Manager.start
      (fun _ s => Started env s ∧ DeletesNothing s) fun _ s => Started env s ∧ DeletesNothing s :=
    (initDataplane_post config).and (initDataplane_deletes config)
  unfold init
  rw [hload]
  refine (post_tryCatch _ _).mpr ((post_bind _ _).mpr (((post_bind _ _).mp hstart).mono ?_ ?_))
  · intro _ s hinit
    refine (post_bind _ _).mpr (hinit.mono ?_ (hcatch _))
    -- configuring the routes touches neither the resources nor the handles
    intro _ s' hs'
    refine (post_tryCatch _ _).mpr ((post_bind _ _).mpr ((post_liftExcept _).mpr ⟨?_, ?_⟩))
    · exact fun _ _ => hs'
    · exact fun failure _ => returnFalseOn_post hs' (hcatch _ failure s' hs')
  · exact hcatch _

/-- What is left behind is what the predicate says. Kind: D -/
def Leaves (env : Externals) (m : Manager) (P : Resource → Prop) : Prop :=
  ∀ r, LeftBehind env m r ↔ P r

/-- Before any deletion everything is there. Kind: L -/
theorem Started.leaves {m : Manager} (hm : Started env m) (hno : DeletesNothing m) :
    Leaves env m env.Makes := by
  intro r
  rw [LeftBehind, hm.created]
  exact and_iff_left fun h => hno r h.1

/-- Behind the clean-up, what it did not delete. Kind: L -/
theorem Started.leaves_cleaned {m s : Manager} {P : Resource → Prop} (hm : Started env m)
    (hno : DeletesNothing m) (hcreated : ∀ r, .created r ∈ s.events ↔ .created r ∈ m.events)
    (hdeleting : ∀ r, .deleting r ∈ s.events ↔ .deleting r ∈ m.events ∨ Attempts env m r)
    (hP : ∀ r, env.Makes r ∧ ¬ (Attempts env m r ∧ env.Removes r) ↔ P r) : Leaves env s P := by
  intro r
  rw [LeftBehind, hcreated, hm.created, hdeleting, or_iff_right (hno r)]
  exact hP r

/-- A run that returns zero. Kind: L -/
theorem main_zero (hload : loadConfig lib file = .ok config) :
    Post (main lib env file) Manager.start
      (fun code m => code = 0 → env.StartsUp config ∧ Started env m ∧ DeletesNothing m)
      fun _ _ => True := by
  unfold main
  refine (post_bind _ _).mpr (((init_starts hload).and (init_succeeds hload)).mono ?_ ?_)
  · rintro b s ⟨hs, hb⟩
    cases b with
    | true => exact fun _ => ⟨hb.mp rfl, hs⟩
    | false =>
        apply cleanup_returns
        exact (post_self _ _).mono (fun _ _ _ hcode => by cases hcode) fun _ _ _ => trivial
  · exact fun _ _ _ => trivial

/-- **What a run leaves behind.** It returns zero exactly if the start-up succeeds, and everything
stays. If it returns `-1` the interfaces are gone, and the pin stays if it could not be opened or
removed. If it ends in an exception everything stays, but for an AF_XDP interface that was deleted
before the deletion of the tap failed. Kind: P -/
theorem main_leaves (lib : Libraries) (env : Externals) (file : Option Text)
    (hload : loadConfig lib file = .ok config) :
    Post (main lib env file) Manager.start
      (fun code m => (code = 0 ∧ env.StartsUp config ∧ Leaves env m env.Makes) ∨
        (code = -1 ∧ ¬ env.StartsUp config ∧ Leaves env m fun r =>
          r = .pinnedMap SCION_IP_MAP ∧ env.MapPinned ∧
            (env.MapOpened → ∀ removed, env.remove ≠ .ok removed)))
      fun _ m => ¬ env.StartsUp config ∧ (Leaves env m env.Makes ∨
        (env.TapMade ∧ ¬ env.tapDelete.Succeeds ∧ env.xdpDelete.Succeeds ∧ Leaves env m fun r =>
          env.Makes r ∧ r ≠ .afXdp env.xdpCreate.swIfIndex)) := by
  unfold main
  refine (post_bind _ _).mpr (((init_starts hload).and (init_succeeds hload)).mono ?_ ?_)
  · rintro b s ⟨⟨hs, hdeletes⟩, hb⟩
    cases b with
    | true => exact .inl ⟨rfl, hb.mp rfl, hs.leaves hdeletes⟩
    | false =>
        have hfails : ¬ env.StartsUp config := fun h => Bool.false_ne_true (hb.mpr h)
        apply cleanup_returns
        by_cases hdp : s.dp = true
        swap
        · -- without a connection nothing was made, and the first step of the clean-up fails
          have hmakes : ∀ r, ¬ env.Makes r := by
            rintro r (⟨htap, -⟩ | ⟨hxdp, -⟩ | ⟨hpin, -⟩)
            · exact hdp (hs.dp htap)
            · exact hdp (hs.dp hxdp.1)
            · exact hdp (hs.dp hpin.1.1)
          have hnull := @cleanDataplane_of_null env s (Bool.eq_false_iff.mpr hdp)
          refine (hnull.and cleanDataplane_created).mono (fun _ _ h => h.1.elim) ?_
          rintro _ s' ⟨-, hcreated⟩
          refine ⟨hfails, .inl fun r => iff_of_false ?_ (hmakes r)⟩
          rintro ⟨hr, -⟩
          exact hmakes r ((hs.created r).mp ((hcreated r).mp hr))
        have hclean : ∀ r, Post (cleanDataplane env) s
            (fun _ s' => .deleting r ∈ s'.events ↔ .deleting r ∈ s.events ∨ Attempts env s r)
            (fun _ s' => .deleting r ∈ s'.events ↔ .deleting r ∈ s.events ∨ Attempts env s r) :=
          fun r => cleanDataplane_events hdp r
        cases hrun : cleanDataplane env s with
        | ok _ s' =>
            refine (post_of_ok hrun).mpr (.inr ⟨rfl, hfails, ?_⟩)
            exact hs.leaves_cleaned hdeletes (cleanDataplane_created.of_ok hrun)
              (fun r => (hclean r).of_ok hrun)
              (hs.left_of_returns ((cleanDataplane_returns hdp).of_ok hrun))
        | error failure s' =>
            refine (post_of_error hrun).mpr ⟨hfails, ?_⟩
            have hleaves : ∀ P : Resource → Prop,
                (∀ r, env.Makes r ∧ ¬ (Attempts env s r ∧ env.Removes r) ↔ P r) →
                  Leaves env s' P := fun P =>
              hs.leaves_cleaned hdeletes (cleanDataplane_created.of_error hrun)
                fun r => (hclean r).of_error hrun
            refine (hs.left_of_throws ((cleanDataplane_returns hdp).of_error hrun)).imp ?_ ?_
            · exact hleaves _
            · rintro ⟨htap, hno, hxdp, hP⟩
              exact ⟨htap, hno, hxdp, hleaves _ hP⟩
  · rintro _ s ⟨⟨hs, hdeletes⟩, hfails⟩
    exact ⟨hfails, .inl (hs.leaves hdeletes)⟩

/-- The routes cannot be configured, and the pin cannot be removed. Kind: C -/
def samplePinStays : Externals where
  __ := sampleExternals (sampleReply 2)
  remove := .error ⟨.system, 1⟩

/-- The sample's configuration is loaded. Kind: L -/
theorem loadConfig_sampleFile : loadConfig sampleLibraries (some sampleFile)
    = .ok (sampleConfig ⟨[127, 0, 0, 1], rfl⟩) := by decide +kernel

/-- A run that returns `-1` and leaves the pin. Kind: C -/
theorem main_leaves_sample :
    ∃ m, main sampleLibraries samplePinStays (some sampleFile) Manager.start = .ok (-1) m ∧
      LeftBehind samplePinStays m (.pinnedMap SCION_IP_MAP) := by
  have hinit : init sampleLibraries samplePinStays (some sampleFile) Manager.start
      = .ok false sampleManager := by
    unfold init
    rw [loadConfig_sampleFile]
    rfl
  have hmain : ∃ m, main sampleLibraries samplePinStays (some sampleFile) Manager.start
      = .ok (-1) m := by
    simp only [main, bind, EStateM.bind, hinit]
    exact ⟨_, rfl⟩
  obtain ⟨m, hmain⟩ := hmain
  have hleaves := (main_leaves sampleLibraries samplePinStays (some sampleFile)
    loadConfig_sampleFile).of_ok hmain
  rcases hleaves with ⟨hcode, -⟩ | ⟨-, -, hleaves⟩
  · cases hcode
  · refine ⟨m, hmain, (hleaves _).mpr ⟨rfl, ?_, fun _ removed h => by cases h⟩⟩
    exact ⟨⟨⟨rfl, ⟨some samplePath, rfl⟩, by decide⟩, by decide, by decide⟩, samplePath, rfl⟩

end Main

/-! ## The pinned map over runs -/

section Runs

variable {lib : Libraries} {env : Externals} {file : Option Text} {config : TranslatorConfig}
  {host4 : List.Vector UInt8 4} {host6 : List.Vector UInt8 16}

/-- The value of a map that was never written. Source: `af_xdp.c`, `scion_ip`. Kind: D -/
def freshScionIp : Bytes := scionIpValue (List.Vector.replicate 4 0) (List.Vector.replicate 16 0)

/-- The value a start-up writes, if it writes one. Source: `ebpf.cpp`, `updateScionIpMap`.
Kind: D -/
def writtenValue (env : Externals) (config : TranslatorConfig) : Option Bytes :=
  match updateScionIpMap env config env.bpfObjGet, config.hostAddr4 with
  | .ok true, some hostAddr4 =>
      some (scionIpValue hostAddr4.address.toBytes config.hostAddr.address.toBytes)
  | _, _ => none

/-- What the map of a custom program holds once it is loaded, from what is pinned under its name.
Kind: D -/
abbrev MapLoader := Option Bytes → Bytes

/-- **The documented behaviour of `libbpf`** with `LIBBPF_PIN_BY_NAME`: a map that is pinned is taken
over, and otherwise a new one is pinned. Kind: D -/
structure PinsByName (loadMap : MapLoader) : Prop where
  reused : ∀ v, loadMap (some v) = v
  fresh : loadMap none = freshScionIp

/-- The content of the pinned map behind a run, from its content before. A removed pin is no pin.
Kind: D -/
def scionIpAfter (lib : Libraries) (loadMap : MapLoader) (env : Externals) (file : Option Text)
    (before : Option Bytes) : Option Bytes :=
  match loadConfig lib file with
  | .error _ => before
  | .ok config =>
      let m := finalState (main lib env file Manager.start)
      if .created (.pinnedMap SCION_IP_MAP) ∈ m.events then
        if .deleting (.pinnedMap SCION_IP_MAP) ∈ m.events ∧ env.remove.isOk then none
        else
          let written := if env.xdpUp.Answered then writtenValue env config else none
          some (written.getD (loadMap before))
      else before

/-- The map of a host, and the configurations of the runs so far. Kind: D -/
structure HostMap where
  runs : List TranslatorConfig
  scionIp : Option Bytes

/-- What a run makes of it. Kind: D -/
def HostMap.afterRun (lib : Libraries) (loadMap : MapLoader) (env : Externals)
    (file : Option Text) (s : HostMap) : HostMap where
  runs :=
    match loadConfig lib file with
    | .error _ => s.runs
    | .ok config => config :: s.runs
  scionIp := scionIpAfter lib loadMap env file s.scionIp

/-- Runs of the path manager on one host, one after the other; a reboot takes the pin. Kind: D -/
def hostRuns (lib : Libraries) (loadMap : MapLoader) : TransitionSystem HostMap where
  init s := s.runs = [] ∧ s.scionIp = none
  step s t := (∃ env file, t = s.afterRun lib loadMap env file) ∨ t = { s with scionIp := none }

/-- The addresses are those of the configuration. Kind: D -/
def Names (config : TranslatorConfig) (host4 : List.Vector UInt8 4)
    (host6 : List.Vector UInt8 16) : Prop :=
  (∃ n, config.hostAddr4 = some n ∧ n.address.toBytes = host4) ∧
    config.hostAddr.address.toBytes = host6

/-- A value of the map comes from one of the configurations, or it was never written. Kind: D -/
def ComesFrom (runs : List TranslatorConfig) (v : Bytes) : Prop :=
  ∃ host4 host6, v = scionIpValue host4 host6 ∧
    (v = freshScionIp ∨ ∃ config ∈ runs, Names config host4 host6)

/-- Taken over or pinned anew. Kind: L -/
theorem PinsByName.eq_getD {loadMap : MapLoader} (h : PinsByName loadMap) (before : Option Bytes) :
    loadMap before = before.getD freshScionIp := by
  cases before with
  | none => exact h.fresh
  | some v => exact h.reused v

/-- A map that was never written. Kind: L -/
theorem comesFrom_fresh (runs : List TranslatorConfig) : ComesFrom runs freshScionIp :=
  ⟨_, _, rfl, .inl rfl⟩

/-- More runs. Kind: L -/
theorem ComesFrom.mono {runs runs' : List TranslatorConfig} {v : Bytes} (h : ComesFrom runs v)
    (hsub : runs ⊆ runs') : ComesFrom runs' v := by
  obtain ⟨host4, host6, rfl, hfrom⟩ := h
  exact ⟨host4, host6, rfl, hfrom.imp_right fun ⟨config, hmem, hnames⟩ =>
    ⟨config, hsub hmem, hnames⟩⟩

/-- What is written are the addresses of the configuration. Kind: L -/
theorem names_of_writtenValue {v : Bytes} (h : writtenValue env config = some v) :
    ∃ host4 host6, v = scionIpValue host4 host6 ∧ Names config host4 host6 := by
  unfold writtenValue at h
  split at h
  · rename_i hostAddr4 _ haddr
    exact ⟨_, _, (Option.some.inj h).symm, ⟨hostAddr4, haddr, rfl⟩, rfl⟩
  · cases h

/-- **The kernel lets the map be written**: it is opened, it has one entry of the right sizes, and
the update succeeds. Kind: D -/
def Externals.Writes (env : Externals) : Prop :=
  0 ≤ env.bpfObjGet ∧ env.bpfMapInfo = some ⟨1, 4, 20⟩ ∧ env.bpfMapUpdate = 0

instance (env : Externals) : Decidable env.Writes := inferInstanceAs (Decidable (_ ∧ _))

/-- **What is written**, when the IPv4 address is not missed. Kind: L -/
theorem writtenValue_eq (hno : ¬ MissesAddr4 env config) (hpin : env.MapPinned)
    (hup : env.xdpUp.Answered) :
    (env.Writes → ∃ host4 host6, writtenValue env config = some (scionIpValue host4 host6) ∧
        Names config host4 host6) ∧
      (¬ env.Writes → writtenValue env config = none) := by
  constructor
  · rintro ⟨hfd, hinfo, hupdate⟩
    cases haddr : config.hostAddr4 with
    | none => exact absurd ⟨⟨hpin, hup, hfd⟩, haddr, _, hinfo, rfl, rfl, rfl⟩ hno
    | some n =>
        refine ⟨n.address.toBytes, config.hostAddr.address.toBytes, ?_, ⟨n, haddr, rfl⟩, rfl⟩
        unfold writtenValue updateScionIpMap
        rw [if_neg (not_lt.mpr hfd), hinfo, haddr, hupdate]
        rfl
  · intro hwrites
    have hfalse : updateScionIpMap env config env.bpfObjGet ≠ .ok true := by
      intro h
      apply hwrites
      unfold updateScionIpMap at h
      by_cases hfd : env.bpfObjGet < 0
      · rw [if_pos hfd] at h
        cases h
      rw [if_neg hfd] at h
      rcases hinfo : env.bpfMapInfo with _ | ⟨entries, key, value⟩
      · rw [hinfo] at h
        cases h
      simp only [hinfo] at h
      by_cases hsize : entries ≠ 1 ∨ key ≠ 4 ∨ value ≠ 20
      · rw [if_pos hsize] at h
        cases h
      rw [if_neg hsize] at h
      push Not at hsize
      obtain ⟨rfl, rfl, rfl⟩ := hsize
      cases haddr : config.hostAddr4 with
      | none =>
          rw [haddr] at h
          cases h
      | some n =>
          rw [haddr] at h
          exact ⟨not_lt.mp hfd, hinfo, of_decide_eq_true (Except.ok.inj h)⟩
    unfold writtenValue
    split
    · rename_i _ hupdate _
      exact absurd hupdate hfalse
    · rfl

/-- A run keeps where the content comes from. Kind: L -/
theorem HostMap.afterRun_comesFrom {loadMap : MapLoader} (hpins : PinsByName loadMap) {s : HostMap}
    (hs : ∀ v, s.scionIp = some v → ComesFrom s.runs v) {v : Bytes}
    (hv : (s.afterRun lib loadMap env file).scionIp = some v) :
    ComesFrom (s.afterRun lib loadMap env file).runs v := by
  unfold afterRun scionIpAfter at hv
  unfold afterRun
  cases hload : loadConfig lib file with
  | error failure =>
      rw [hload] at hv
      exact hs v hv
  | ok config =>
      rw [hload] at hv
      have hbefore : ComesFrom (config :: s.runs) (loadMap s.scionIp) := by
        rw [hpins.eq_getD]
        cases hpin : s.scionIp with
        | none => exact comesFrom_fresh _
        | some w => exact (hs w hpin).mono (List.subset_cons_self _ _)
      dsimp only at hv ⊢
      split_ifs at hv
      · cases hwritten : writtenValue env config with
        | none =>
            rw [hwritten] at hv
            exact Option.some.inj hv ▸ hbefore
        | some w =>
            obtain ⟨host4, host6, rfl, hnames⟩ := names_of_writtenValue hwritten
            rw [hwritten] at hv
            obtain rfl := Option.some.inj hv
            exact ⟨host4, host6, rfl, .inr ⟨config, List.mem_cons_self, hnames⟩⟩
      · exact Option.some.inj hv ▸ hbefore
      · exact (hs v hv).mono (List.subset_cons_self _ _)

/-- **Whatever runs there were**, a pinned map holds the addresses of one of them, or none.
Kind: P -/
theorem scionIp_comesFrom {loadMap : MapLoader} (hpins : PinsByName loadMap) {s : HostMap}
    (hs : (hostRuns lib loadMap).Reachable s) :
    ∀ v, s.scionIp = some v → ComesFrom s.runs v := by
  refine hs.invariant (I := fun s => ∀ v, s.scionIp = some v → ComesFrom s.runs v) ⟨?_, ?_⟩
  · rintro s ⟨-, hnone⟩ v hv
    rw [hnone] at hv
    cases hv
  · rintro s t hI (⟨env, file, rfl⟩ | rfl) v hv
    · exact HostMap.afterRun_comesFrom hpins hI hv
    · cases hv

/-- **What a run that ended well leaves in the map**: what it wrote, or what was there. Kind: L -/
theorem scionIpAfter_of_zero {m : Manager} (hload : loadConfig lib file = .ok config)
    (hmain : main lib env file Manager.start = .ok 0 m) (hcustom : env.CustomProgram)
    (loadMap : MapLoader) (before : Option Bytes) :
    scionIpAfter lib loadMap env file before
      = some ((writtenValue env config).getD (loadMap before)) := by
  obtain ⟨⟨⟨hxdp, hup, -⟩, -⟩, hm, hdeletes⟩ := (main_zero hload).of_ok hmain rfl
  have hcreated : .created (.pinnedMap SCION_IP_MAP) ∈ m.events :=
    (hm.created _).mpr (Or.inr (Or.inr ⟨⟨hxdp, hcustom⟩, rfl⟩))
  have hkept : ¬ (.deleting (.pinnedMap SCION_IP_MAP) ∈ m.events ∧ env.remove.isOk) :=
    fun h => hdeletes _ h.1
  unfold scionIpAfter
  rw [hload, hmain]
  simp only [finalState, if_pos hcreated, if_neg hkept, if_pos hup]

/-- **The filter in force**, behind any number of runs and reboots, when a run with the custom
program returns zero. Of every frame the addresses in the map decide: those of the configuration if
the kernel let the map be written, else those that were in the map before, of an earlier run or none
at all. Kind: P -/
theorem filter_in_force {loadMap : MapLoader} (hpins : PinsByName loadMap) {s : HostMap}
    (hs : (hostRuns lib loadMap).Reachable s) {m : Manager}
    (hload : loadConfig lib file = .ok config) (hmain : main lib env file Manager.start = .ok 0 m)
    (hcustom : env.CustomProgram) :
    ∃ host4 host6, (s.afterRun lib loadMap env file).scionIp = some (scionIpValue host4 host6) ∧
      (env.Writes → Names config host4 host6) ∧
      (¬ env.Writes → scionIpValue host4 host6 = s.scionIp.getD freshScionIp ∧
        (scionIpValue host4 host6 = freshScionIp ∨
          ∃ earlier ∈ s.runs, Names earlier host4 host6)) ∧
      ∀ e rxQueueIndex f,
        scionFilter e (s.afterRun lib loadMap env file).scionIp rxQueueIndex f
            = ⟨.bpfRedirectMap rxQueueIndex, f⟩ ∧ Takes host4 host6 f ∨
          scionFilter e (s.afterRun lib loadMap env file).scionIp rxQueueIndex f = ⟨.XDP_PASS, f⟩ ∧
            ¬ Takes host4 host6 f := by
  obtain ⟨⟨⟨hxdp, hup, hno⟩, -⟩, -⟩ := (main_zero hload).of_ok hmain rfl
  obtain ⟨hwrites, hkeeps⟩ := writtenValue_eq hno ⟨hxdp, hcustom⟩ hup
  have hafter : (s.afterRun lib loadMap env file).scionIp
      = some ((writtenValue env config).getD (loadMap s.scionIp)) :=
    scionIpAfter_of_zero hload hmain hcustom loadMap s.scionIp
  by_cases hw : env.Writes
  · obtain ⟨host4, host6, hvalue, hnames⟩ := hwrites hw
    rw [hvalue] at hafter
    refine ⟨host4, host6, hafter, fun _ => hnames, absurd hw, ?_⟩
    intro e rxQueueIndex f
    rw [hafter]
    exact scionFilter_eq e host4 host6 rxQueueIndex f
  · have hbefore : ComesFrom s.runs (s.scionIp.getD freshScionIp) := by
      cases hpin : s.scionIp with
      | none => exact comesFrom_fresh _
      | some v => exact scionIp_comesFrom hpins hs v hpin
    obtain ⟨host4, host6, hvalue, hfrom⟩ := hbefore
    rw [hkeeps hw, Option.getD_none, hpins.eq_getD, hvalue] at hafter
    refine ⟨host4, host6, hafter, fun h => absurd h hw, fun _ => ⟨hvalue.symm, hvalue ▸ hfrom⟩, ?_⟩
    intro e rxQueueIndex f
    rw [hafter]
    exact scionFilter_eq e host4 host6 rxQueueIndex f

end Runs

/-- The start-up succeeds, but for the question about the map. Kind: C -/
def sampleUnwritten : Externals where
  __ := sampleExternals (sampleReply 2)
  netlinkBind := none
  delRoute := ⟨4, none, none, some ESRCH⟩

/-- A pinned map is taken over. Kind: C -/
def sampleLoadMap : MapLoader := fun before => before.getD freshScionIp

/-- A run that returns zero although the map was not written. Kind: C -/
theorem filter_in_force_sample :
    (HostMap.afterRun sampleLibraries sampleLoadMap sampleUnwritten (some sampleFile)
      ⟨[], none⟩).scionIp = some freshScionIp := by
  have hinit : init sampleLibraries sampleUnwritten (some sampleFile) Manager.start
      = .ok true sampleManager := by
    unfold init
    rw [loadConfig_sampleFile]
    rfl
  have hmain : main sampleLibraries sampleUnwritten (some sampleFile) Manager.start
      = .ok 0 sampleManager := by
    simp only [main, bind, EStateM.bind, hinit]
    rfl
  have hpins : PinsByName sampleLoadMap := ⟨fun _ => rfl, rfl⟩
  have hstart : (hostRuns sampleLibraries sampleLoadMap).Reachable ⟨[], none⟩ := .init ⟨rfl, rfl⟩
  obtain ⟨host4, host6, hafter, -, hstays, -⟩ :=
    filter_in_force hpins hstart loadConfig_sampleFile hmain ⟨samplePath, rfl⟩
  rw [hafter, (hstays (by decide)).1]
  rfl

end ScionIp.Vpp
