import ScionIp.Lib.Transition

/-!
# Parties on an unreliable network

Parties with a state of their own are handed data from above and messages from a network, and hand
data up and messages out. Between two parties a message may be changed as the network changes
messages, overtake another one, get lost and, where the network does that, be duplicated. A run is
any interleaving of all this.

* `Parties` — what each party may do and what the network may make of a message.
* `network` — the system. Every message on the wire and every datum delivered is labelled with the
  submission it goes back to; no step reads a label.
* `Explained.reachable` — **what was delivered was submitted**: a relation that holds between a
  submission and the messages it leads to, and is kept by every hop, explains every delivery.
* `Single.submissions_le` — **and only once**, on a network that does not duplicate.
* `NetworkStep.party_cases`, `Unseen.step` — what a step does to one party, and to the messages and
  data under labels of one kind.
-/

namespace ScionIp.Lib

/-- What the parties `ι` with states `σ` do: on their own, with data `α` from above, and with
messages `μ` from the network, of which they make data `β`. Kind: D -/
structure Parties (ι σ μ α β : Type*) where
  initially : ι → σ → Prop
  own : ι → σ → σ → Prop
  submit : ι → α → σ → σ → List μ → Prop
  receive : ι → μ → σ → σ → List β → Prop
  /-- What one hop of the network may make of a message. -/
  hop : μ → μ → Prop
  /-- Whether the network may deliver one message several times. -/
  duplicates : Prop

/-- A state of the network. The first component of a message or a delivery is its label.
Kind: D -/
structure NetworkState (ι σ μ α β : Type*) where
  party : ι → σ
  wire : List ((ι × α) × μ)
  submitted : List (ι × α)
  delivered : List ((ι × α) × ι × β)

variable {ι σ μ α β : Type*} [DecidableEq ι]

/-- Another state of one party. Kind: D -/
def NetworkState.setParty (s : NetworkState ι σ μ α β) (i : ι) (c : σ) : NetworkState ι σ μ α β :=
  { s with party := Function.update s.party i c }

@[simp] theorem NetworkState.setParty_self (s : NetworkState ι σ μ α β) (i : ι) (c : σ) :
    (s.setParty i c).party i = c := by
  simp [NetworkState.setParty]

@[simp] theorem NetworkState.setParty_party (s : NetworkState ι σ μ α β) (i : ι) :
    s.setParty i (s.party i) = s := by
  simp [NetworkState.setParty]

@[simp] theorem NetworkState.setParty_setParty (s : NetworkState ι σ μ α β) (i : ι) (c c' : σ) :
    (s.setParty i c).setParty i c' = s.setParty i c' := by
  simp [NetworkState.setParty, Function.update_idem]

/-- One step of a party or of the network. Kind: D -/
inductive NetworkStep (P : Parties ι σ μ α β) :
    NetworkState ι σ μ α β → NetworkState ι σ μ α β → Prop
  | own (s : NetworkState ι σ μ α β) (i : ι) (c : σ) (h : P.own i (s.party i) c) :
      NetworkStep P s (s.setParty i c)
  | submit (s : NetworkState ι σ μ α β) (i : ι) (a : α) (c : σ) (ms : List μ)
      (h : P.submit i a (s.party i) c ms) :
      NetworkStep P s
        { s.setParty i c with
          wire := ms.map (Prod.mk (i, a)) ++ s.wire
          submitted := (i, a) :: s.submitted }
  | hop (s : NetworkState ι σ μ α β) (l r : List ((ι × α) × μ)) (x : ι × α) (m m' : μ)
      (hw : s.wire = l ++ (x, m) :: r) (h : P.hop m m') :
      NetworkStep P s { s with wire := l ++ (x, m') :: r }
  | lose (s : NetworkState ι σ μ α β) (l r : List ((ι × α) × μ)) (x : ι × α) (m : μ)
      (hw : s.wire = l ++ (x, m) :: r) :
      NetworkStep P s { s with wire := l ++ r }
  | duplicate (s : NetworkState ι σ μ α β) (x : ι × α) (m : μ) (hm : (x, m) ∈ s.wire)
      (hd : P.duplicates) :
      NetworkStep P s { s with wire := (x, m) :: s.wire }
  | receive (s : NetworkState ι σ μ α β) (l r : List ((ι × α) × μ)) (x : ι × α) (m : μ) (j : ι)
      (c : σ) (bs : List β) (hw : s.wire = l ++ (x, m) :: r)
      (h : P.receive j m (s.party j) c bs) :
      NetworkStep P s
        { s.setParty j c with
          wire := l ++ r
          delivered := bs.map (fun b => (x, j, b)) ++ s.delivered }

/-- The parties on their network, started with nothing sent. Kind: D -/
def network (P : Parties ι σ μ α β) : TransitionSystem (NetworkState ι σ μ α β) where
  init s := (∀ i, P.initially i (s.party i)) ∧ s.wire = [] ∧ s.submitted = [] ∧ s.delivered = []
  step := NetworkStep P

/-! ## What was delivered was submitted -/

/-- What has to be shown of the parties: `Good` is an invariant of a party, `Carries` holds between
a submission and the messages it leads to, and `Explains` between a submission and what a party
makes of such a message. Kind: D -/
structure Explained (P : Parties ι σ μ α β) (Good : ι → σ → Prop) (Carries : ι × α → μ → Prop)
    (Explains : ι × α → ι × β → Prop) : Prop where
  initially : ∀ i c, P.initially i c → Good i c
  own : ∀ i c c', Good i c → P.own i c c' → Good i c'
  submit : ∀ i a c c' ms, Good i c → P.submit i a c c' ms →
    Good i c' ∧ ∀ m ∈ ms, Carries (i, a) m
  hop : ∀ x m m', Carries x m → P.hop m m' → Carries x m'
  receive : ∀ x m j c c' bs, Good j c → Carries x m → P.receive j m c c' bs →
    Good j c' ∧ ∀ b ∈ bs, Explains x (j, b)

/-- The invariant of a run: the parties are good, and each message and each delivery goes back to
the submission it is labelled with. Kind: D -/
structure Accounted (Good : ι → σ → Prop) (Carries : ι × α → μ → Prop)
    (Explains : ι × α → ι × β → Prop) (s : NetworkState ι σ μ α β) : Prop where
  party : ∀ i, Good i (s.party i)
  wire : ∀ m ∈ s.wire, m.1 ∈ s.submitted ∧ Carries m.1 m.2
  delivered : ∀ d ∈ s.delivered, d.1 ∈ s.submitted ∧ Explains d.1 d.2

variable {P : Parties ι σ μ α β} {Good : ι → σ → Prop} {Carries : ι × α → μ → Prop}
  {Explains : ι × α → ι × β → Prop}

/-- A property of every party survives the step of one. Kind: L -/
theorem forall_update {c : σ} {f : ι → σ} (h : ∀ i, Good i (f i)) {j : ι} (hc : Good j c) (i : ι) :
    Good i (Function.update f j c i) := by
  by_cases hi : i = j
  · subst hi
    rwa [Function.update_self]
  · rw [Function.update_of_ne hi]
    exact h i

/-- **Every step accounts for what it does.** Kind: P -/
theorem Explained.step (h : Explained P Good Carries Explains) {s t : NetworkState ι σ μ α β}
    (hs : Accounted Good Carries Explains s) (hst : NetworkStep P s t) :
    Accounted Good Carries Explains t := by
  cases hst with
  | own i c hc =>
    exact ⟨forall_update hs.party (h.own i _ c (hs.party i) hc), hs.wire, hs.delivered⟩
  | submit i a c ms hc =>
    obtain ⟨hgood, hms⟩ := h.submit i a _ c ms (hs.party i) hc
    refine ⟨forall_update hs.party hgood, ?_, ?_⟩
    · intro m hm
      rcases List.mem_append.mp hm with hnew | hold
      · obtain ⟨m', hm', rfl⟩ := List.mem_map.mp hnew
        exact ⟨List.mem_cons_self, hms m' hm'⟩
      · exact ⟨List.mem_cons_of_mem _ (hs.wire m hold).1, (hs.wire m hold).2⟩
    · exact fun d hd => ⟨List.mem_cons_of_mem _ (hs.delivered d hd).1, (hs.delivered d hd).2⟩
  | hop l r x m m' hw hmm =>
    have hm := hs.wire (x, m) (by simp [hw])
    refine ⟨hs.party, ?_, hs.delivered⟩
    intro q hq
    rcases List.mem_append.mp hq with hl | hr
    · exact hs.wire q (by simp [hw, hl])
    · rcases List.mem_cons.mp hr with rfl | hr
      · exact ⟨hm.1, h.hop x m m' hm.2 hmm⟩
      · exact hs.wire q (by simp [hw, hr])
  | lose l r x m hw =>
    refine ⟨hs.party, ?_, hs.delivered⟩
    intro q hq
    exact hs.wire q (by rw [hw]; exact List.mem_append.mpr ((List.mem_append.mp hq).imp_right
      (List.mem_cons_of_mem _)))
  | duplicate x m hm =>
    refine ⟨hs.party, ?_, hs.delivered⟩
    intro q hq
    rcases List.mem_cons.mp hq with rfl | hold
    · exact hs.wire _ hm
    · exact hs.wire q hold
  | receive l r x m j c bs hw hc =>
    have hm := hs.wire (x, m) (by simp [hw])
    obtain ⟨hgood, hbs⟩ := h.receive x m j _ c bs (hs.party j) hm.2 hc
    refine ⟨forall_update hs.party hgood, ?_, ?_⟩
    · intro q hq
      exact hs.wire q (by rw [hw]; exact List.mem_append.mpr ((List.mem_append.mp hq).imp_right
        (List.mem_cons_of_mem _)))
    · intro d hd
      rcases List.mem_append.mp hd with hnew | hold
      · obtain ⟨b, hb, rfl⟩ := List.mem_map.mp hnew
        exact ⟨hm.1, hbs b hb⟩
      · exact hs.delivered d hold

/-- **What was delivered was submitted**, in every reachable state. Kind: P -/
theorem Explained.reachable (h : Explained P Good Carries Explains) {s : NetworkState ι σ μ α β}
    (hs : (network P).Reachable s) : Accounted Good Carries Explains s := by
  refine hs.invariant ⟨?_, fun s t => h.step⟩
  rintro s ⟨hparty, hwire, -, hdel⟩
  refine ⟨fun i => h.initially i _ (hparty i), ?_, ?_⟩
  · simp [hwire]
  · simp [hdel]

/-! ## And only once -/

/-- A network that does not duplicate, with parties that make at most one message of a submission
and at most one datum of a message. Kind: D -/
structure Single (P : Parties ι σ μ α β) : Prop where
  submit : ∀ i a c c' ms, P.submit i a c c' ms → ms.length ≤ 1
  receive : ∀ j m c c' bs, P.receive j m c c' bs → bs.length ≤ 1
  once : ¬ P.duplicates

/-- The labels of a list, with multiplicity. Kind: D -/
def labels {γ δ : Type*} (l : List (γ × δ)) : Multiset γ := ↑(l.map Prod.fst)

section labels

variable {γ δ : Type*}

@[simp] theorem labels_nil : labels ([] : List (γ × δ)) = 0 := rfl

@[simp] theorem labels_cons (x : γ) (d : δ) (l : List (γ × δ)) :
    labels ((x, d) :: l) = {x} + labels l := rfl

@[simp] theorem labels_append (l r : List (γ × δ)) : labels (l ++ r) = labels l + labels r := by
  simp [labels]

/-- At most one datum with one label. Kind: L -/
theorem labels_map_le (x : γ) {ds : List δ} (h : ds.length ≤ 1) {ε : Type*} (f : δ → ε) :
    labels (ds.map fun d => (x, f d)) ≤ {x} := by
  match ds with
  | [] => exact Multiset.zero_le _
  | [d] => exact le_refl ({x} : Multiset γ)
  | _ :: _ :: _ => simp at h

end labels

/-- The submissions that something underway or delivered goes back to, with multiplicity.
Kind: D -/
def NetworkState.accountedFor (s : NetworkState ι σ μ α β) : Multiset (ι × α) :=
  labels s.wire + labels s.delivered

/-- No step uses a submission twice. Kind: L -/
theorem Single.step (h : Single P) {s t : NetworkState ι σ μ α β}
    (hs : s.accountedFor ≤ ↑s.submitted) (hst : NetworkStep P s t) :
    t.accountedFor ≤ ↑t.submitted := by
  unfold NetworkState.accountedFor at hs ⊢
  cases hst with
  | own i c hc => exact hs
  | submit i a c ms hc =>
    have hnew : labels (ms.map (Prod.mk (i, a))) ≤ {(i, a)} :=
      labels_map_le (i, a) (h.submit i a _ c ms hc) id
    simp only [labels_append, add_assoc]
    exact add_le_add hnew hs
  | hop l r x m m' hw hmm =>
    rw [hw] at hs
    simpa using hs
  | lose l r x m hw =>
    rw [hw, labels_append, labels_cons] at hs
    rw [labels_append]
    exact le_trans (add_le_add (add_le_add le_rfl (Multiset.le_add_left _ _)) le_rfl) hs
  | duplicate x m hm hd => exact absurd hd h.once
  | receive l r x m j c bs hw hc =>
    have hnew : labels (bs.map fun b => (x, j, b)) ≤ {x} :=
      labels_map_le x (h.receive j m _ c bs hc) (Prod.mk j)
    rw [hw, labels_append, labels_cons] at hs
    simp only [labels_append]
    calc labels l + labels r + (labels (bs.map fun b => (x, j, b)) + labels s.delivered)
        ≤ labels l + labels r + ({x} + labels s.delivered) :=
          add_le_add le_rfl (add_le_add hnew le_rfl)
      _ = labels l + ({x} + labels r) + labels s.delivered := by ac_rfl
      _ ≤ ↑s.submitted := hs

/-- **Each submission is delivered at most once**: the deliveries go back to different submissions,
in every reachable state. Kind: P -/
theorem Single.submissions_le (h : Single P) {s : NetworkState ι σ μ α β}
    (hs : (network P).Reachable s) : labels s.delivered ≤ ↑s.submitted := by
  have hall : s.accountedFor ≤ ↑s.submitted := by
    refine hs.invariant ⟨?_, fun s t => h.step⟩
    rintro s ⟨-, hwire, hsub, hdel⟩
    simp [NetworkState.accountedFor, hwire, hsub, hdel]
  exact le_trans (Multiset.le_add_left _ _) hall

/-! ## One party, and some labels -/

section Unseen

variable {s t : NetworkState ι σ μ α β} {F : ι × α → Prop}

/-- Nothing is underway or delivered under such a label. Kind: D -/
structure Unseen (F : ι × α → Prop) (s : NetworkState ι σ μ α β) : Prop where
  wire : ∀ m ∈ s.wire, ¬ F m.1
  delivered : ∀ d ∈ s.delivered, ¬ F d.1

/-- It stays so, while no message is made under such a label. Kind: L -/
theorem Unseen.step (h : Unseen F s) (hst : NetworkStep P s t)
    (hsubmit : ∀ i a ms, P.submit i a (s.party i) (t.party i) ms → F (i, a) → ms = []) :
    Unseen F t := by
  cases hst with
  | own i c hc => exact ⟨h.wire, h.delivered⟩
  | submit i a c ms hc =>
    refine ⟨?_, h.delivered⟩
    intro m hm hF
    rcases List.mem_append.mp hm with hnew | hold
    · obtain ⟨m', hm', rfl⟩ := List.mem_map.mp hnew
      have hnone := hsubmit i a ms (by simpa [NetworkState.setParty] using hc) hF
      rw [hnone] at hm'
      cases hm'
    · exact h.wire m hold hF
  | hop l r x m m' hw hc =>
    have hx := h.wire (x, m) (by simp [hw])
    refine ⟨?_, h.delivered⟩
    intro q hq
    rcases List.mem_append.mp hq with hl | hr
    · exact h.wire q (by rw [hw]; exact List.mem_append_left _ hl)
    · rcases List.mem_cons.mp hr with rfl | hr
      · exact hx
      · exact h.wire q (by rw [hw]; exact List.mem_append_right _ (List.mem_cons_of_mem _ hr))
  | lose l r x m hw =>
    refine ⟨?_, h.delivered⟩
    intro q hq
    exact h.wire q (by rw [hw]; exact List.mem_append.mpr ((List.mem_append.mp hq).imp_right
      (List.mem_cons_of_mem _)))
  | duplicate x m hm =>
    refine ⟨?_, h.delivered⟩
    intro q hq
    rcases List.mem_cons.mp hq with rfl | hold
    · exact h.wire _ hm
    · exact h.wire q hold
  | receive l r x m j c bs hw hc =>
    have hx := h.wire (x, m) (by simp [hw])
    refine ⟨?_, ?_⟩
    · intro q hq
      exact h.wire q (by rw [hw]; exact List.mem_append.mpr ((List.mem_append.mp hq).imp_right
        (List.mem_cons_of_mem _)))
    · intro d hd
      rcases List.mem_append.mp hd with hnew | hold
      · obtain ⟨b, -, rfl⟩ := List.mem_map.mp hnew
        exact hx
      · exact h.delivered d hold

/-- **What a step does to one party.** Kind: L -/
theorem NetworkStep.party_cases (hst : NetworkStep P s t) (i : ι) :
    t.party i = s.party i ∨ P.own i (s.party i) (t.party i) ∨
      (∃ a ms, P.submit i a (s.party i) (t.party i) ms) ∨
      ∃ m bs, P.receive i m (s.party i) (t.party i) bs := by
  cases hst with
  | own j c hc =>
    by_cases hi : i = j
    · subst hi
      exact .inr (.inl (by simpa using hc))
    · exact .inl (Function.update_of_ne hi _ _)
  | submit j a c ms hc =>
    by_cases hi : i = j
    · subst hi
      exact .inr (.inr (.inl ⟨a, ms, by simpa [NetworkState.setParty] using hc⟩))
    · exact .inl (Function.update_of_ne hi _ _)
  | hop l r x m m' hw hc => exact .inl rfl
  | lose l r x m hw => exact .inl rfl
  | duplicate x m hm hd => exact .inl rfl
  | receive l r x m j c bs hw hc =>
    by_cases hi : i = j
    · subst hi
      exact .inr (.inr (.inr ⟨m, bs, by simpa [NetworkState.setParty] using hc⟩))
    · exact .inl (Function.update_of_ne hi _ _)

end Unseen

end ScionIp.Lib
