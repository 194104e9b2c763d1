import Stablenode.EtherscanRuns

/-! Who has a request and its context: in an undisturbed run one party at a time. -/
namespace Stablenode.Etherscan

section Definitions

variable {ι κ δ : Type} (P : ι → Parameters)

def Phase.Keyed (now : ℕ) : Phase ι δ → Prop
  | idle => True
  | calling r | answered r _ => r.id = (P r.owner).requestId
  | sending c r _ => r.id = (P r.owner).requestId ∧ r.id = (P c).requestId
  | looking c key since => key = (P c).requestId ∧ since ≤ now
  | cancelling c key | closing c key => key = (P c).requestId
  | deleting c key => ∀ i ∈ c, key = (P i).requestId

structure Service.Keyed (s : Service ι κ δ) : Prop where
  pending : ∀ key c, s.pending key = some c → key = (P c).requestId
  queue : ∀ r ∈ s.queue, r.id = (P r.owner).requestId
  party : ∀ g, (s.parties g).Keyed P s.now

structure Service.Single (s : Service ι κ δ) : Prop where
  keyed : s.Keyed P
  idle : ∀ i, (s.callers i).phase = .idle → ¬ s.UnderWay P i
  stored : ∀ i, (s.callers i).phase = .stored →
    (∀ r ∈ s.queue, r.owner ≠ i) ∧ ∀ g, (s.parties g).owner ≠ some i
  nodup : (s.queue.map Request.owner).Nodup
  free : ∀ r ∈ s.queue, ∀ g, (s.parties g).owner ≠ some r.owner
  sole : ∀ i g g', (s.parties g).AtWork i → (s.parties g').AtWork i → g = g'
  distinct : ∀ i j, s.UnderWay P i → s.UnderWay P j → (P i).requestId = (P j).requestId → i = j

def Service.Gone (s : Service ι κ δ) (i : ι) : Prop :=
  (s.callers i).phase ≠ .idle ∧ s.pending (P i).requestId ≠ some i ∧
    ∀ g, (s.parties g).context ≠ some i

def Service.ClosedOnce (s : Service ι κ δ) (i : ι) : Prop :=
  (s.callers i).closes = 0 ∨ (s.callers i).closes = 1 ∧
    ((∃ g key, s.parties g = .deleting (some i) key) ∨ s.Gone P i)

variable {P}

lemma Phase.Keyed.mono {p : Phase ι δ} {m n : ℕ} (h : p.Keyed P m) (hmn : m ≤ n) : p.Keyed P n := by
  cases p with
  | looking c key since => exact ⟨h.1, h.2.trans hmn⟩
  | _ => exact h

lemma Service.Single.owner_eq {s : Service ι κ δ} (h : s.Single P) {g : κ} {c : ι} {r : Request ι}
    {a : Answer δ} (hparty : s.parties g = .sending c r a) : r.owner = c := by
  have hkeyed := h.keyed.party g
  rw [hparty] at hkeyed
  exact h.distinct _ _ (.inr (.inr (.inl ⟨g, .inl (by rw [hparty]; rfl)⟩)))
    (.inr (.inr (.inl ⟨g, .inr (by rw [hparty]; rfl)⟩))) (hkeyed.1.symm.trans hkeyed.2)

end Definitions

open Function (update_apply)

variable {ι κ δ : Type} [DecidableEq ι] [DecidableEq κ] {P : ι → Parameters}
variable {s s' : Service ι κ δ} {e : Event ι κ δ}

lemma Service.Keyed.moves (h : s.Keyed P) (hm : Moves P s e s') : s'.Keyed P where
  pending key c hpending := by
    rcases hm.pending_of hpending with hpending | ⟨-, -, hkey⟩
    · exact h.pending key c hpending
    · exact hkey
  queue r hr := by
    rcases hm.queue_of hr with hr | ⟨-, -, hid⟩
    · exact h.queue r hr
    · exact hid
  party g := by
    have hg := h.party g
    cases hm with
    | tick n => exact hg.mono (Nat.le_add_right _ _)
    | pop g' r queue hparty hqueue =>
      have hr := h.queue r (hqueue ▸ List.mem_cons_self)
      grind [update_apply, Phase.Keyed]
    | load g' r a c hparty hpending | visit g' key since c hparty hpending hsince
    | loadKey g' key c hparty hstopped hpending =>
      have hc := h.pending _ _ hpending
      grind [update_apply, Phase.Keyed]
    | _ => grind [update_apply, Phase.Keyed]

lemma Moves.underWay_of (hm : Moves P s e s') (hu : Undisturbed P e s) (hs : s.Keyed P) {i : ι}
    (h : s'.UnderWay P i) : s.UnderWay P i ∨ e = .store i := by
  rcases h with hactive | ⟨r, hr, rfl⟩ | ⟨g, howner | hcontext⟩ | hpending
  · exact (hm.active_of hactive).imp_left .inl
  · rcases hm.queue_of hr with hr | ⟨-, hstored, -⟩
    · exact .inl (.inr (.inl ⟨r, hr, rfl⟩))
    · exact .inl (.inl (by rw [hstored]; rfl))
  · rcases hm.owner_of howner with howner | ⟨-, -, r, hqueue, hr, -⟩
    · exact .inl (.inr (.inr (.inl ⟨g, .inl howner⟩)))
    · exact .inl (.inr (.inl ⟨r, hqueue ▸ List.mem_cons_self, hr⟩))
  · rcases hm.context_pending hu hcontext with hcontext | ⟨key, hpending⟩
    · exact .inl (.inr (.inr (.inl ⟨g, .inr hcontext⟩)))
    · exact .inl (.inr (.inr (.inr (hs.pending _ _ hpending ▸ hpending))))
  · rcases hm.pending_of hpending with hpending | ⟨hstore, -⟩
    · exact .inl (.inr (.inr (.inr hpending)))
    · exact .inr hstore

lemma Service.Single.atWork_of (h : s.Single P) (hu : Undisturbed P e s) (hm : Moves P s e s')
    {g : κ} {i : ι} (hwork : (s'.parties g).AtWork i) :
    (s.parties g).AtWork i ∨ ∀ g', ¬ (s.parties g').AtWork i := by
  rcases hwork with howner | hcontext
  · rcases hm.owner_of howner with howner | ⟨rfl, -, r, hqueue, rfl, -⟩
    · exact .inl (.inl howner)
    · exact .inr (hu r (by simp [hqueue]))
  rcases hm.context_of hcontext with hcontext | ⟨r, a, hparty, hpending⟩ |
    ⟨key, since, rfl, hparty, hstale⟩ | ⟨key, rfl, hpending⟩
  · exact .inl (.inr hcontext)
  · have howner : (s.parties g).owner = some r.owner := by rw [hparty]; rfl
    have hid := h.keyed.party g
    rw [hparty] at hid
    have hkey := h.keyed.pending _ _ hpending
    have hsame : r.owner = i := h.distinct _ _ (.inr (.inr (.inl ⟨g, .inl howner⟩)))
      (.inr (.inr (.inr (hkey ▸ hpending)))) (hid.symm.trans hkey)
    exact .inl (.inl (hsame ▸ howner))
  · rw [Undisturbed, hparty] at hu
    exact .inr (hu hstale).2
  · exact .inr (hu i hpending)

lemma Service.Single.moves (h : s.Single P) (hu : Undisturbed P e s) (hm : Moves P s e s') :
    s'.Single P where
  keyed := h.keyed.moves hm
  idle i hidle hway := by
    obtain ⟨hidle, hne⟩ := hm.idle_of hidle
    exact (hm.underWay_of hu h.keyed hway).elim (h.idle i hidle) hne
  stored i hstored := by
    -- in both cases nobody has had the request
    have hnone : (∀ r ∈ s.queue, r.owner ≠ i) ∧ ∀ g, (s.parties g).owner ≠ some i := by
      rcases hm.stored_of hstored with ⟨hstored, -⟩ | ⟨hidle, -⟩
      · exact h.stored i hstored
      · exact ⟨fun r hr hi => h.idle i hidle (.inr (.inl ⟨r, hr, hi⟩)),
          fun g hg => h.idle i hidle (.inr (.inr (.inl ⟨g, .inl hg⟩)))⟩
    constructor
    · rintro r hr rfl
      rcases hm.queue_of hr with hr | ⟨hpush, hphase, -⟩
      · exact hnone.1 r hr rfl
      rcases hm.stored_of hstored with ⟨-, hne⟩ | ⟨hidle, -⟩
      · exact hne hpush
      · rw [hphase] at hidle
        cases hidle
    · intro g hg
      rcases hm.owner_of hg with hg | ⟨-, -, r, hqueue, hr, -⟩
      · exact hnone.2 g hg
      · exact hnone.1 r (hqueue ▸ List.mem_cons_self) hr
  nodup := by
    have hnodup := h.nodup
    cases hm with
    | removeStale r => exact hnodup.sublist (List.erase_sublist.map _)
    | push i hphase =>
      simp only [List.map_append, List.map_cons, List.map_nil]
      refine List.nodup_append.2 ⟨hnodup, List.nodup_singleton _, ?_⟩
      have hnone := (h.stored i hphase).1
      grind
    | skip g r queue hqueue | pop g r queue hparty hqueue =>
      exact (List.nodup_cons.1 (hqueue ▸ hnodup)).2
    | _ => exact hnodup
  free r hr g hg := by
    rcases hm.queue_of hr with hr' | ⟨rfl, hphase, -⟩
    · rcases hm.owner_of hg with hg | ⟨-, -, q, hqueue, hq, -⟩
      · exact h.free r hr' g hg
      · have hnodup := h.nodup
        rw [hqueue, List.map_cons, List.nodup_cons, hq] at hnodup
        exact hnodup.1 (List.mem_map_of_mem hr)
    · rcases hm.owner_of hg with hg | ⟨hpop, -⟩
      · exact (h.stored _ hphase).2 g hg
      · cases hpop
  sole i := by
    -- a party that has come to the request is the only one
    have hnew : ∀ g g', (s'.parties g).AtWork i → (∀ g', ¬ (s.parties g').AtWork i) →
        (s'.parties g').AtWork i → g' = g := by
      intro g g' hg hnone hg'
      by_contra hne
      have hmoved : s'.parties g ≠ s.parties g := fun heq => hnone g (heq ▸ hg)
      exact hnone g' (hm.parties_eq hmoved hne ▸ hg')
    intro g g' hg hg'
    rcases h.atWork_of hu hm hg with hold | hnone
    · rcases h.atWork_of hu hm hg' with hold' | hnone
      · exact h.sole i g g' hold hold'
      · exact hnew g' g hg' hnone hg
    · exact (hnew g g' hg hnone hg').symm
  distinct i j hi hj hkey := by
    rcases hm.underWay_of hu h.keyed hi with hi | rfl <;>
      rcases hm.underWay_of hu h.keyed hj with hj | hj
    · exact h.distinct i j hi hj hkey
    · subst hj
      by_contra hne
      exact hu i hne hkey hi
    · by_contra hne
      exact hu j (Ne.symm hne) hkey.symm hj
    · cases hj
      rfl

lemma Service.Gone.moves (hk : s.Keyed P) (hu : Undisturbed P e s) {i : ι} (h : s.Gone P i)
    (hm : Moves P s e s') : s'.Gone P i := by
  obtain ⟨hphase, hpending, hcontext⟩ := h
  refine ⟨fun hidle => hphase (hm.idle_of hidle).1, fun hnew => ?_, fun g hnew => ?_⟩
  · rcases hm.pending_of hnew with hold | ⟨-, hidle, -⟩
    · exact hpending hold
    · exact hphase hidle
  · rcases hm.context_pending hu hnew with hold | ⟨key, hold⟩
    · exact hcontext g hold
    · exact hpending (hk.pending _ _ hold ▸ hold)

lemma Service.Single.gone_of_deleting (h : s.Single P) (hu : Undisturbed P e s)
    (hm : Moves P s e s') {g : κ} {i : ι} {key : String}
    (hparty : s.parties g = .deleting (some i) key) (hpending : s'.pending key = none)
    (hidle : s'.parties g = .idle) : s'.Gone P i := by
  have hkey : key = (P i).requestId := by
    have hkeyed := h.keyed.party g
    rw [hparty] at hkeyed
    exact hkeyed i rfl
  have hwork : (s.parties g).AtWork i := .inr (by rw [hparty]; rfl)
  refine ⟨fun hphase => ?_, by simp [← hkey, hpending], fun g' hcontext => ?_⟩
  · exact h.idle i (hm.idle_of hphase).1 (.inr (.inr (.inl ⟨g, hwork⟩)))
  rcases h.atWork_of hu hm (.inr hcontext) with hold | hnone
  · rw [h.sole i g' g hold hwork, hidle] at hcontext
    cases hcontext
  · exact hnone g hwork

lemma Service.ClosedOnce.moves (hs : s.Single P) (hu : Undisturbed P e s) {i : ι}
    (h : s.ClosedOnce P i) (hm : Moves P s e s') : s'.ClosedOnce P i := by
  rcases h with hzero | ⟨hone, hafter⟩ <;>
    rcases hm.closes_of i with heq | ⟨hsucc, g, key, hclosing, hdeleting⟩
  · exact .inl (heq.trans hzero)
  · exact .inr ⟨by omega, .inl ⟨g, key, hdeleting⟩⟩
  · refine .inr ⟨heq.trans hone, ?_⟩
    rcases hafter with ⟨g, key, hparty⟩ | hgone
    · rcases hm.deleting_of hparty with hparty' | ⟨hpending, hidle⟩
      · exact .inl ⟨g, key, hparty'⟩
      · exact .inr (hs.gone_of_deleting hu hm hparty hpending hidle)
    · exact .inr (hgone.moves hs.keyed hu hm)
  · -- whoever is to close the channel a second time has the context
    have hcontext : (s.parties g).context = some i := by rw [hclosing]; rfl
    rcases hafter with ⟨g', key', hparty⟩ | ⟨-, -, hnone⟩
    · have hsame := hs.sole i g g' (.inr hcontext) (.inr (by rw [hparty]; rfl))
      rw [hsame, hparty] at hclosing
      cases hclosing
    · exact absurd hcontext (hnone g)

end Stablenode.Etherscan
