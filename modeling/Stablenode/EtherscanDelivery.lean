import Stablenode.EtherscanOwnership

/-! In an undisturbed run every answer that a worker has obtained in time gets to its caller. -/
namespace Stablenode.Etherscan

section Definitions

variable {ι κ δ : Type} (P : ι → Parameters)

@[grind =]
def Phase.disposes : Phase ι δ → Option ι
  | cancelling c _ | closing c _ => some c
  | deleting c _ => c
  | _ => none

structure Service.Live (s : Service ι κ δ) (i : ι) : Prop where
  phase : (s.callers i).phase = .stored ∨ (s.callers i).phase = .waiting
  context : (s.callers i).context = none
  response : (s.callers i).response = none
  closes : (s.callers i).closes = 0
  pending : s.pending (P i).requestId = some i
  parties : ∀ g, (s.parties g).disposes ≠ some i

inductive Service.Ends (s : Service ι κ δ) (i : ι) : Event ι κ δ → Prop where
  | endParent : Ends s i (.endParent i)
  | expire (hdue : (s.callers i).createdAt + 30 ≤ s.now) : Ends s i (.expire i)
  | fail (hphase : (s.callers i).phase = .stored) : Ends s i (.push i false)
  | send (g : κ) (r : Request ι) (a : Answer δ) (hparty : s.parties g = .sending i r a) :
      Ends s i (.send g)
  | check (g : κ) (key : String) (since : ℕ) (hparty : s.parties g = .looking i key since)
      (hstale : (s.callers i).createdAt + 60 < since) : Ends s i (.check g)
  | loadKey (g : κ) (key : String) (hstopped : s.stopped = true) (hpending : s.pending key = some i) :
      Ends s i (.loadKey g key)
  | delete (g : κ) (hparty : s.parties g = .deleting none (P i).requestId) : Ends s i (.delete g)

inductive Service.Delivers (s : Service ι κ δ) (i : ι) (a : Answer δ) : Prop where
  | unsent (g : κ) (r : Request ι) (hlive : s.Live P i) (howner : r.owner = i)
      (hparty : s.parties g = .answered r a ∨ s.parties g = .sending i r a)
  | sent (hphase : (s.callers i).phase = .waiting) (hresponse : (s.callers i).response = some a)
  | taken (hphase : (s.callers i).phase = .returned (.answer a))

structure Service.Serves (s : Service ι κ δ) : Prop where
  single : s.Single P
  closed : ∀ i, s.ClosedOnce P i
  blank : ∀ i, (s.callers i).phase = .idle → (s.callers i).response = none ∧
    (s.callers i).closes = 0 ∧ ((s.callers i).parentDone = false → (s.callers i).context = none)
  queued : ∀ i, ((s.callers i).phase = .stored ∨ ∃ r ∈ s.queue, r.owner = i) →
    ¬ (s.callers i).Expired s.now → s.stopped = false → s.Live P i
  calling : ∀ g r, s.parties g = .calling r → ¬ (s.callers r.owner).Expired s.now →
    s.Live P r.owner
  stopping : ∀ g key, s.parties g = .deleting none key → s.stopped = true ∧
    ∀ g' i, (s.parties g').owner = some i → (P i).requestId = key → s.pending key ≠ some i
  obtained : ∀ i a, (s.callers i).obtained = some a → s.Delivers P i a

variable {P} {s s' : Service ι κ δ} {e : Event ι κ δ}

variable {p : Phase ι δ} {i : ι}

lemma Phase.context_of_disposes (h : p.disposes = some i) : p.context = some i := by
  cases p <;> first | exact h | cases h

lemma Phase.unsent_eq {r : Request ι} {a : Answer δ} (howner : r.owner = i)
    (h : p = .answered r a ∨ p = .sending i r a) : p.unsent = some i := by
  rcases h with rfl | rfl
  all_goals exact congrArg some howner

lemma Phase.owner_of_unsent (h : p.unsent = some i) : p.owner = some i := by
  cases p <;> first | exact h | cases h

lemma Service.Live.frame (h : s.Live P i) (hcaller : s'.callers i = s.callers i)
    (hpending : s'.pending (P i).requestId = s.pending (P i).requestId)
    (hparties : ∀ g, (s'.parties g).disposes = some i → (s.parties g).disposes = some i) :
    s'.Live P i where
  phase := hcaller ▸ h.phase
  context := hcaller ▸ h.context
  response := hcaller ▸ h.response
  closes := hcaller ▸ h.closes
  pending := hpending.trans h.pending
  parties g hg := h.parties g (hparties g hg)

lemma Service.Live.waiting (h : s.Live P i) (hs : s.Single P) {g : κ}
    (howner : (s.parties g).owner = some i) : (s.callers i).phase = .waiting :=
  h.phase.resolve_left fun hstored => (hs.stored i hstored).2 g howner

lemma Service.Live.pending_id (h : s.Live P i) (hs : s.Single P) {g : κ} {r : Request ι}
    {a : Answer δ} (hparty : s.parties g = .answered r a) (howner : r.owner = i) :
    s.pending r.id = some i := by
  have hid := hs.keyed.party g
  rw [hparty] at hid
  rw [hid, howner, h.pending]

namespace Service.Serves

lemma owner_cases (h : s.Serves P) (hu : Undisturbed P e s) {g : κ} {i : ι}
    (howner : (s.parties g).owner = some i) (hlive : s.Live P i) (hends : s.Ends P i e) :
    e = .endParent i ∨ e = .expire i ∧ (s.callers i).createdAt + 30 ≤ s.now ∨
      ∃ r a, e = .send g ∧ s.parties g = .sending i r a := by
  have hwork : (s.parties g).AtWork i := .inl howner
  cases hends with
  | endParent => exact .inl rfl
  | expire hdue => exact .inr (.inl ⟨rfl, hdue⟩)
  | fail hphase => exact absurd howner ((h.single.stored i hphase).2 g)
  | send g' r a hparty =>
    have hg : g' = g := h.single.sole i g' g (.inr (by rw [hparty]; rfl)) hwork
    subst hg
    exact .inr (.inr ⟨r, a, rfl, hparty⟩)
  | check g' key since hparty hstale =>
    rw [Undisturbed, hparty] at hu
    exact absurd hwork ((hu (.inl hstale)).2 g)
  | loadKey g' key hstopped hpending => exact absurd hwork (hu i hpending g)
  | delete g' hparty => exact absurd hlive.pending ((h.stopping g' _ hparty).2 g i howner rfl)

lemma owner_ne_of_queued (h : s.Serves P) {i : ι}
    (hqueued : (s.callers i).phase = .stored ∨ ∃ r ∈ s.queue, r.owner = i) (g : κ) :
    (s.parties g).owner ≠ some i := by
  rcases hqueued with hstored | ⟨r, hr, rfl⟩
  · exact (h.single.stored i hstored).2 g
  · exact h.single.free r hr g

lemma toMatches (h : s.Serves P) : s.Matches where
  closes_le i := by
    rcases h.closed i with hzero | ⟨hone, -⟩
    · omega
    · omega
  answer_eq i a o hobtained hreturned := by
    cases h.obtained i a hobtained with
    | unsent g r hlive =>
      rcases hlive.phase with hphase | hphase
      all_goals
        rw [hphase] at hreturned
        cases hreturned
    | sent hphase =>
      rw [hphase] at hreturned
      cases hreturned
    | taken hphase =>
      rw [hphase] at hreturned
      cases hreturned
      rfl

lemma start : (Etherscan.start : Service ι κ δ).Serves P where
  single :=
    have hnone : ∀ i, ¬ (Etherscan.start : Service ι κ δ).UnderWay P i := by
      rintro i (hactive | ⟨r, hr, -⟩ | ⟨g, howner | hcontext⟩ | hpending)
      · cases hactive
      · cases hr
      · cases howner
      · cases hcontext
      · cases hpending
    { keyed := ⟨nofun, nofun, fun _ => trivial⟩
      idle := fun i _ => hnone i
      stored := nofun
      nodup := List.nodup_nil
      free := nofun
      sole := fun _ g _ hg => absurd (.inr (.inr (.inl ⟨g, hg⟩))) (hnone _)
      distinct := fun i _ hi => absurd hi (hnone i) }
  closed _ := .inl rfl
  blank _ _ := ⟨rfl, rfl, fun _ => rfl⟩
  queued := by
    rintro i (hstored | ⟨r, hr, -⟩)
    · cases hstored
    · cases hr
  calling := nofun
  stopping := nofun
  obtained := nofun

end Service.Serves

end Definitions

open Function (update_apply)

variable {ι κ δ : Type} [DecidableEq ι] [DecidableEq κ] {P : ι → Parameters}
variable {s s' : Service ι κ δ} {e : Event ι κ δ}

lemma Service.Live.moves (hs : s.Single P) (hu : Undisturbed P e s) {i : ι} (h : s.Live P i)
    (hm : Moves P s e s') : s'.Live P i ∨ s.Ends P i e := by
  have hway : s.UnderWay P i := .inr (.inr (.inr h.pending))
  have ⟨hphase, hcontext, hresponse, hcloses, hpending, hparties⟩ := h
  cases hm with
  | expire j hstarted hdue =>
    by_cases hj : j = i
    · subst hj
      exact .inr (.expire hdue)
    · refine .inl (h.frame ?_ ?_ ?_) <;> grind [update_apply]
  | endParent j =>
    by_cases hj : j = i
    · subst hj
      exact .inr .endParent
    · refine .inl (h.frame ?_ ?_ ?_) <;> grind [update_apply]
  | enter j hidle =>
    have hj : j ≠ i := by grind
    have hkey : (P i).requestId ≠ (P j).requestId := fun heq => hu i hj.symm heq hway
    refine .inl (h.frame ?_ ?_ ?_) <;> grind [update_apply]
  | push j hstored | call g r a hparty => exact .inl (by constructor <;> grind [update_apply])
  | fail j hstored =>
    by_cases hj : j = i
    · subst hj
      exact .inr (.fail hstored)
    · refine .inl (h.frame ?_ ?_ ?_) <;> grind [update_apply]
  | drop j o hdropping =>
    have hj : j ≠ i := by grind
    have hactive : s.UnderWay P j := .inl (by rw [hdropping]; rfl)
    have hkey : (P i).requestId ≠ (P j).requestId := fun heq =>
      hj (hs.distinct j i hactive hway heq.symm)
    refine .inl (h.frame ?_ ?_ ?_) <;> grind [update_apply]
  | send g c r a hparty =>
    by_cases hc : c = i
    · subst hc
      exact .inr (.send g r a hparty)
    · refine .inl (h.frame ?_ ?_ ?_) <;> grind [update_apply]
  | take g c key since hparty hstale =>
    by_cases hc : c = i
    · subst hc
      exact .inr (.check g key since hparty (hstale.resolve_right (by simp [hcontext])))
    · refine .inl (h.frame ?_ ?_ ?_) <;> grind [update_apply]
  | loadKey g key c hparty hstopped hkey =>
    by_cases hc : c = i
    · subst hc
      exact .inr (.loadKey g key hstopped hkey)
    · refine .inl (h.frame ?_ ?_ ?_) <;> grind [update_apply]
  | delete g c key hparty =>
    by_cases hkey : (P i).requestId = key
    · subst hkey
      cases c with
      | none => exact .inr (.delete g hparty)
      | some j =>
        have hkeyed := hs.keyed.party g
        rw [hparty] at hkeyed
        have hother : s.UnderWay P j := .inr (.inr (.inl ⟨g, .inr (by rw [hparty]; rfl)⟩))
        have hj := hs.distinct i j hway hother (hkeyed j rfl)
        exact absurd (by rw [hparty, hj]; rfl) (hparties g)
    · refine .inl (h.frame ?_ ?_ ?_) <;> grind [update_apply]
  | _ => refine .inl (h.frame ?_ ?_ ?_) <;> grind [update_apply]

lemma Moves.expired_endParent {i : ι} (hm : Moves P s (.endParent i) s') :
    (s'.callers i).Expired s'.now := by
  cases hm
  exact .inl (by simp)

namespace Service.Serves

variable (h : s.Serves P)
include h

lemma live_of_store {i : ι} (hm : Moves P s (.store i) s')
    (hstored : (s'.callers i).phase = .stored) (hexpired : ¬ (s'.callers i).Expired s'.now) :
    s'.Live P i := by
  cases hm with
  | refuse _ message => simp [Caller.finish] at hstored
  | enter _ hidle =>
    obtain ⟨hresponse, hcloses, hcontext⟩ := h.blank i hidle
    have hnone : ∀ g, (s.parties g).disposes ≠ some i := fun g hg =>
      h.single.idle i hidle (.inr (.inr (.inl ⟨g, .inr (Phase.context_of_disposes hg)⟩)))
    constructor <;> grind [update_apply, Caller.Expired]

lemma live_queued (hu : Undisturbed P e s) (hm : Moves P s e s') {i : ι}
    (hqueued : (s'.callers i).phase = .stored ∨ ∃ r ∈ s'.queue, r.owner = i)
    (hexpired : ¬ (s'.callers i).Expired s'.now) (hrunning : s'.stopped = false) : s'.Live P i := by
  have hrunning' : s.stopped = false := by
    by_contra hstopped
    rw [hm.stopped (by simpa using hstopped)] at hrunning
    cases hrunning
  -- the caller has entered its request before this step, or with it
  have hbefore : ((s.callers i).phase = .stored ∨ ∃ r ∈ s.queue, r.owner = i) ∨
      (s'.callers i).phase = .stored ∧ e = .store i := by
    rcases hqueued with hstored | ⟨r, hr, rfl⟩
    · rcases hm.stored_of hstored with ⟨hold, -⟩ | ⟨-, he⟩
      · exact .inl (.inl hold)
      · exact .inr ⟨hstored, he⟩
    · rcases hm.queue_of hr with hold | ⟨-, hold, -⟩
      · exact .inl (.inr ⟨r, hold, rfl⟩)
      · exact .inl (.inl hold)
  rcases hbefore with hold | ⟨hstored, rfl⟩
  · have hphase : (s.callers i).phase ≠ .idle := by
      intro hidle
      rcases hold with hstored | hr
      · rw [hidle] at hstored
        cases hstored
      · exact h.single.idle i hidle (.inr (.inl hr))
    have hexpired' : ¬ (s.callers i).Expired s.now := fun he => hexpired (hm.expired hphase he)
    have hnone := h.owner_ne_of_queued hold
    rcases (h.queued i hold hexpired' hrunning').moves h.single hu hm with hlive | hends
    · exact hlive
    cases hends with
    | endParent => exact absurd hm.expired_endParent hexpired
    | expire hdue => exact absurd (.inr hdue) hexpired'
    | fail hstored =>
      rcases hqueued with hstored' | ⟨r, hr, rfl⟩
      · cases hm
        simp at hstored'
      · rcases hm.queue_of hr with hr | ⟨hpush, -⟩
        · exact absurd rfl ((h.single.stored _ hstored).1 r hr)
        · cases hpush
    | send g r a hparty =>
      exact absurd (by rw [hparty, ← h.single.owner_eq hparty]; rfl) (hnone g)
    | check g key since hparty hstale =>
      have hkeyed := h.single.keyed.party g
      rw [hparty] at hkeyed
      exact absurd (.inr (by have := hkeyed.2; omega)) hexpired'
    | loadKey g key hstopped => simp [hstopped] at hrunning'
    | delete g hparty => simp [(h.stopping g _ hparty).1] at hrunning'
  · exact h.live_of_store hm hstored hexpired

lemma live_calling (hu : Undisturbed P e s) (hm : Moves P s e s') {g : κ} {r : Request ι}
    (hcalling : s'.parties g = .calling r) (hexpired : ¬ (s'.callers r.owner).Expired s'.now) :
    s'.Live P r.owner := by
  rcases hm.calling_of hcalling with hold | ⟨rfl, hrunning, hr⟩
  · have howner : (s.parties g).owner = some r.owner := by rw [hold]; rfl
    have hphase : (s.callers r.owner).phase ≠ .idle := fun hidle =>
      h.single.idle _ hidle (.inr (.inr (.inl ⟨g, .inl howner⟩)))
    have hexpired' : ¬ (s.callers r.owner).Expired s.now := fun he => hexpired (hm.expired hphase he)
    have hbefore := h.calling g r hold hexpired'
    rcases hbefore.moves h.single hu hm with hlive | hends
    · exact hlive
    rcases h.owner_cases hu howner hbefore hends with rfl | ⟨-, hdue⟩ | ⟨q, a, -, hparty⟩
    · exact absurd hm.expired_endParent hexpired
    · exact absurd (.inr hdue) hexpired'
    · rw [hold] at hparty
      cases hparty
  · have hqueued : ∃ q ∈ s.queue, q.owner = r.owner := ⟨r, hr, rfl⟩
    have hphase : (s.callers r.owner).phase ≠ .idle := fun hidle =>
      h.single.idle _ hidle (.inr (.inl hqueued))
    have hbefore := h.queued r.owner (.inr hqueued) (fun he => hexpired (hm.expired hphase he)) hrunning
    rcases hbefore.moves h.single hu hm with hlive | hends
    · exact hlive
    · cases hends

lemma stopping_moves (hm : Moves P s e s') {g : κ} {key : String}
    (hparty : s'.parties g = .deleting none key) : s'.stopped = true ∧
      ∀ g' i, (s'.parties g').owner = some i → (P i).requestId = key → s'.pending key ≠ some i := by
  have hbefore : s.stopped = true ∧
      ∀ g' i, (s.parties g').owner = some i → (P i).requestId = key → s.pending key ≠ some i := by
    rcases hm.deletingNone_of hparty with hold | ⟨hstopped, hnone⟩
    · exact h.stopping g key hold
    · exact ⟨hstopped, fun g' i _ _ hpending => by simp [hnone] at hpending⟩
  refine ⟨hm.stopped hbefore.1, fun g' i howner hkey hpending => ?_⟩
  have howner' : (s.parties g').owner = some i := by
    rcases hm.owner_of howner with hold | ⟨-, hrunning, -⟩
    · exact hold
    · simp [hbefore.1] at hrunning
  rcases hm.pending_of hpending with hold | ⟨-, hidle, -⟩
  · exact hbefore.2 g' i howner' hkey hold
  · exact h.single.idle i hidle (.inr (.inr (.inl ⟨g', .inl howner'⟩)))

lemma blank_moves (hm : Moves P s e s') {i : ι} (hidle : (s'.callers i).phase = .idle) :
    (s'.callers i).response = none ∧
      (s'.callers i).closes = 0 ∧ ((s'.callers i).parentDone = false → (s'.callers i).context = none) := by
  have hidle' := (hm.idle_of hidle).1
  obtain ⟨hresponse, hcloses, hcontext⟩ := h.blank i hidle'
  have hnone : ∀ g, ¬ (s.parties g).AtWork i := fun g hg =>
    h.single.idle i hidle' (.inr (.inr (.inl ⟨g, hg⟩)))
  rcases hm.idle_caller hidle hnone with heq | heq
  · rw [heq]
    exact ⟨hresponse, hcloses, hcontext⟩
  · rw [heq]
    exact ⟨hresponse, hcloses, nofun⟩

lemma delivers_moves (hu : Undisturbed P e s) (hm : Moves P s e s') {i : ι} {a : Answer δ}
    (hd : s.Delivers P i a) : s'.Delivers P i a := by
  cases hd with
  | unsent g r hlive howner hparty =>
    have hunsent := Phase.unsent_eq howner hparty
    have hown := Phase.owner_of_unsent hunsent
    rcases hlive.moves h.single hu hm with hlive' | hends
    · refine .unsent g r hlive' howner ?_
      rcases hparty with hparty | hparty
      · have hpending := hlive.pending_id h.single hparty howner
        rcases hm.answered hparty with hsame | hnone | ⟨c, hc, hsending⟩
        · exact .inl hsame
        · simp [hpending] at hnone
        · rw [hpending] at hc
          cases hc
          exact .inr hsending
      · exact .inr ((hm.sending hparty).resolve_right (not_not.2 hlive'.response))
    · rcases h.owner_cases hu hown hlive hends with rfl | ⟨rfl, -⟩ | ⟨q, b, rfl, hsending⟩
      · exact absurd hunsent (hu g)
      · exact absurd hunsent (hu g)
      -- the answer is sent into the empty channel of a waiting caller
      have hwaiting := hlive.waiting h.single hown
      have hsame : s.parties g = .sending i r a := by
        rcases hparty with hparty | hparty
        · rw [hparty] at hsending
          cases hsending
        · exact hparty
      obtain ⟨hphase, hresponse⟩ := hm.response_of_send hsame hlive.response
      exact .sent (hphase.trans hwaiting) hresponse
  | sent hphase hresponse =>
    rcases hm.waiting hphase hresponse with ⟨hphase', hresponse'⟩ | htaken | rfl | rfl
    · exact .sent hphase' hresponse'
    · exact .taken htaken
    all_goals cases hu (by simp [hresponse])
  | taken hphase => exact .taken (hm.returned hphase)

lemma moves (hu : Undisturbed P e s) (hm : Moves P s e s') : s'.Serves P where
  single := h.single.moves hu hm
  closed i := (h.closed i).moves h.single hu hm
  blank _ hidle := h.blank_moves hm hidle
  queued _ hqueued hexpired hrunning := h.live_queued hu hm hqueued hexpired hrunning
  calling _ _ hparty hexpired := h.live_calling hu hm hparty hexpired
  stopping _ _ hparty := h.stopping_moves hm hparty
  obtained i a hobtained := by
    rcases hm.obtained_of hobtained with hold | ⟨g, r, rfl, hparty, rfl, hexpired, hanswered⟩
    · exact h.delivers_moves hu hm (h.obtained i a hold)
    · rcases (h.calling g r hparty hexpired).moves h.single hu hm with hlive | hends
      · exact .unsent g r hlive rfl (.inl hanswered)
      · cases hends

lemma step (hu : Undisturbed P e s) : (step P e s).Serves P := by
  rcases step_eq_or_moves P e s with heq | hm
  · rwa [heq]
  · exact h.moves hu hm

end Service.Serves

variable (P) in
def Service.Answers (s : Service ι κ δ) : Prop :=
  ∀ i a, (s.callers i).obtained = some a → ∃ fs,
    (∀ e ∈ fs, e = .select i .response ∨
      ∃ g, (s.parties g).unsent = some i ∧ (e = .load g ∨ e = .send g)) ∧
    ((Run.exec (Etherscan.step P) s fs).callers i).phase = .returned (.answer a)

variable {i : ι} {a : Answer δ} {g : κ} {r : Request ι}

lemma step_select (hphase : (s.callers i).phase = .waiting)
    (hresponse : (s.callers i).response = some a) :
    ((step P (.select i .response) s).callers i).phase = .returned (.answer a) := by
  simp [step, hphase, callerStep, hresponse, Caller.finish]

lemma step_send (hparty : s.parties g = .sending i r a) (hresponse : (s.callers i).response = none)
    :
    ((step P (.send g) s).callers i).phase = (s.callers i).phase ∧
      ((step P (.send g) s).callers i).response = some a := by
  simp [step, hparty, partyStep, hresponse]

lemma step_load (hparty : s.parties g = .answered r a) (hpending : s.pending r.id = some i) :
    step P (.load g) s = s.setParty g (.sending i r a) := by
  simp [step, hparty, partyStep, hpending]

lemma exec_send_select (hparty : s.parties g = .sending i r a)
    (hphase : (s.callers i).phase = .waiting) (hresponse : (s.callers i).response = none) :
    ((Run.exec (step P) s [.send g, .select i .response]).callers i).phase = .returned (.answer a) := by
  obtain ⟨hphase', hresponse'⟩ := step_send hparty hresponse
  exact step_select (hphase'.trans hphase) hresponse'

lemma Service.Serves.answers (h : s.Serves P) : s.Answers P := by
  intro i a hobtained
  cases h.obtained i a hobtained with
  | unsent g r hlive howner hparty =>
    have hunsent := Phase.unsent_eq howner hparty
    have hwaiting := hlive.waiting h.single (Phase.owner_of_unsent hunsent)
    rcases hparty with hparty | hparty
    · refine ⟨[.load g, .send g, .select i .response], by simp [hunsent], ?_⟩
      rw [Run.exec_cons, step_load hparty (hlive.pending_id h.single hparty howner)]
      exact exec_send_select (r := r) (by simp) hwaiting hlive.response
    · exact ⟨[.send g, .select i .response], by simp [hunsent],
        exec_send_select hparty hwaiting hlive.response⟩
  | sent hphase hresponse => exact ⟨[.select i .response], by simp, step_select hphase hresponse⟩
  | taken hphase => exact ⟨[], by simp, hphase⟩

theorem undisturbed_matches (es : List (Event ι κ δ))
    (h : Run.Admitted (step P) (Undisturbed P) start es) :
    Run.Always (step P) (fun s => s.Matches ∧ s.Answers P) start es := by
  have hserves := Run.always_of_admitted (fun e s hs hu => hs.step hu) Service.Serves.start h
  exact hserves.mono fun s hs => ⟨hs.toMatches, hs.answers⟩

section Provenance

variable (P) {F : String → Answer δ → Prop}

def Fetched (es : List (Event ι κ δ)) (id : String) (a : Answer δ) : Prop :=
  ∃ pre g r post, es = pre ++ .call g a :: post ∧
    (Run.exec (step P) start pre).parties g = .calling r ∧ (P r.owner).requestId = id

structure Service.Carries (F : String → Answer δ → Prop) (s : Service ι κ δ) : Prop where
  keyed : s.Keyed P
  answered : ∀ g r a, s.parties g = .answered r a → F r.id a
  sending : ∀ g c r a, s.parties g = .sending c r a → F r.id a
  response : ∀ i a, (s.callers i).response = some a → F (P i).requestId a
  dropping : ∀ i a, (s.callers i).phase ≠ .dropping (.answer a)
  returned : ∀ i a, (s.callers i).phase = .returned (.answer a) → F (P i).requestId a

variable {P}

lemma Service.Carries.moves (h : s.Carries P F) (hm : Moves P s e s')
    (hF : ∀ g r a, e = .call g a → s.parties g = .calling r → F r.id a) : s'.Carries P F := by
  have hkeyed := h.keyed.moves hm
  obtain ⟨hk, hanswered, hsending, hresponse, hdropping, hreturned⟩ := h
  cases hm with
  | send g c r a hparty =>
    have hc := hk.party g
    rw [hparty] at hc
    -- an answer that waits in the channel stays there
    cases hwaiting : (s.callers c).response <;> constructor <;> grind [update_apply, Phase.Keyed]
  | _ => constructor <;> grind [update_apply]

theorem answer_fetched (es : List (Event ι κ δ))
    (h : ((Run.exec (step P) start es).callers i).phase = .returned (.answer a)) :
    Fetched P es (P i).requestId a := by
  have hstart : (start : Service ι κ δ).Carries P (Fetched P es) :=
    ⟨Service.Serves.start.single.keyed, nofun, nofun, nofun, nofun, nofun⟩
  refine (Run.always_of_splits hstart fun pre e post hes hs => ?_).last.returned i a h
  rcases step_eq_or_moves P e (Run.exec (step P) start pre) with heq | hm
  · rwa [heq]
  · refine hs.moves hm fun g r a he hr => ⟨pre, g, r, post, he ▸ hes, hr, ?_⟩
    have hid := hs.keyed.party g
    rw [hr] at hid
    exact hid.symm

end Provenance

namespace Sample

def transactions : Fin 2 → Parameters :=
  fun _ => ⟨1, "0x0123456789012345678901234567890123456789", 10, 0, 0⟩

def served : List (Event (Fin 2) (Fin 2) String) :=
  [.store 0, .push 0 true, .pop 0, .call 0 (.ok "x"), .load 0, .send 0, .select 0 .response, .cancel 0,
    .close 0, .delete 0]

def canceled : List (Event (Fin 2) (Fin 2) String) :=
  [.store 0, .push 0 true, .pop 0, .call 0 (.ok "x"), .load 0, .send 0, .cancel 0,
    .select 0 .contextDone, .drop 0]

def shared : List (Event (Fin 2) (Fin 2) String) :=
  [.store 0, .push 0 true, .store 1, .push 1 true, .pop 0, .pop 1, .call 0 (.ok "x"), .call 1 (.ok "x"),
    .load 0, .load 1, .send 0, .send 1, .cancel 0, .cancel 1, .close 0, .close 1]

def reached (es : List (Event (Fin 2) (Fin 2) String)) : Service (Fin 2) (Fin 2) String :=
  Run.exec (step transactions) start es

end Sample

open Sample in
theorem served_matches :
    Run.Admitted (step transactions) (Undisturbed transactions) start served ∧
      Run.Always (step transactions) (fun s => s.Matches ∧ s.Answers transactions) start served :=
  have hserved : Run.Admitted (step transactions) (Undisturbed transactions) start served := by
    decide +kernel
  ⟨hserved, undisturbed_matches served hserved⟩

open Sample in
theorem served_fetched : Fetched transactions served (transactions 0).requestId (.ok "x") :=
  answer_fetched served (by decide +kernel)

open Sample in
theorem canceled_or_closed_twice :
    ((reached canceled).callers 0).obtained = some (.ok "x") ∧
      ((reached canceled).callers 0).phase = .returned (.contextError .canceled) ∧
      ((reached shared).callers 1).closes = 2 ∧
      ¬ Run.Always (step transactions) Service.Matches start canceled ∧
      ¬ Run.Always (step transactions) Service.Matches start shared := by
  have hobtained : ((reached canceled).callers 0).obtained = some (.ok "x") := by decide +kernel
  have hphase : ((reached canceled).callers 0).phase = .returned (.contextError .canceled) := by
    decide +kernel
  have hcloses : ((reached shared).callers 1).closes = 2 := by decide +kernel
  refine ⟨hobtained, hphase, hcloses, fun h => ?_, fun h => ?_⟩
  · cases h.last.answer_eq 0 _ _ hobtained hphase
  · have hle := h.last.closes_le 1
    rw [← reached, hcloses] at hle
    omega

end Stablenode.Etherscan
