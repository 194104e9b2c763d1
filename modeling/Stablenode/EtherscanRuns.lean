import Stablenode.EtherscanQueue

/-! The runs of the Etherscan queue. What a step can do is said once, in `Moves`. -/
namespace Stablenode.Etherscan

open Function (update)

variable {ι κ δ : Type} [DecidableEq ι] [DecidableEq κ] (P : ι → Parameters)

inductive Moves (s : Service ι κ δ) : Event ι κ δ → Service ι κ δ → Prop where
  | tick (n : ℕ) : Moves s (.tick n) { s with now := s.now + n }
  | stop : Moves s .stop { s with stopped := true }
  | expire (i : ι) (hstarted : (s.callers i).phase ≠ .idle)
      (hdue : (s.callers i).createdAt + 30 ≤ s.now) :
      Moves s (.expire i) (s.updateCaller i (·.cancel .deadlineExceeded))
  | endParent (i : ι) :
      Moves s (.endParent i)
        (s.updateCaller i fun c => { c.cancel .canceled with parentDone := true })
  | removeStale (r : Request ι) : Moves s (.removeStale r) { s with queue := s.queue.erase r }
  | refuse (i : ι) (message : String) (hphase : (s.callers i).phase = .idle) :
      Moves s (.store i) (s.updateCaller i (·.finish (.invalid message)))
  | enter (i : ι) (hphase : (s.callers i).phase = .idle) :
      Moves s (.store i)
        ((s.updateCaller i fun c => { c with phase := .stored, createdAt := s.now }).setPending
          (P i).requestId (some i))
  | push (i : ι) (hphase : (s.callers i).phase = .stored) :
      Moves s (.push i true)
        { s.updateCaller i (fun c => { c with phase := .waiting }) with
          queue := s.queue ++ [⟨(P i).requestId, s.now, i⟩] }
  | fail (i : ι) (hphase : (s.callers i).phase = .stored) :
      Moves s (.push i false) (s.updateCaller i fun c => { c with phase := .dropping .failedToQueue })
  | receive (i : ι) (a : Answer δ) (hphase : (s.callers i).phase = .waiting)
      (hresponse : (s.callers i).response = some a) :
      Moves s (.select i .response)
        (s.updateCaller i fun c => { c.finish (.answer a) with response := none })
  | leave (i : ι) (e : ContextError) (hphase : (s.callers i).phase = .waiting)
      (hcontext : (s.callers i).context = some e) :
      Moves s (.select i .contextDone)
        (s.updateCaller i fun c => { c with phase := .dropping (.contextError e) })
  | notice (i : ι) (hphase : (s.callers i).phase = .waiting) (hclosed : 0 < (s.callers i).closes) :
      Moves s (.select i .done) (s.updateCaller i (·.finish .cleanedUp))
  | drop (i : ι) (o : Outcome δ) (hphase : (s.callers i).phase = .dropping o) :
      Moves s (.drop i) ((s.updateCaller i (·.finish o)).setPending (P i).requestId none)
  | skip (g : κ) (r : Request ι) (queue : List (Request ι)) (hqueue : s.queue = r :: queue) :
      Moves s (.pop g) { s with queue }
  | pop (g : κ) (r : Request ι) (queue : List (Request ι)) (hparty : s.parties g = .idle)
      (hqueue : s.queue = r :: queue) (hrunning : s.stopped = false) :
      Moves s (.pop g) { s.setParty g (.calling r) with queue }
  | call (g : κ) (r : Request ι) (a : Answer δ) (hparty : s.parties g = .calling r) :
      Moves s (.call g a)
        ((s.setParty g (.answered r a)).updateCaller r.owner fun c =>
          if c.Expired s.now then c else { c with obtained := some a })
  | load (g : κ) (r : Request ι) (a : Answer δ) (c : ι) (hparty : s.parties g = .answered r a)
      (hpending : s.pending r.id = some c) : Moves s (.load g) (s.setParty g (.sending c r a))
  | miss (g : κ) (r : Request ι) (a : Answer δ) (hparty : s.parties g = .answered r a)
      (hpending : s.pending r.id = none) : Moves s (.load g) (s.setParty g .idle)
  | send (g : κ) (c : ι) (r : Request ι) (a : Answer δ) (hparty : s.parties g = .sending c r a) :
      Moves s (.send g)
        ((s.setParty g (.cancelling c r.id)).updateCaller c fun x =>
          { x with response := some (x.response.getD a) })
  | visit (g : κ) (key : String) (since : ℕ) (c : ι) (hparty : s.parties g = .idle)
      (hpending : s.pending key = some c) (hsince : since ≤ s.now) :
      Moves s (.visit g key since) (s.setParty g (.looking c key since))
  | take (g : κ) (c : ι) (key : String) (since : ℕ) (hparty : s.parties g = .looking c key since)
      (hstale : (s.callers c).Stale since) :
      Moves s (.check g) (s.setParty g (.cancelling c key))
  | release (g : κ) (c : ι) (key : String) (since : ℕ) (hparty : s.parties g = .looking c key since) :
      Moves s (.check g) (s.setParty g .idle)
  | loadKey (g : κ) (key : String) (c : ι) (hparty : s.parties g = .idle) (hstopped : s.stopped = true)
      (hpending : s.pending key = some c) :
      Moves s (.loadKey g key) (s.setParty g (.cancelling c key))
  | missKey (g : κ) (key : String) (hparty : s.parties g = .idle) (hstopped : s.stopped = true)
      (hpending : s.pending key = none) :
      Moves s (.loadKey g key) (s.setParty g (.deleting none key))
  | cancel (g : κ) (c : ι) (key : String) (hparty : s.parties g = .cancelling c key) :
      Moves s (.cancel g) ((s.setParty g (.closing c key)).updateCaller c (·.cancel .canceled))
  | close (g : κ) (c : ι) (key : String) (hparty : s.parties g = .closing c key) :
      Moves s (.close g)
        ((s.setParty g (.deleting (some c) key)).updateCaller c fun x =>
          { x with closes := x.closes + 1 })
  | delete (g : κ) (c : Option ι) (key : String) (hparty : s.parties g = .deleting c key) :
      Moves s (.delete g) ((s.setParty g .idle).setPending key none)

lemma callerStep_eq_or_moves (s : Service ι κ δ) (i : ι) {e : Event ι κ δ}
    (he : e = .store i ∨ (∃ ok, e = .push i ok) ∨ (∃ case, e = .select i case) ∨ e = .drop i) :
    callerStep P s i (s.callers i).phase e = s ∨
      Moves P s e (callerStep P s i (s.callers i).phase e) := by
  rcases hphase : (s.callers i).phase with _ | _ | _ | o | o <;>
    rcases he with rfl | ⟨ok, rfl⟩ | ⟨case, rfl⟩ | rfl
  all_goals try exact .inl rfl
  · rw [callerStep]
    split
    · exact .inr (.refuse i _ hphase)
    · exact .inr (.enter i hphase)
  · cases ok with
    | true => exact .inr (.push i hphase)
    | false => exact .inr (.fail i hphase)
  · cases case with
    | response =>
      rw [callerStep]
      split
      next a ha => exact .inr (.receive i a hphase ha)
      · exact .inl rfl
    | contextDone =>
      rw [callerStep]
      split
      next e he => exact .inr (.leave i e hphase he)
      · exact .inl rfl
    | done =>
      rw [callerStep]
      split
      next h => exact .inr (.notice i hphase h)
      · exact .inl rfl
  · exact .inr (.drop i o hphase)

lemma step_eq_or_moves (e : Event ι κ δ) (s : Service ι κ δ) :
    step P e s = s ∨ Moves P s e (step P e s) := by
  cases e with
  | tick n => exact .inr (.tick n)
  | stop => exact .inr .stop
  | expire i =>
    rw [step]
    split
    · exact .inl rfl
    next hphase =>
      split
      next hdue => exact .inr (.expire i hphase hdue)
      · exact .inl rfl
  | endParent i => exact .inr (.endParent i)
  | removeStale r =>
    rw [step]
    split
    · exact .inr (.removeStale r)
    · exact .inl rfl
  | store i => exact callerStep_eq_or_moves P s i (.inl rfl)
  | push i ok => exact callerStep_eq_or_moves P s i (.inr (.inl ⟨ok, rfl⟩))
  | select i case => exact callerStep_eq_or_moves P s i (.inr (.inr (.inl ⟨case, rfl⟩)))
  | drop i => exact callerStep_eq_or_moves P s i (.inr (.inr (.inr rfl)))
  | pop g =>
    rw [step]
    cases hparty : s.parties g with
    | idle =>
      rw [partyStep]
      split
      · exact .inl rfl
      next r queue hqueue =>
        split_ifs with hrunning
        · exact .inl rfl
        · exact .inr (.skip g r queue hqueue)
        · exact .inr (.pop g r queue hparty hqueue (by simpa using hrunning))
    | _ => exact .inl rfl
  | load g =>
    rw [step]
    cases hparty : s.parties g with
    | answered r a =>
      rw [partyStep]
      split
      next c hpending => exact .inr (.load g r a c hparty hpending)
      next hpending => exact .inr (.miss g r a hparty hpending)
    | _ => exact .inl rfl
  | visit g key since =>
    rw [step]
    cases hparty : s.parties g with
    | idle =>
      rw [partyStep]
      split
      next c hpending =>
        split_ifs with hsince
        · exact .inr (.visit g key since c hparty hpending hsince)
        · exact .inl rfl
      · exact .inl rfl
    | _ => exact .inl rfl
  | check g =>
    rw [step]
    cases hparty : s.parties g with
    | looking c key since =>
      rw [partyStep]
      split_ifs with hstale
      · exact .inr (.take g c key since hparty hstale)
      · exact .inr (.release g c key since hparty)
    | _ => exact .inl rfl
  | loadKey g key =>
    rw [step]
    cases hparty : s.parties g with
    | idle =>
      rw [partyStep]
      split_ifs with hstopped
      · split
        next c hpending => exact .inr (.loadKey g key c hparty hstopped hpending)
        next hpending => exact .inr (.missKey g key hparty hstopped hpending)
      · exact .inl rfl
    | _ => exact .inl rfl
  | call g a | send g | cancel g | close g | delete g =>
    rw [step]
    -- each of these events waits for a phase of its own
    cases hparty : s.parties g <;> first | exact .inl rfl | exact .inr (by constructor; exact hparty)

open Function (update_apply)

variable {P} {s s' : Service ι κ δ} {e : Event ι κ δ}

namespace Moves

lemma response_of_send {g : κ} (hm : Moves P s (.send g) s') {c : ι} {r : Request ι} {a : Answer δ}
    (hparty : s.parties g = .sending c r a) (hempty : (s.callers c).response = none) :
    (s'.callers c).phase = (s.callers c).phase ∧ (s'.callers c).response = some a := by
  cases hm with
  | send _ c' r' a' hparty' =>
    cases hparty.symm.trans hparty'
    simp [hempty]

variable {g : κ} {i c : ι} {r : Request ι} {a : Answer δ} {key : String} (hm : Moves P s e s')
include hm

lemma pending_of (h : s'.pending key = some c) :
    s.pending key = some c ∨
      e = .store c ∧ (s.callers c).phase = .idle ∧ key = (P c).requestId := by
  cases hm <;> grind [update_apply]

lemma queue_of (h : r ∈ s'.queue) :
    r ∈ s.queue ∨ e = .push r.owner true ∧ (s.callers r.owner).phase = .stored ∧
      r.id = (P r.owner).requestId := by
  cases hm <;> grind [update_apply, List.mem_of_mem_erase]

lemma owner_of (h : (s'.parties g).owner = some i) :
    (s.parties g).owner = some i ∨ e = .pop g ∧ s.stopped = false ∧
      ∃ r, s.queue = r :: s'.queue ∧ r.owner = i ∧ s'.parties g = .calling r := by
  cases hm <;> grind [update_apply]

lemma context_of (h : (s'.parties g).context = some i) :
    (s.parties g).context = some i ∨
      (∃ r a, s.parties g = .answered r a ∧ s.pending r.id = some i) ∨
      (∃ key since, e = .check g ∧ s.parties g = .looking i key since ∧ (s.callers i).Stale since) ∨
      ∃ key, e = .loadKey g key ∧ s.pending key = some i := by
  cases hm with
  | load g' r a c hparty hpending =>
    by_cases hg : g = g'
    · subst hg
      exact .inr (.inl ⟨r, a, hparty, by grind⟩)
    · exact .inl (by grind [update_apply])
  | take g' c key since hparty hstale =>
    by_cases hg : g = g'
    · subst hg
      have hc : c = i := by grind
      subst hc
      exact .inr (.inr (.inl ⟨key, since, rfl, hparty, hstale⟩))
    · exact .inl (by grind [update_apply])
  | loadKey g' key c hparty hstopped hpending =>
    by_cases hg : g = g'
    · subst hg
      exact .inr (.inr (.inr ⟨key, rfl, by grind⟩))
    · exact .inl (by grind [update_apply])
  | _ => exact .inl (by grind [update_apply])

lemma context_pending (hu : Undisturbed P e s) (h : (s'.parties g).context = some i) :
    (s.parties g).context = some i ∨ ∃ key, s.pending key = some i := by
  rcases hm.context_of h with hold | ⟨r, a, -, hpending⟩ | ⟨key, since, rfl, hparty, hstale⟩ | ⟨key, -, hpending⟩
  · exact .inl hold
  · exact .inr ⟨_, hpending⟩
  · rw [Undisturbed, hparty] at hu
    exact .inr ⟨key, (hu hstale).1⟩
  · exact .inr ⟨_, hpending⟩

lemma idle_of (h : (s'.callers i).phase = .idle) : (s.callers i).phase = .idle ∧ e ≠ .store i := by
  cases hm <;> grind [update_apply]

lemma parties_eq {g' : κ} (h : s'.parties g ≠ s.parties g) (hne : g' ≠ g) :
    s'.parties g' = s.parties g' := by
  cases hm <;> grind [update_apply]

lemma active_of (h : (s'.callers i).phase.active = true) :
    (s.callers i).phase.active = true ∨ e = .store i := by
  cases hm <;> grind [update_apply]

lemma stored_of (h : (s'.callers i).phase = .stored) :
    ((s.callers i).phase = .stored ∧ e ≠ .push i true) ∨
      (s.callers i).phase = .idle ∧ e = .store i := by
  cases hm <;> grind [update_apply]

lemma closes_of (i : ι) :
    (s'.callers i).closes = (s.callers i).closes ∨
      (s'.callers i).closes = (s.callers i).closes + 1 ∧ ∃ g key,
        s.parties g = .closing i key ∧ s'.parties g = .deleting (some i) key := by
  cases hm with
  | close g c key hparty =>
    by_cases hi : i = c
    · subst hi
      exact .inr ⟨by grind, g, key, hparty, by grind⟩
    · exact .inl (by grind [update_apply])
  | _ => exact .inl (by grind [update_apply])

lemma deleting_of {c : Option ι} (h : s.parties g = .deleting c key) :
    s'.parties g = .deleting c key ∨ s'.pending key = none ∧ s'.parties g = .idle := by
  cases hm <;> grind [update_apply]

lemma expired (hphase : (s.callers i).phase ≠ .idle)
    (h : (s.callers i).Expired s.now) : (s'.callers i).Expired s'.now := by
  cases hm <;> grind [update_apply, Caller.Expired]

lemma stopped (h : s.stopped = true) : s'.stopped = true := by
  cases hm <;> grind

lemma obtained_of (h : (s'.callers i).obtained = some a) :
    (s.callers i).obtained = some a ∨ ∃ g r, e = .call g a ∧ s.parties g = .calling r ∧ r.owner = i ∧
      ¬ (s.callers i).Expired s.now ∧ s'.parties g = .answered r a := by
  cases hm with
  | call g r b hparty =>
    by_cases hi : i = r.owner
    · subst hi
      by_cases hexpired : (s.callers r.owner).Expired s.now
      · exact .inl (by grind [update_apply])
      · have hab : b = a := by grind [update_apply]
        subst hab
        exact .inr ⟨g, r, rfl, hparty, rfl, hexpired, by grind⟩
    · exact .inl (by grind [update_apply])
  | _ => exact .inl (by grind [update_apply])

lemma calling_of (h : s'.parties g = .calling r) :
    s.parties g = .calling r ∨ e = .pop g ∧ s.stopped = false ∧ r ∈ s.queue := by
  cases hm <;> grind [update_apply]

lemma answered (h : s.parties g = .answered r a) :
    s'.parties g = .answered r a ∨ s.pending r.id = none ∨
      ∃ c, s.pending r.id = some c ∧ s'.parties g = .sending c r a := by
  cases hm <;> grind [update_apply]

lemma sending (h : s.parties g = .sending c r a) :
    s'.parties g = .sending c r a ∨ (s'.callers c).response ≠ none := by
  cases hm <;> grind [update_apply]

lemma deletingNone_of (h : s'.parties g = .deleting none key) :
    s.parties g = .deleting none key ∨ s.stopped = true ∧ s.pending key = none := by
  cases hm <;> grind [update_apply]

lemma idle_caller (hidle : (s'.callers i).phase = .idle) (hnone : ∀ g, ¬ (s.parties g).AtWork i) :
    s'.callers i = s.callers i ∨
      s'.callers i = { (s.callers i).cancel .canceled with parentDone := true } := by
  cases hm <;> grind [update_apply]

lemma waiting
    (hphase : (s.callers i).phase = .waiting) (hresponse : (s.callers i).response = some a) :
    (s'.callers i).phase = .waiting ∧ (s'.callers i).response = some a ∨
      (s'.callers i).phase = .returned (.answer a) ∨
      e = .select i .contextDone ∨ e = .select i .done := by
  cases hm <;> grind [update_apply]

lemma returned {o : Outcome δ}
    (h : (s.callers i).phase = .returned o) : (s'.callers i).phase = .returned o := by
  cases hm <;> grind [update_apply]

end Moves

end Stablenode.Etherscan
