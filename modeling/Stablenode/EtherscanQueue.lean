import Stablenode.Run

/-! The queued requests to Etherscan (services/etherscan.go): callers, workers, cleanup runs and
stopping calls. Each operation on a channel, the pending map, the queue or a context is a step.
Times are seconds. -/
namespace Stablenode.Etherscan

structure Parameters where
  chainId : ℤ
  walletAddress : String
  limit : ℤ
  fromBlock : ℤ
  toBlock : ℤ
  deriving DecidableEq

def Parameters.requestId (p : Parameters) : String :=
  toString p.chainId ++ "_" ++ p.walletAddress ++ "_" ++ toString p.limit ++ "_" ++
    toString p.fromBlock ++ "_" ++ toString p.toBlock

def validateWalletAddress (address : String) : Option String :=
  if address = "" then some "wallet address cannot be empty"
  else if !"0x".toList.isPrefixOf address.toList then some "wallet address must start with 0x"
  else if address.utf8ByteSize ≠ 42 then some "wallet address must be 42 characters long"
  else none

def validateChainId (chainId : ℤ) : Option String :=
  if chainId ≤ 0 then some "chain ID must be positive" else none

def Parameters.invalid (p : Parameters) : Option String :=
  match validateWalletAddress p.walletAddress, validateChainId p.chainId with
  | some message, _ => some ("invalid wallet address: " ++ message)
  | none, some message => some ("invalid chain ID: " ++ message)
  | none, none =>
    if p.limit ≤ 0 ∨ 1000 < p.limit then some "limit must be between 1 and 1000" else none

inductive ContextError where
  | canceled
  | deadlineExceeded
  deriving DecidableEq

abbrev Answer (δ : Type) := Except String δ

inductive Outcome (δ : Type) where
  | invalid (message : String)
  | failedToQueue
  | answer (a : Answer δ)
  | contextError (e : ContextError)
  | cleanedUp
  deriving DecidableEq

inductive CallerPhase (δ : Type) where
  | idle
  | stored
  | waiting
  | dropping (o : Outcome δ)
  | returned (o : Outcome δ)
  deriving DecidableEq

structure Caller (δ : Type) where
  phase : CallerPhase δ
  createdAt : ℕ
  context : Option ContextError
  parentDone : Bool
  response : Option (Answer δ)
  closes : ℕ
  obtained : Option (Answer δ)

def Caller.blank {δ : Type} : Caller δ := ⟨.idle, 0, none, false, none, 0, none⟩

@[grind =]
def Caller.cancel {δ : Type} (c : Caller δ) (e : ContextError) : Caller δ :=
  { c with context := some (c.context.getD e) }

@[grind =]
def Caller.finish {δ : Type} (c : Caller δ) (o : Outcome δ) : Caller δ :=
  { c.cancel .canceled with phase := .returned o }

def Caller.Expired {δ : Type} (c : Caller δ) (now : ℕ) : Prop :=
  c.parentDone = true ∨ c.createdAt + 30 ≤ now

instance {δ : Type} (c : Caller δ) (now : ℕ) : Decidable (c.Expired now) :=
  inferInstanceAs (Decidable (_ ∨ _))

def Caller.Stale {δ : Type} (c : Caller δ) (since : ℕ) : Prop :=
  c.createdAt + 60 < since ∨ c.context.isSome

instance {δ : Type} (c : Caller δ) (since : ℕ) : Decidable (c.Stale since) :=
  inferInstanceAs (Decidable (_ ∨ _))

structure Request (ι : Type) where
  id : String
  createdAt : ℕ
  owner : ι
  deriving DecidableEq

inductive Phase (ι δ : Type) where
  | idle
  | calling (r : Request ι)
  | answered (r : Request ι) (a : Answer δ)
  | sending (c : ι) (r : Request ι) (a : Answer δ)
  | looking (c : ι) (key : String) (since : ℕ)
  | cancelling (c : ι) (key : String)
  | closing (c : ι) (key : String)
  | deleting (c : Option ι) (key : String)

structure Service (ι κ δ : Type) where
  now : ℕ
  stopped : Bool
  pending : String → Option ι
  queue : List (Request ι)
  callers : ι → Caller δ
  parties : κ → Phase ι δ

inductive SelectCase where
  | response
  | contextDone
  | done
  deriving DecidableEq

inductive Event (ι κ δ : Type) where
  | tick (n : ℕ)
  | store (i : ι)
  | push (i : ι) (ok : Bool)
  | select (i : ι) (case : SelectCase)
  | drop (i : ι)
  | expire (i : ι)
  | endParent (i : ι)
  | pop (g : κ)
  | call (g : κ) (a : Answer δ)
  | load (g : κ)
  | send (g : κ)
  | visit (g : κ) (key : String) (since : ℕ)
  | check (g : κ)
  | removeStale (r : Request ι)
  | stop
  | loadKey (g : κ) (key : String)
  | cancel (g : κ)
  | close (g : κ)
  | delete (g : κ)

section Step

variable {ι κ δ : Type} [DecidableEq ι] [DecidableEq κ]

namespace Service

@[reducible]
def updateCaller (s : Service ι κ δ) (i : ι) (f : Caller δ → Caller δ) : Service ι κ δ :=
  { s with callers := Function.update s.callers i (f (s.callers i)) }

@[reducible]
def setParty (s : Service ι κ δ) (g : κ) (phase : Phase ι δ) : Service ι κ δ :=
  { s with parties := Function.update s.parties g phase }

@[reducible]
def setPending (s : Service ι κ δ) (key : String) (c : Option ι) : Service ι κ δ :=
  { s with pending := Function.update s.pending key c }

end Service

variable (P : ι → Parameters)

def callerStep (s : Service ι κ δ) (i : ι) : CallerPhase δ → Event ι κ δ → Service ι κ δ
  | .idle, .store _ =>
    match (P i).invalid with
    | some message => s.updateCaller i (·.finish (.invalid message))
    | none =>
      (s.updateCaller i fun c => { c with phase := .stored, createdAt := s.now }).setPending
        (P i).requestId (some i)
  | .stored, .push _ true =>
    let r : Request ι := ⟨(P i).requestId, s.now, i⟩
    { s.updateCaller i (fun c => { c with phase := .waiting }) with queue := s.queue ++ [r] }
  | .stored, .push _ false => s.updateCaller i fun c => { c with phase := .dropping .failedToQueue }
  | .waiting, .select _ .response =>
    match (s.callers i).response with
    | some a => s.updateCaller i fun c => { c.finish (.answer a) with response := none }
    | none => s
  | .waiting, .select _ .contextDone =>
    match (s.callers i).context with
    | some e => s.updateCaller i fun c => { c with phase := .dropping (.contextError e) }
    | none => s
  | .waiting, .select _ .done =>
    if 0 < (s.callers i).closes then s.updateCaller i (·.finish .cleanedUp) else s
  | .dropping o, .drop _ => (s.updateCaller i (·.finish o)).setPending (P i).requestId none
  | _, _ => s

def partyStep (s : Service ι κ δ) (g : κ) : Phase ι δ → Event ι κ δ → Service ι κ δ
  | .idle, .pop _ =>
    match s.queue with
    | [] => s
    | r :: queue =>
      -- the queue cannot be read with the cancelled context of the workers
      if s.stopped then s
      else if r.createdAt + 60 < s.now then { s with queue }
      else { s.setParty g (.calling r) with queue }
  | .calling r, .call _ a =>
    (s.setParty g (.answered r a)).updateCaller r.owner fun c =>
      if c.Expired s.now then c else { c with obtained := some a }
  | .answered r a, .load _ =>
    match s.pending r.id with
    | some c => s.setParty g (.sending c r a)
    | none => s.setParty g .idle
  | .sending c r a, .send _ =>
    -- the default case: the channel is full
    (s.setParty g (.cancelling c r.id)).updateCaller c fun x =>
      { x with response := some (x.response.getD a) }
  | .idle, .visit _ key since =>
    match s.pending key with
    | some c => if since ≤ s.now then s.setParty g (.looking c key since) else s
    | none => s
  | .looking c key since, .check _ =>
    if (s.callers c).Stale since then s.setParty g (.cancelling c key)
    else s.setParty g .idle
  | .idle, .loadKey _ key =>
    if s.stopped then
      match s.pending key with
      | some c => s.setParty g (.cancelling c key)
      | none => s.setParty g (.deleting none key)
    else s
  | .cancelling c key, .cancel _ =>
    (s.setParty g (.closing c key)).updateCaller c (·.cancel .canceled)
  | .closing c key, .close _ =>
    (s.setParty g (.deleting (some c) key)).updateCaller c fun x => { x with closes := x.closes + 1 }
  | .deleting _ key, .delete _ => (s.setParty g .idle).setPending key none
  | _, _ => s

def step : Event ι κ δ → Service ι κ δ → Service ι κ δ
  | .tick n, s => { s with now := s.now + n }
  | .stop, s => { s with stopped := true }
  | .expire i, s =>
    match (s.callers i).phase with
    | .idle => s
    | _ =>
      if (s.callers i).createdAt + 30 ≤ s.now then s.updateCaller i (·.cancel .deadlineExceeded)
      else s
  | .endParent i, s => s.updateCaller i fun c => { c.cancel .canceled with parentDone := true }
  | .removeStale r, s => if r.createdAt + 60 < s.now then { s with queue := s.queue.erase r } else s
  | e@(.store i), s | e@(.push i _), s | e@(.select i _), s | e@(.drop i), s =>
    callerStep P s i (s.callers i).phase e
  | e@(.pop g), s | e@(.call g _), s | e@(.load g), s | e@(.send g), s | e@(.visit g _ _), s
  | e@(.check g), s | e@(.loadKey g _), s | e@(.cancel g), s | e@(.close g), s | e@(.delete g), s =>
    partyStep s g (s.parties g) e

end Step

section Properties

variable {ι κ δ : Type} [DecidableEq ι]

def start : Service ι κ δ where
  now := 0
  stopped := false
  pending _ := none
  queue := []
  callers _ := .blank
  parties _ := .idle

structure Service.Matches (s : Service ι κ δ) : Prop where
  closes_le : ∀ i, (s.callers i).closes ≤ 1
  answer_eq : ∀ i a o, (s.callers i).obtained = some a → (s.callers i).phase = .returned o →
    o = .answer a

namespace Phase

@[grind =]
def owner : Phase ι δ → Option ι
  | calling r | answered r _ | sending _ r _ => some r.owner
  | _ => none

@[grind =]
def context : Phase ι δ → Option ι
  | sending c _ _ | cancelling c _ | closing c _ => some c
  | deleting c _ => c
  | _ => none

@[grind =]
def unsent : Phase ι δ → Option ι
  | answered r _ | sending _ r _ => some r.owner
  | _ => none

@[grind =]
def AtWork (i : ι) (p : Phase ι δ) : Prop := p.owner = some i ∨ p.context = some i

instance (i : ι) (p : Phase ι δ) : Decidable (p.AtWork i) := inferInstanceAs (Decidable (_ ∨ _))

end Phase

@[grind =]
def CallerPhase.active : CallerPhase δ → Bool
  | stored | waiting | dropping _ => true
  | _ => false

variable (P : ι → Parameters)

def Service.UnderWay (s : Service ι κ δ) (i : ι) : Prop :=
  (s.callers i).phase.active = true ∨ (∃ r ∈ s.queue, r.owner = i) ∨
    (∃ g, (s.parties g).AtWork i) ∨ s.pending (P i).requestId = some i

instance [Fintype κ] (s : Service ι κ δ) (i : ι) : Decidable (s.UnderWay P i) :=
  inferInstanceAs (Decidable (_ ∨ _ ∨ _ ∨ _))

def Service.TakesAlone (s : Service ι κ δ) : Phase ι δ → Prop
  | .looking c key since =>
    (s.callers c).Stale since → s.pending key = some c ∧ ∀ g, ¬ (s.parties g).AtWork c
  | _ => True

instance [Fintype κ] (s : Service ι κ δ) (p : Phase ι δ) : Decidable (s.TakesAlone p) :=
  match p with
  | .looking c key since =>
    inferInstanceAs (Decidable ((s.callers c).Stale since → s.pending key = some c ∧ _))
  | .idle | .calling _ | .answered _ _ | .sending _ _ _ | .cancelling _ _ | .closing _ _
  | .deleting _ _ => inferInstanceAs (Decidable True)

def Undisturbed : Event ι κ δ → Service ι κ δ → Prop
  | .store i, s => ∀ j, j ≠ i → (P j).requestId = (P i).requestId → ¬ s.UnderWay P j
  | .pop _, s => ∀ r ∈ s.queue.head?, ∀ g, ¬ (s.parties g).AtWork r.owner
  | .check g, s => s.TakesAlone (s.parties g)
  | .loadKey _ key, s => ∀ c ∈ s.pending key, ∀ g, ¬ (s.parties g).AtWork c
  | .expire i, s | .endParent i, s => ∀ g, (s.parties g).unsent ≠ some i
  | .select i case, s => (s.callers i).response.isSome → case = .response
  | _, _ => True

instance [Fintype ι] [Fintype κ] (e : Event ι κ δ) (s : Service ι κ δ) :
    Decidable (Undisturbed P e s) :=
  match e with
  | .store i => inferInstanceAs (Decidable (∀ j, j ≠ i → (P j).requestId = (P i).requestId → _))
  | .pop _ => inferInstanceAs (Decidable (∀ r ∈ s.queue.head?, ∀ g, ¬ (s.parties g).AtWork r.owner))
  | .check g => inferInstanceAs (Decidable (s.TakesAlone (s.parties g)))
  | .loadKey _ key =>
    inferInstanceAs (Decidable (∀ c ∈ s.pending key, ∀ g, ¬ (s.parties g).AtWork c))
  | .expire i | .endParent i =>
    inferInstanceAs (Decidable (∀ g, (s.parties g).unsent ≠ some i))
  | .select i case =>
    inferInstanceAs (Decidable ((s.callers i).response.isSome → case = .response))
  | .tick _ | .push _ _ | .drop _ | .call _ _ | .load _ | .send _ | .visit _ _ _ | .removeStale _ | .stop
  | .cancel _ | .close _ | .delete _ => inferInstanceAs (Decidable True)

end Properties

end Stablenode.Etherscan
