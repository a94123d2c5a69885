import GuestPlugin.Proofs.Host.Inversion
import GuestPlugin.Proofs.Loader.Stages

/-! # One block at a time

A holder of at most one region reserves and gives back in any order, against a pool that may refuse any
request and may grant blocks of any size. The calls that reach the pool are then granted blocks and
frees in strict turns: a block is asked for only while none is out, and nothing but its own free can
follow a grant. So a grant is its block's only chance to be freed, which rules out leaks and double frees
at once.
-/

set_option autoImplicit false

namespace GuestPlugin

open Program

namespace BlockLedger

def settle (out : List Block) : Exchange → List Block
  | ⟨.allocate _, .ok block⟩ => block :: out
  | ⟨.free block, _⟩ => out.erase block
  | _ => out

/-- The blocks that calls took and did not give back, with all that is in them. -/
def outstanding (calls : List Exchange) : List Block := calls.foldl settle []

inductive Turns : Option Block → List Exchange → Option Block → Prop where
  | done (held : Option Block) : Turns held [] held
  | granted {size : UInt32} {block : Block} {calls : List Exchange} {stop : Option Block}
      (h : Turns (some block) calls stop) : Turns none (⟨.allocate size, .ok block⟩ :: calls) stop
  | refused {size : UInt32} {code : ResultCode} {calls : List Exchange} {stop : Option Block}
      (h : Turns none calls stop) : Turns none (⟨.allocate size, .error code⟩ :: calls) stop
  | freed {block : Block} {calls : List Exchange} {stop : Option Block}
      (h : Turns none calls stop) : Turns (some block) (⟨.free block, ()⟩ :: calls) stop

namespace Turns

variable {start middle stop : Option Block} {calls before later : List Exchange}

theorem append (hFirst : Turns start before middle) (hSecond : Turns middle later stop) :
    Turns start (before ++ later) stop := by
  induction hFirst with
  | done held => exact hSecond
  | granted _ ih => exact .granted (ih hSecond)
  | refused _ ih => exact .refused (ih hSecond)
  | freed _ ih => exact .freed (ih hSecond)

theorem split (h : Turns start (before ++ later) stop) :
    ∃ middle, Turns start before middle ∧ Turns middle later stop := by
  induction before generalizing start with
  | nil => exact ⟨start, .done start, h⟩
  | cons x rest ih =>
    cases h with
    | granted h =>
      obtain ⟨middle, hRest, hLater⟩ := ih h
      exact ⟨middle, .granted hRest, hLater⟩
    | refused h =>
      obtain ⟨middle, hRest, hLater⟩ := ih h
      exact ⟨middle, .refused hRest, hLater⟩
    | freed h =>
      obtain ⟨middle, hRest, hLater⟩ := ih h
      exact ⟨middle, .freed hRest, hLater⟩

theorem foldl_settle (h : Turns start calls stop) : calls.foldl settle start.toList = stop.toList := by
  induction h with
  | done held => rfl
  | granted _ ih => exact ih
  | refused _ ih => exact ih
  | @freed block calls stop _ ih =>
    have hErase : settle (some block).toList ⟨.free block, ()⟩ = [] := by simp [settle]
    rw [List.foldl_cons, hErase]
    exact ih

theorem outstanding_eq (h : Turns none calls stop) : outstanding calls = stop.toList := h.foldl_settle

theorem length_outstanding_le (h : Turns none (before ++ later) stop) :
    (outstanding before).length ≤ 1 := by
  obtain ⟨middle, hBefore, _⟩ := h.split
  rw [hBefore.outstanding_eq]
  exact Option.length_toList_le

/-- The pool is asked only while it has every block back. -/
theorem outstanding_of_allocate {size : UInt32} {answer : Except ResultCode Block}
    (h : Turns none (before ++ ⟨.allocate size, answer⟩ :: later) stop) : outstanding before = [] := by
  obtain ⟨middle, hBefore, hAsked⟩ := h.split
  rw [hBefore.outstanding_eq]
  cases hAsked with
  | granted _ => rfl
  | refused _ => rfl

/-- Calls that leave a block out end with its grant, unless they began with it. -/
theorem exists_grant {block : Block} (h : Turns start calls stop) (hStop : stop = some block) :
    (start = some block ∧ calls = []) ∨
      ∃ earlier size, calls = earlier ++ [⟨.allocate size, .ok block⟩] := by
  -- On the calls: behind any other first call none is out, so what is out in the end was granted later.
  induction h with
  | done held => exact .inl ⟨hStop, rfl⟩
  | @granted size _ _ _ _ ih =>
    rcases ih hStop with ⟨⟨⟩, rfl⟩ | ⟨earlier, later, rfl⟩
    · exact .inr ⟨[], size, rfl⟩
    · exact .inr ⟨_ :: earlier, later, rfl⟩
  | refused _ ih =>
    rcases ih hStop with ⟨⟨⟩, _⟩ | ⟨earlier, size, rfl⟩
    exact .inr ⟨_ :: earlier, size, rfl⟩
  | freed _ ih =>
    rcases ih hStop with ⟨⟨⟩, _⟩ | ⟨earlier, size, rfl⟩
    exact .inr ⟨_ :: earlier, size, rfl⟩

theorem exists_grant_of_free {block : Block}
    (h : Turns none (before ++ ⟨.free block, ()⟩ :: later) stop) :
    ∃ earlier size, before = earlier ++ [⟨.allocate size, .ok block⟩] := by
  obtain ⟨middle, hBefore, hFree⟩ := h.split
  cases hFree with
  | freed _ =>
    rcases hBefore.exists_grant rfl with ⟨⟨⟩, _⟩ | hGrant
    exact hGrant

end Turns
end BlockLedger

namespace Reservation

open BlockLedger

inductive Request where
  | reserve (tier : Tier) (size : UInt32)
  | release

inductive Response where
  | reserved (answer : Except ResourceError Region)
  | released (freed : Bool)

/-- Performs a request for a holder of a region or of none, and tells what is held then. -/
def perform (held : Option Region) : Request → Program (Response × Option Region)
  | .reserve tier size => do
    let answer ← reserve held tier size
    return (.reserved answer, answer.toOption)
  | .release => do
    let freed ← release held
    return (.released freed, none)

/-- What a loader holds after its reservation is what the request leaves. -/
theorem bind_run_reserve (l : Loader) (tier : Tier) :
    ((Loader.reserve tier).run.run l).bind (fun r => .done r.2.held) =
      .emit (.stateChanged l.context.state .allocating)
        ((perform l.held (.reserve tier (l.config.tierSize tier))).bind fun r => .done r.2) := by
  rw [Loader.run_reserve, perform]
  refine congrArg (Program.emit _) ?_
  change (Program.bind _ _).bind _ = (Program.bind _ _).bind _
  rw [bind_assoc, bind_assoc]
  refine congrArg (Program.bind _) (funext fun answer => ?_)
  cases answer <;> rfl

theorem bind_run_release (l : Loader) :
    (Loader.release.run l).bind (fun r => .done (.released r.1, r.2.held)) =
      perform l.held .release := by
  change (Program.bind (Reservation.release l.held) fun freed =>
    .done (freed, { l with held := none })).bind _ = _
  exact bind_assoc _ _ _

/-! ## One request -/

inductive Performed (held : Option Region) :
    Request → List Exchange → Response → Option Region → Prop where
  | reserved {tier : Tier} {size : UInt32} (block : Block) :
      Performed held (.reserve tier size) (releaseCalls held ++ [⟨.allocate size, .ok block⟩])
        (.reserved (.ok { block with tier })) (some { block with tier })
  | refused {tier : Tier} {size : UInt32} (code : ResultCode) :
      Performed held (.reserve tier size) (releaseCalls held ++ [⟨.allocate size, .error code⟩])
        (.reserved (.error (.allocationRefused size))) none
  | released : Performed held .release (releaseCalls held) (.released held.isSome) none

theorem runs_perform {held : Option Region} {request : Request} {calls : List Exchange}
    {events : List Event} {result : Option (Response × Option Region)}
    (h : Runs (perform held request) calls events result) :
    ∃ response after, result = some (response, after) ∧
      Performed held request calls response after := by
  cases request with
  | reserve tier size =>
    obtain ⟨_, _, _, _, _, hReserve, hEnd, rfl, rfl⟩ :=
      (reserve_total held tier size).runs_bind_iff.mp h
    obtain ⟨rfl, rfl, rfl⟩ := runs_pure_iff.mp hEnd
    obtain ⟨_, ⟨⟩, hReserved⟩ := runs_reserve hReserve
    rw [List.append_nil]
    cases hReserved with
    | granted block => exact ⟨_, _, rfl, .reserved block⟩
    | refused code => exact ⟨_, _, rfl, .refused code⟩
  | release =>
    obtain ⟨_, _, _, _, _, hRelease, hEnd, rfl, rfl⟩ := (release_total held).runs_bind_iff.mp h
    obtain ⟨rfl, rfl, rfl⟩ := runs_pure_iff.mp hEnd
    obtain ⟨rfl, _, ⟨⟩⟩ := runs_release hRelease
    rw [List.append_nil]
    exact ⟨_, _, rfl, .released⟩

theorem perform_total (held : Option Region) (request : Request) : Total (perform held request) := by
  intro calls events result h
  obtain ⟨_, _, rfl, _⟩ := runs_perform h
  rfl

theorem turns_release (held : Option Region) :
    Turns (held.map (·.toBlock)) (releaseCalls held) none := by
  cases held with
  | none => exact .done none
  | some region => exact .freed (.done none)

namespace Performed

variable {held after : Option Region} {request : Request} {calls : List Exchange}
  {response : Response}

theorem turns (h : Performed held request calls response after) :
    Turns (held.map (·.toBlock)) calls (after.map (·.toBlock)) := by
  cases h with
  | reserved block => exact (turns_release held).append (.granted (.done _))
  | refused code => exact (turns_release held).append (.refused (.done none))
  | released => exact turns_release held

theorem after_eq_some_iff (h : Performed held request calls response after) {region : Region} :
    after = some region ↔ ∃ size, request = .reserve region.tier size ∧
      response = .reserved (.ok region) ∧
      calls = releaseCalls held ++ [⟨.allocate size, .ok region.toBlock⟩] := by
  constructor
  · rintro rfl
    cases h with
    | @reserved tier size block => exact ⟨size, rfl, rfl, rfl⟩
  · rintro ⟨size, hRequest, hResponse, _⟩
    cases h with
    | reserved block =>
      cases hResponse
      rfl
    | refused code => cases hResponse
    | released => cases hRequest

theorem of_refusal {size : UInt32} {code : ResultCode}
    (h : Performed held request calls response after)
    (hRefusal : ⟨.allocate size, .error code⟩ ∈ calls) :
    response = .reserved (.error (.allocationRefused size)) ∧ after = none := by
  have hFree : ⟨.allocate size, .error code⟩ ∉ releaseCalls held := by
    cases held <;> simp [releaseCalls]
  cases h with
  | reserved block => simp [hFree] at hRefusal
  | refused code =>
    simp only [List.mem_append, hFree, false_or, List.mem_singleton] at hRefusal
    cases hRefusal
    exact ⟨rfl, rfl⟩
  | released => exact absurd hRefusal hFree

theorem of_release (h : Performed held .release calls response after) :
    ∃ freed, response = .released freed ∧ (freed = true ↔ ∃ block, ⟨.free block, ()⟩ ∈ calls) := by
  cases h with
  | released =>
    refine ⟨held.isSome, rfl, ?_⟩
    cases held <;> simp [releaseCalls]

end Performed

/-! ## Any number of requests -/

/-- A request that was performed: what it asked of the pool, and what is held since. -/
structure Step where
  request : Request
  before : Option Region
  calls : List Exchange
  events : List Event
  response : Response
  after : Option Region
  performed : Runs (perform before request) calls events (some (response, after))

inductive History : List Step → Option Region → Prop where
  | new : History [] none
  | next {steps : List Step} (step : Step) (h : History steps step.before) :
      History (steps ++ [step]) step.after

def callsOf (steps : List Step) : List Exchange := steps.flatMap (·.calls)

theorem Step.isPerformed (s : Step) : Performed s.before s.request s.calls s.response s.after := by
  obtain ⟨_, _, hResult, hPerformed⟩ := runs_perform s.performed
  cases hResult
  exact hPerformed

theorem History.turns {steps : List Step} {held : Option Region} (h : History steps held) :
    Turns none (callsOf steps) (held.map (·.toBlock)) := by
  induction h with
  | new => exact .done none
  | @next steps step h ih =>
    have hCalls : callsOf (steps ++ [step]) = callsOf steps ++ step.calls := by simp [callsOf]
    rw [hCalls]
    exact ih.append step.isPerformed.turns

/-- The step reserved this region: the pool granted its block, and its tier is the one asked for. -/
def Step.Reserves (s : Step) (region : Region) : Prop :=
  ∃ size, s.request = .reserve region.tier size ∧ s.response = .reserved (.ok region) ∧
    s.calls = releaseCalls s.before ++ [⟨.allocate size, .ok region.toBlock⟩]

theorem History.held_eq_some_iff {steps : List Step} {held : Option Region} (h : History steps held)
    {region : Region} :
    held = some region ↔ ∃ earlier step, steps = earlier ++ [step] ∧ step.Reserves region := by
  cases h with
  | new => simp
  | @next steps step h =>
    rw [step.isPerformed.after_eq_some_iff]
    constructor
    · intro hReserves
      exact ⟨steps, step, rfl, hReserves⟩
    · rintro ⟨earlier, last, hSteps, hReserves⟩
      obtain ⟨_, ⟨⟩⟩ := List.append_inj' hSteps rfl
      exact hReserves

/-- At no moment is more than one block out, and between requests it is the one held, as the last
request reserved it. Each free directly follows the grant it undoes, so no two frees share one, and the
pool is asked for a block only while none is out. A refused reservation leaves nothing held, and a
release tells whether it freed a block. -/
theorem History.one_block_at_a_time {steps : List Step} {held : Option Region}
    (h : History steps held) :
    (∀ before later, callsOf steps = before ++ later → (outstanding before).length ≤ 1) ∧
      outstanding (callsOf steps) = (held.map (·.toBlock)).toList ∧
      (∀ region, held = some region ↔
        ∃ earlier step, steps = earlier ++ [step] ∧ step.Reserves region) ∧
      (∀ before block later, callsOf steps = before ++ ⟨.free block, ()⟩ :: later →
        ∃ earlier size, before = earlier ++ [⟨.allocate size, .ok block⟩]) ∧
      (∀ before size answer later, callsOf steps = before ++ ⟨.allocate size, answer⟩ :: later →
        outstanding before = []) ∧
      (∀ step ∈ steps, ∀ size code, ⟨.allocate size, .error code⟩ ∈ step.calls →
        step.response = .reserved (.error (.allocationRefused size)) ∧ step.after = none) ∧
      (∀ step ∈ steps, step.request = .release → ∃ freed, step.response = .released freed ∧
        (freed = true ↔ ∃ block, ⟨.free block, ()⟩ ∈ step.calls)) ∧
      ∀ request, Total (perform held request) := by
  have hTurns := h.turns
  refine ⟨?_, hTurns.outstanding_eq, fun region => h.held_eq_some_iff, ?_, ?_,
    fun step _ size code hRefusal => step.isPerformed.of_refusal hRefusal,
    fun step _ hRelease => ?_, fun request => perform_total held request⟩
  · intro before later hCalls
    rw [hCalls] at hTurns
    exact hTurns.length_outstanding_le
  · intro before block later hCalls
    rw [hCalls] at hTurns
    exact hTurns.exists_grant_of_free
  · intro before size answer later hCalls
    rw [hCalls] at hTurns
    exact hTurns.outstanding_of_allocate
  · have hPerformed := step.isPerformed
    rw [hRelease] at hPerformed
    exact hPerformed.of_release

def lent (handle : UInt32) : Block := ⟨handle, 4, .replicate 4 0xAA⟩

def lentFirst : Step :=
  ⟨.reserve .small 4, none, [⟨.allocate 4, .ok (lent 7)⟩], [], .reserved (.ok ⟨lent 7, .small⟩),
    some ⟨lent 7, .small⟩, .call (c := .allocate 4) (.ok (lent 7)) (.done _)⟩

/-- The first block is back by the time the pool refuses. -/
def thenRefused : Step :=
  ⟨.reserve .large 8, some ⟨lent 7, .small⟩, [⟨.free (lent 7), ()⟩, ⟨.allocate 8, .error ⟨1⟩⟩],
    [.allocationRefused 8 ⟨1⟩], .reserved (.error (.allocationRefused 8)), none,
    .call (c := .free (lent 7)) () (.call (c := .allocate 8) (.error ⟨1⟩) (.emit _ (.done _)))⟩

def thenIdle : Step := ⟨.release, none, [], [], .released false, none, .done _⟩

def thenLent : Step :=
  ⟨.reserve .default 4, none, [⟨.allocate 4, .ok (lent 9)⟩], [], .reserved (.ok ⟨lent 9, .default⟩),
    some ⟨lent 9, .default⟩, .call (c := .allocate 4) (.ok (lent 9)) (.done _)⟩

theorem history_turnover :
    History [lentFirst, thenRefused, thenIdle, thenLent] (some ⟨lent 9, .default⟩) := by
  have h := History.next thenLent (.next thenIdle (.next thenRefused (.next lentFirst .new)))
  exact h

theorem outstanding_turnover :
    History [lentFirst, thenRefused, thenIdle, thenLent] (some ⟨lent 9, .default⟩) ∧
      outstanding (callsOf [lentFirst, thenRefused, thenIdle, thenLent]) = [lent 9] :=
  ⟨history_turnover, history_turnover.one_block_at_a_time.2.1⟩

end Reservation
end GuestPlugin
