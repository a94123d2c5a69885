import GuestPlugin.Proofs.Guest.Footprint
import GuestPlugin.Proofs.Guest.Memory
import GuestPlugin.Proofs.Host.FixedAnswers
import GuestPlugin.Proofs.Region.ControlBlock

/-! # A kernel that refuses parts of a handover

Four requests of a handover can be refused, each with a code of its own. The first refusal settles what
comes of it: one before the page is asked for is a failed mapping, the page alone is a failed entry mapping.
The region is made ready in any case, and its mapping is left standing only if nothing was refused.
-/

set_option autoImplicit false

namespace GuestPlugin

open Program

/-- With which codes a kernel refuses the requests of a handover, if it does. -/
structure Refusals where
  unprotect : Option ResultCode
  signal : Option ResultCode
  mapping : Option ResultCode
  page : Option ResultCode

namespace Refusals

def answer : Option ResultCode → Except ResultCode Unit
  | some code => .error code
  | none => .ok ()

variable {r : Refusals} {code? : Option ResultCode} {code : ResultCode}

@[simp] theorem error_eq_answer_iff : .error code = answer code? ↔ code? = some code := by
  cases code? <;> simp [answer, eq_comm]

@[simp] theorem ok_eq_answer_iff {granted : Unit} : .ok granted = answer code? ↔ code? = none := by
  cases code? <;> simp [answer]

def Answers (r : Refusals) : Exchange → Prop
  | ⟨.control _ .unprotectCode, answered⟩ => answered = answer r.unprotect
  | ⟨.control _ .signalOnExit, answered⟩ => answered = answer r.signal
  | ⟨.mapRegion _ _ _, answered⟩ => answered = answer r.mapping
  | ⟨.mapGuest _ _ _, answered⟩ => answered = answer r.page
  | _ => True

/-- The first refusal before the page is asked for. -/
def beforePage? (r : Refusals) : Option ResultCode := r.unprotect.or (r.signal.or r.mapping)

def host (r : Refusals) : (c : HostCall) → c.Answer
  | .control _ .unprotectCode => answer r.unprotect
  | .control _ .signalOnExit => answer r.signal
  | .mapRegion _ _ _ => answer r.mapping
  | .mapGuest _ _ _ => answer r.page
  | c => onePluginHost (.ok ()) c

theorem answers_of_answeredBy {word : Guest → UInt32 → UInt32} {past calls : List Exchange}
    (h : AnsweredBy (Memory.oracle word r.host) past calls) : ∀ x ∈ calls, r.Answers x := by
  induction calls generalizing past with
  | nil => exact List.forall_mem_nil _
  | cons x rest ih =>
    obtain ⟨c, answered⟩ := x
    obtain ⟨rfl, hRest⟩ := h
    refine List.forall_mem_cons.mpr ⟨?_, ih hRest⟩
    cases c with
    | control guest request => cases request <;> rfl
    | mapRegion guest block address => rfl
    | mapGuest guest address size => rfl
    | _ => trivial

end Refusals

@[simp] theorem Guests.mappings_write (g : Guests) (address value : UInt32) :
    (g.write address value).mappings = g.mappings := by
  unfold write
  split <;> rfl

namespace Attach

open EntryHook

variable {config : Config} {guest : Guest} {region : Region} {block : Block} {b : ControlBlock}
  {calls : List Exchange} {outcome : Except ResourceError SavedEntry} {r : Refusals}

/-- What a handover comes to when these requests are refused. -/
inductive Settled (r : Refusals) : Except ResourceError SavedEntry → Prop where
  | beforePage (code : ResultCode) (first : r.beforePage? = some code) :
      Settled r (.error (.mappingFailed code))
  | page (code : ResultCode) (noneBefore : r.beforePage? = none) (refused : r.page = some code) :
      Settled r (.error (.entryMappingFailed code))
  | granted (saved : SavedEntry) (noneBefore : r.beforePage? = none) (shown : r.page = none) :
      Settled r (.ok saved)

theorem Course.settled (h : Course config guest block calls outcome)
    (hAnswers : ∀ x ∈ calls, r.Answers x) : Settled r outcome := by
  cases h with
  | unprotectRefused code =>
    have hFirst : r.unprotect = some code := by simpa [Refusals.Answers] using hAnswers
    exact .beforePage code (by simp [Refusals.beforePage?, hFirst])
  | signalRefused code =>
    have hFirst : r.unprotect = none ∧ r.signal = some code := by
      simpa [Refusals.Answers] using hAnswers
    exact .beforePage code (by simp [Refusals.beforePage?, hFirst])
  | mappingRefused code =>
    have hFirst : r.unprotect = none ∧ r.signal = none ∧ r.mapping = some code := by
      simpa [Refusals.Answers, controlCalls, and_assoc] using hAnswers
    exact .beforePage code (by simp [Refusals.beforePage?, hFirst])
  | pageRefused code =>
    have hFirst : r.unprotect = none ∧ r.signal = none ∧ r.mapping = none ∧ r.page = some code := by
      simpa [Refusals.Answers, controlCalls, mapPage, and_assoc] using hAnswers
    exact .page code (by simp [Refusals.beforePage?, hFirst]) hFirst.2.2.2
  | hooked words =>
    have hNone : r.unprotect = none ∧ r.signal = none ∧ r.mapping = none ∧ r.page = none := by
      simpa [Refusals.Answers, controlCalls, mapPage, readCalls, writeCalls, unmapPage, and_assoc]
        using hAnswers
    exact .granted _ (by simp [Refusals.beforePage?, hNone]) hNone.2.2.2

/-- No request is made twice, so the refusals of any course are those of such a kernel. -/
theorem Course.exists_refusals (h : Course config guest block calls outcome) :
    ∃ r : Refusals, ∀ x ∈ calls, r.Answers x := by
  cases h with
  | unprotectRefused code =>
    exact ⟨⟨some code, none, none, none⟩, by simp [Refusals.Answers]⟩
  | signalRefused code =>
    exact ⟨⟨none, some code, none, none⟩, by simp [Refusals.Answers]⟩
  | mappingRefused code =>
    exact ⟨⟨none, none, some code, none⟩, by simp [Refusals.Answers, controlCalls]⟩
  | pageRefused code =>
    exact ⟨⟨none, none, none, some code⟩, by simp [Refusals.Answers, controlCalls, mapPage]⟩
  | hooked words =>
    refine ⟨⟨none, none, none, none⟩, ?_⟩
    simp [Refusals.Answers, controlCalls, mapPage, readCalls, writeCalls, unmapPage]

theorem Settled.mappingFailed_iff (h : Settled r outcome) (code : ResultCode) :
    outcome = .error (.mappingFailed code) ↔ r.beforePage? = some code := by
  cases h <;> simp_all

theorem Settled.entryMappingFailed_iff (h : Settled r outcome) (code : ResultCode) :
    outcome = .error (.entryMappingFailed code) ↔ r.beforePage? = none ∧ r.page = some code := by
  cases h <;> simp_all

theorem Settled.ok_iff (h : Settled r outcome) :
    (∃ saved, outcome = .ok saved) ↔ r.beforePage? = none ∧ r.page = none := by
  cases h <;> simp_all

theorem Course.mappings_of_ok {saved : SavedEntry}
    (h : Course config guest block calls (.ok saved)) (g : Guests) :
    (g.after calls).mappings = ⟨guest, block.handle, config.heapAddress⟩ :: g.mappings := by
  cases h
  simp [Guests.after, Guests.step, controlCalls, mapPage, readCalls, writeCalls, unmapPage]

theorem Course.after_of_error {cause : ResourceError}
    (h : Course config guest block calls (.error cause)) (g : Guests) : g.after calls = g := by
  have hFreed : g.after (calls ++ [⟨.free block, ()⟩]) = g := h.undone.after_eq g
  rwa [Guests.after, List.foldl_append] at hFreed

theorem Course.mappings_iff (h : Course config guest block calls outcome) (g : Guests) :
    (g.after calls).mappings = ⟨guest, block.handle, config.heapAddress⟩ :: g.mappings ↔
      ∃ saved, outcome = .ok saved := by
  cases outcome with
  | ok saved => exact iff_of_true (h.mappings_of_ok g) ⟨saved, rfl⟩
  | error cause =>
    rw [h.after_of_error g]
    exact iff_of_false (List.cons_ne_self _ _).symm nofun

theorem exists_runs_attach {ready : Bytes region.size.toNat}
    (hReady : b.prepare? region.memory = some ready) (config : Config) (guest : Guest) (r : Refusals)
    (word : Guest → UInt32 → UInt32) :
    ∃ calls events attached, Runs (attach config guest region b) calls events (some attached) ∧
      (∀ x ∈ calls, r.Answers x) ∧ (Memory.unseen word).Truthful calls := by
  have hRuns := runs_performance (Memory.oracle word r.host) [] (attach config guest region b)
  have hAnswered := answeredBy_performance (Memory.oracle word r.host) [] (attach config guest region b)
  obtain ⟨_, outcome, hResult, _⟩ := runs_attach hReady hRuns
  rw [hResult] at hRuns
  exact ⟨_, _, _, hRuns, Refusals.answers_of_answeredBy hAnswered,
    Memory.truthful_of_answeredBy hAnswered⟩

/-- Whatever is refused, the region ends as the control block, what it held above it in the image, and
zeros, and this is what is mapped. The first refusal is returned as the error that belongs to it, and then
every guest is as before. Without one the words that stood at the entry are returned, and only then the
mapping stands. -/
theorem attach_settled_by_first_refusal (config : Config) (guest : Guest) (region : Region)
    (b : ControlBlock) (hBase : ControlBlock.size ≤ b.imageSize.toNat)
    (hImage : b.imageSize.toNat ≤ region.size.toNat) :
    ∃ ready : Bytes region.size.toNat,
      ready.toList = b.encode ++
        (region.memory.toList.take b.imageSize.toNat).drop ControlBlock.size ++
        List.replicate (region.size.toNat - b.imageSize.toNat) 0 ∧
      (∀ (r : Refusals) word, ∃ calls events attached,
        Runs (attach config guest region b) calls events (some attached) ∧
        (∀ x ∈ calls, r.Answers x) ∧ (Memory.unseen word).Truthful calls) ∧
      (∀ calls events result, Runs (attach config guest region b) calls events result →
        ∃ r : Refusals, ∀ x ∈ calls, r.Answers x) ∧
      ∀ (r : Refusals) calls events result,
        Runs (attach config guest region b) calls events result → (∀ x ∈ calls, r.Answers x) →
        ∃ outcome, result = some (outcome, region.withMemory ready) ∧
          (∀ mapped shown address answer, ⟨.mapRegion mapped shown address, answer⟩ ∈ calls →
            mapped = guest ∧ shown = (region.withMemory ready).toBlock ∧
              address = config.heapAddress) ∧
          (∀ code, outcome = .error (.mappingFailed code) ↔ r.beforePage? = some code) ∧
          (∀ code, outcome = .error (.entryMappingFailed code) ↔
            r.beforePage? = none ∧ r.page = some code) ∧
          ((∃ saved, outcome = .ok saved) ↔ r.beforePage? = none ∧ r.page = none) ∧
          (∀ saved word, outcome = .ok saved → (Memory.unseen word).Truthful calls →
            saved = ⟨config.entryAddress, wordsAt (word guest) config.entryAddress⟩) ∧
          (∀ g : Guests, (g.after calls).mappings =
            ⟨guest, region.handle, config.heapAddress⟩ :: g.mappings ↔
              ∃ saved, outcome = .ok saved) ∧
          ∀ cause, outcome = .error cause → ∀ g : Guests, g.after calls = g := by
  obtain ⟨ready, hReady, hBytes⟩ := b.prepare?_bytes region.memory hBase hImage
  refine ⟨ready, hBytes, exists_runs_attach hReady config guest, ?_, ?_⟩
  · intro calls events result hRuns
    obtain ⟨_, _, _, hCourse⟩ := runs_attach hReady hRuns
    exact hCourse.exists_refusals
  intro r calls events result hRuns hAnswers
  obtain ⟨_, outcome, rfl, hCourse⟩ := runs_attach hReady hRuns
  have hSettled := hCourse.settled hAnswers
  refine ⟨outcome, rfl, fun _ _ _ _ => hCourse.eq_of_mapRegion_mem, hSettled.mappingFailed_iff,
    hSettled.entryMappingFailed_iff, hSettled.ok_iff, ?_, hCourse.mappings_iff, ?_⟩
  · rintro ⟨address, words⟩ word rfl hTruthful
    obtain ⟨rfl, hExchanges⟩ := hCourse.exchanges
    obtain rfl := (hExchanges.truthful word).mp hTruthful
    rfl
  · rintro cause rfl
    exact hCourse.after_of_error

/-- A control block for an image of two pages. -/
def twoPages : ControlBlock :=
  ⟨ControlBlock.pluginMagic, 1, 0x06000000, 0x1000, 0x2000, false, 0, 0, .replicate 32 0⟩

/-- A page that is refused with a code, and after it one that is shown, for a region of three pages. -/
theorem attach_refused_and_granted :
    ∃ ready calls calls' events events',
      ready.toList = twoPages.encode ++ List.replicate 0x1F60 0xAA ++ List.replicate 0x1000 0 ∧
      Runs (attach (Config.stock 0) ⟨7⟩ ⟨⟨1, 0x3000, .replicate _ 0xAA⟩, .default⟩ twoPages) calls
        events (some (.error (.entryMappingFailed ⟨5⟩), ⟨⟨1, 0x3000, ready⟩, .default⟩)) ∧
      (∀ g : Guests, g.after calls = g) ∧
      Runs (attach (Config.stock 0) ⟨7⟩ ⟨⟨1, 0x3000, .replicate _ 0xAA⟩, .default⟩ twoPages) calls'
        events' (some (.ok ⟨0x100000, ⟨0x100000, 0x100004⟩⟩, ⟨⟨1, 0x3000, ready⟩, .default⟩)) ∧
      ∀ g : Guests, (g.after calls').mappings = ⟨⟨7⟩, 1, 0x06000000⟩ :: g.mappings := by
  obtain ⟨ready, hBytes, hEnds, _, hSettles⟩ := attach_settled_by_first_refusal (Config.stock 0) ⟨7⟩
    ⟨⟨1, 0x3000, .replicate _ 0xAA⟩, .default⟩ twoPages (by decide) (by decide)
  let refusing : Refusals := ⟨none, none, none, some ⟨5⟩⟩
  let granting : Refusals := ⟨none, none, none, none⟩
  obtain ⟨calls, events, _, hRuns, hAnswers, _⟩ := hEnds refusing fun _ address => address
  obtain ⟨calls', events', _, hRuns', hAnswers', hTruthful⟩ := hEnds granting fun _ address => address
  obtain ⟨outcome, hOutcome, _, _, hPage, _, _, _, hUndone⟩ := hSettles refusing _ _ _ hRuns hAnswers
  obtain ⟨outcome', hOutcome', _, _, _, hOk, hWords, hMappings, _⟩ :=
    hSettles granting _ _ _ hRuns' hAnswers'
  have hRefused : outcome = .error (.entryMappingFailed ⟨5⟩) := (hPage ⟨5⟩).mpr ⟨rfl, rfl⟩
  obtain ⟨saved, hSaved⟩ := hOk.mpr ⟨rfl, rfl⟩
  have hFormer := hWords saved _ hSaved hTruthful
  rw [hOutcome, hRefused] at hRuns
  rw [hOutcome', hSaved, hFormer] at hRuns'
  refine ⟨ready, calls, calls', events, events', ?_, hRuns, hUndone _ hRefused, hRuns', ?_⟩
  · rw [hBytes, Bytes.toList_replicate, List.take_replicate, List.drop_replicate]
    rfl
  · exact fun g => (hMappings g).mpr ⟨saved, hSaved⟩

end Attach
end GuestPlugin
