import GuestPlugin.Proofs.Loader.EntryMemory

/-! # Whether the saved words are a guest's own

A load saves what stands at the entry, whatever that is. A load or an exit that comes while words are saved
forgets them, and the hook stays. From then on the guest's own words are gone, and the next load into that
guest takes the hook for them. As long as nothing is forgotten, the saved words are the guest's own.
-/

set_option autoImplicit false

namespace GuestPlugin.Loader

open Program Memory

variable {config : Config} {l : Loader} {guest other : Guest} {steps : List Step} {step : Step}

/-! ## Steps and the entry -/

/-- What a step does to the words at the entry and to those that are saved. -/
inductive Step.Rewriting (s : Step) : Prop where
  | hooks {guest : Guest} {words : EntryWords} (hAttaches : s.Attaches guest)
      (hSaved : s.after.context.savedEntry = some ⟨s.before.config.entryAddress, words⟩)
      (hCalls : Exchanges guest s.before.config.entryAddress words
        (hookWords s.before.config.trampoline) s.calls)
  | restores {guest : Guest} {saved : SavedEntry} (hOperation : s.operation = .restoreEntry guest)
      (hSaved : s.before.context.savedEntry = some saved)
      (hNone : s.after.context.savedEntry = none)
      (hCalls : Puts guest saved.address saved.words s.calls)
  | forgets (hReleases : s.operation.Releases) (hNone : s.after.context.savedEntry = none)
      (hCalls : ∀ x ∈ s.calls, Apart x)
  | keeps (hReleases : ¬ s.operation.Releases)
      (hSaved : s.after.context.savedEntry = s.before.context.savedEntry)
      (hCalls : ∀ x ∈ s.calls, Apart x)

theorem Step.rewriting (s : Step) : s.Rewriting := by
  obtain ⟨operation, before, calls, events, outcome, after, performed⟩ := s
  cases performed_of_runs performed with
  | @tryLoad _ _ _ _ answer _ h =>
    have hAttempt := attempt_of_runs h
    rcases answer with cause | _
    · exact .forgets trivial hAttempt.savedEntry_of_error hAttempt.apart
    · obtain ⟨words, hSaved, hCalls⟩ := hAttempt.exchanges
      exact .hooks ⟨_, .inl rfl, h⟩ hSaved hCalls
  | @load _ _ _ _ answer _ h =>
    have hAttempt := attempt_of_runs h
    rcases answer with cause | _
    · exact .forgets trivial hAttempt.savedEntry_of_error hAttempt.apart
    · obtain ⟨words, hSaved, hCalls⟩ := hAttempt.exchanges
      exact .hooks ⟨_, .inr rfl, h⟩ hSaved hCalls
  | setForced forced => exact .keeps id rfl (List.forall_mem_nil _)
  | unhooked guest h => exact .keeps id rfl (List.forall_mem_nil _)
  | unrestored hSaved h => exact .keeps id rfl h.apart
  | restored hSaved h => exact .restores rfl hSaved rfl h.puts
  | guestExit => exact .forgets trivial rfl (apart_releaseCalls _)

theorem Step.Attaches.releases (h : step.Attaches guest) : step.operation.Releases := by
  obtain ⟨homebrew, hOperation | hOperation, _⟩ := h
  · rw [hOperation]
    trivial
  · rw [hOperation]
    trivial

theorem Step.Attaches.unique (h : step.Attaches guest) (hOther : step.Attaches other) :
    guest = other := by
  obtain ⟨_, hOperation, _⟩ := h
  obtain ⟨_, hAgain, _⟩ := hOther
  grind

/-! ## Which guest is hooked -/

theorem cases_of_snoc_eq {earlier later : List Step} {s : Step}
    (h : steps ++ [step] = earlier ++ s :: later) :
    (steps = earlier ∧ step = s) ∨ ∃ rest, steps = earlier ++ s :: rest ∧ later = rest ++ [step] := by
  rcases List.eq_nil_or_concat later with rfl | ⟨rest, last, rfl⟩
  · obtain ⟨hSteps, hLast⟩ := List.append_inj' h rfl
    exact .inl ⟨hSteps, List.singleton_inj.mp hLast⟩
  · rw [List.concat_eq_append, ← List.cons_append, ← List.append_assoc] at h
    obtain ⟨hSteps, hLast⟩ := List.append_inj' h rfl
    rw [List.concat_eq_append, hLast]
    exact .inr ⟨rest, hSteps, rfl⟩

theorem attachedTo_snoc_iff : AttachedTo (steps ++ [step]) guest ↔
    step.Attaches guest ∨ (¬ step.operation.Releases ∧ AttachedTo steps guest) := by
  constructor
  · rintro ⟨earlier, attaching, later, hSplit, hAttaches, hLater⟩
    rcases cases_of_snoc_eq hSplit with ⟨rfl, rfl⟩ | ⟨rest, hSteps, rfl⟩
    · exact .inl hAttaches
    · obtain ⟨hRest, hLast⟩ := List.forall_mem_append.mp hLater
      exact .inr ⟨hLast step List.mem_cons_self, earlier, attaching, rest, hSteps, hAttaches, hRest⟩
  · rintro (hAttaches | ⟨hKeeps, hAttached⟩)
    · exact hAttaches.attachedTo steps
    · exact hAttached.snoc hKeeps

theorem AttachedTo.unique (h : AttachedTo steps guest) (hOther : AttachedTo steps other) :
    guest = other := by
  induction steps using List.reverseRecOn with
  | nil =>
    obtain ⟨_, _, _, hNil, _⟩ := h
    simp at hNil
  | append_singleton steps step ih =>
    rcases attachedTo_snoc_iff.mp h with hAttaches | ⟨hKeeps, hAttached⟩
    · rcases attachedTo_snoc_iff.mp hOther with hAgain | ⟨hNever, _⟩
      · exact hAttaches.unique hAgain
      · exact absurd hAttaches.releases hNever
    · rcases attachedTo_snoc_iff.mp hOther with hAgain | ⟨_, hEarlier⟩
      · exact absurd hAgain.releases hKeeps
      · exact ih hAttached hEarlier

/-- Every entry that is restored is that of the guest that is hooked. -/
def Directed (steps : List Step) : Prop :=
  ∀ earlier step later guest, steps = earlier ++ step :: later →
    step.operation = .restoreEntry guest →
      AttachedTo earlier guest ∨ step.before.context.savedEntry = none

/-- The words of a guest were saved when a load began or a guest ended. -/
def Forgotten (steps : List Step) (guest : Guest) : Prop :=
  ∃ earlier step later, steps = earlier ++ step :: later ∧ AttachedTo earlier guest ∧
    step.before.context.savedEntry.isSome ∧ step.operation.Releases

theorem directed_snoc_iff : Directed (steps ++ [step]) ↔
    Directed steps ∧ ∀ guest, step.operation = .restoreEntry guest →
      AttachedTo steps guest ∨ step.before.context.savedEntry = none := by
  constructor
  · intro h
    constructor
    · intro earlier s later guest hSplit
      exact h earlier s (later ++ [step]) guest (by simp [hSplit])
    · intro guest
      exact h steps step [] guest rfl
  · rintro ⟨hSteps, hStep⟩ earlier s later guest hSplit
    rcases cases_of_snoc_eq hSplit with ⟨rfl, rfl⟩ | ⟨rest, hEarlier, _⟩
    · exact hStep guest
    · exact hSteps earlier s rest guest hEarlier

theorem forgotten_snoc_iff : Forgotten (steps ++ [step]) guest ↔
    Forgotten steps guest ∨ (AttachedTo steps guest ∧ step.before.context.savedEntry.isSome ∧
      step.operation.Releases) := by
  constructor
  · rintro ⟨earlier, s, later, hSplit, hForgets⟩
    rcases cases_of_snoc_eq hSplit with ⟨rfl, rfl⟩ | ⟨rest, hEarlier, _⟩
    · exact .inr hForgets
    · exact .inl ⟨earlier, s, rest, hEarlier, hForgets⟩
  · rintro (⟨earlier, s, later, rfl, hForgets⟩ | hForgets)
    · exact ⟨earlier, s, later ++ [step], by simp, hForgets⟩
    · exact ⟨steps, step, [], rfl, hForgets⟩

/-! ## The words that stand and the words that are saved -/

section Kept

variable (config : Config) (word : Guest → UInt32 → UInt32) (steps : List Step) (guest : Guest)

/-- The words of a guest are its own, and the hook once its own were forgotten. -/
def Kept (words : EntryWords) : Prop :=
  (¬ Forgotten steps guest → words = wordsAt (word guest) config.entryAddress) ∧
  (Forgotten steps guest → words = hookWords config.trampoline)

/-- What may be saved while these words stand at the entry of a guest. -/
inductive Entry : Option SavedEntry → EntryWords → Prop where
  | hooked {words : EntryWords} (hAttached : AttachedTo steps guest)
      (hKept : Kept config word steps guest words) :
      Entry (some ⟨config.entryAddress, words⟩) (hookWords config.trampoline)
  | bare {saved : Option SavedEntry} {words : EntryWords}
      (hOff : saved = none ∨ ¬ AttachedTo steps guest) (hKept : Kept config word steps guest words) :
      Entry saved words

end Kept

variable {word now : Guest → UInt32 → UInt32} {words : EntryWords} {saved : SavedEntry}

theorem Kept.of_not_releases (h : Kept config word steps guest words)
    (hKeeps : ¬ step.operation.Releases) : Kept config word (steps ++ [step]) guest words := by
  have hSame : Forgotten (steps ++ [step]) guest ↔ Forgotten steps guest := by
    simp [forgotten_snoc_iff, hKeeps]
  rw [Kept, hSame]
  exact h

/-- When a load begins or a guest ends, what stands at the entry is what is left to keep. -/
theorem Entry.kept_of_releases
    (h : Entry config word steps guest step.before.context.savedEntry words)
    (hReleases : step.operation.Releases) : Kept config word (steps ++ [step]) guest words := by
  generalize hSaved : step.before.context.savedEntry = stored at h
  cases h with
  | hooked hAttached _ =>
    have hForgotten : Forgotten (steps ++ [step]) guest :=
      forgotten_snoc_iff.mpr (.inr ⟨hAttached, by simp [hSaved], hReleases⟩)
    exact ⟨fun hNever => absurd hForgotten hNever, fun _ => rfl⟩
  | bare hOff hKept =>
    have hSame : Forgotten (steps ++ [step]) guest ↔ Forgotten steps guest := by
      rw [forgotten_snoc_iff, hSaved]
      rcases hOff with rfl | hOff
      · simp
      · simp [hOff]
    rw [Kept, hSame]
    exact hKept

theorem Entry.restored (h : Entry config word steps guest (some saved) words)
    (hAttached : AttachedTo steps guest) :
    saved.address = config.entryAddress ∧ Kept config word steps guest saved.words := by
  cases h with
  | hooked _ hKept => exact ⟨rfl, hKept⟩
  | bare hOff _ =>
    rcases hOff with hNone | hOff
    · cases hNone
    · exact absurd hAttached hOff

theorem Entry.bare_of_other (h : Entry config word steps guest (some saved) words)
    (hOther : AttachedTo steps other) (hNe : guest ≠ other) :
    Kept config word steps guest words := by
  cases h with
  | hooked hAttached _ => exact absurd (hAttached.unique hOther) hNe
  | bare _ hKept => exact hKept

theorem Entry.snoc (h : Entry config word steps guest step.before.context.savedEntry words)
    (hKeeps : ¬ step.operation.Releases)
    (hSaved : step.after.context.savedEntry = step.before.context.savedEntry) :
    Entry config word (steps ++ [step]) guest step.after.context.savedEntry words := by
  rw [hSaved]
  generalize step.before.context.savedEntry = stored at h
  cases h with
  | hooked hAttached hKept => exact .hooked (hAttached.snoc hKeeps) (hKept.of_not_releases hKeeps)
  | bare hOff hKept =>
    refine .bare (hOff.imp_right fun hNever hAttached => hNever ?_) (hKept.of_not_releases hKeeps)
    rcases attachedTo_snoc_iff.mp hAttached with hAttaches | ⟨_, hBefore⟩
    · exact absurd hAttaches.releases hKeeps
    · exact hBefore

theorem Step.entry (hConfig : step.before.config = config)
    (hEntry : ∀ guest, Entry config word steps guest step.before.context.savedEntry
      (wordsAt (now guest) config.entryAddress))
    (hTruthful : (unseen now).Truthful step.calls)
    (hDirected : ∀ guest, step.operation = .restoreEntry guest →
      AttachedTo steps guest ∨ step.before.context.savedEntry = none) :
    ∃ later, (unseen now).after step.calls = unseen later ∧
      ∀ guest, Entry config word (steps ++ [step]) guest step.after.context.savedEntry
        (wordsAt (later guest) config.entryAddress) := by
  subst hConfig
  cases step.rewriting with
  | @hooks target words hAttaches hSaved hCalls =>
    refine ⟨_, hCalls.puts now, ?_⟩
    intro guest
    -- The load began by forgetting, so what it found is all that is left to keep.
    have hKept := (hEntry guest).kept_of_releases hAttaches.releases
    have hTarget := hAttaches.attachedTo steps
    by_cases hGuest : guest = target
    · subst hGuest
      rw [hSaved, Function.update_self, wordsAt_putWords, (hCalls.truthful now).mp hTruthful]
      exact .hooked hTarget hKept
    · rw [Function.update_of_ne hGuest]
      exact .bare (.inr fun hAttached => hGuest (hAttached.unique hTarget)) hKept
  | @restores target saved hOperation hSaved hNone hCalls =>
    have hKeeps : ¬ step.operation.Releases := by
      rw [hOperation]
      exact id
    -- What is written is what was saved, and that was kept for this guest.
    have hTarget : AttachedTo steps target :=
      (hDirected target hOperation).resolve_right (by simp [hSaved])
    rw [hSaved] at hEntry
    obtain ⟨hAddress, hWords⟩ := (hEntry target).restored hTarget
    refine ⟨_, hCalls now, ?_⟩
    intro guest
    by_cases hGuest : guest = target
    · subst hGuest
      rw [Function.update_self, hAddress, wordsAt_putWords]
      exact .bare (.inl hNone) (hWords.of_not_releases hKeeps)
    · rw [Function.update_of_ne hGuest]
      exact .bare (.inl hNone) (((hEntry guest).bare_of_other hTarget hGuest).of_not_releases hKeeps)
  | forgets hReleases hNone hCalls =>
    refine ⟨now, after_of_apart hCalls _, ?_⟩
    intro guest
    exact .bare (.inl hNone) ((hEntry guest).kept_of_releases hReleases)
  | keeps hKeeps hSaved hCalls =>
    refine ⟨now, after_of_apart hCalls _, ?_⟩
    intro guest
    exact (hEntry guest).snoc hKeeps hSaved

theorem callsOf_truthful_snoc_iff {m : Memory} : m.Truthful (callsOf (steps ++ [step])) ↔
    m.Truthful (callsOf steps) ∧ (m.after (callsOf steps)).Truthful step.calls := by
  rw [callsOf_snoc, truthful_append_iff]

theorem History.entry (h : History config steps l)
    (hTruthful : (unseen word).Truthful (callsOf steps)) (hDirected : Directed steps) :
    ∃ now, (unseen word).after (callsOf steps) = unseen now ∧
      ∀ guest, Entry config word steps guest l.context.savedEntry
        (wordsAt (now guest) config.entryAddress) := by
  induction h with
  | new =>
    refine ⟨word, rfl, ?_⟩
    intro guest
    refine .bare (.inl rfl) ⟨fun _ => rfl, ?_⟩
    rintro ⟨_, _, _, hNil, _⟩
    simp at hNil
  | next step hHistory ih =>
    obtain ⟨hBefore, hStep⟩ := callsOf_truthful_snoc_iff.mp hTruthful
    obtain ⟨hEarlier, hLast⟩ := directed_snoc_iff.mp hDirected
    obtain ⟨now, hNow, hEntry⟩ := ih hBefore hEarlier
    rw [hNow] at hStep
    rw [callsOf_snoc, after_append, hNow]
    exact step.entry hHistory.settled.sameConfig hEntry hStep hLast

/-! ## What a load found -/

/-- The guest is hooked, and these are the words that stood at its entry when that load began. -/
def Found (config : Config) (word : Guest → UInt32 → UInt32) (steps : List Step) (guest : Guest)
    (saved : SavedEntry) : Prop :=
  ∃ earlier attaching later, steps = earlier ++ attaching :: later ∧ attaching.Attaches guest ∧
    (∀ s ∈ later, ¬ s.operation.Releases) ∧
    saved = ⟨config.entryAddress,
      wordsAt (((unseen word).after (callsOf earlier)).word guest) config.entryAddress⟩

theorem Found.attachedTo (h : Found config word steps guest saved) : AttachedTo steps guest := by
  obtain ⟨earlier, attaching, later, hSteps, hAttaches, hLater, _⟩ := h
  exact ⟨earlier, attaching, later, hSteps, hAttaches, hLater⟩

theorem Found.snoc (h : Found config word steps guest saved) (hKeeps : ¬ step.operation.Releases) :
    Found config word (steps ++ [step]) guest saved := by
  obtain ⟨earlier, attaching, later, rfl, hAttaches, hLater, hSaved⟩ := h
  refine ⟨earlier, attaching, later ++ [step], by simp, hAttaches, ?_, hSaved⟩
  exact List.forall_mem_append.mpr ⟨hLater, List.forall_mem_singleton.mpr hKeeps⟩

theorem exists_after_callsOf (word : Guest → UInt32 → UInt32) (steps : List Step) :
    ∃ now, (unseen word).after (callsOf steps) = unseen now := by
  induction steps using List.reverseRecOn with
  | nil => exact ⟨word, rfl⟩
  | append_singleton steps step ih =>
    obtain ⟨now, hNow⟩ := ih
    rw [callsOf_snoc, after_append, hNow]
    cases step.rewriting with
    | hooks _ _ hCalls => exact ⟨_, hCalls.puts now⟩
    | restores _ _ _ hCalls => exact ⟨_, hCalls now⟩
    | forgets _ _ hCalls => exact ⟨now, after_of_apart hCalls _⟩
    | keeps _ _ hCalls => exact ⟨now, after_of_apart hCalls _⟩

theorem History.found (h : History config steps l)
    (hTruthful : (unseen word).Truthful (callsOf steps))
    (hSaved : l.context.savedEntry = some saved) : ∃ guest, Found config word steps guest saved := by
  induction h with
  | new => cases hSaved
  | @next steps step hHistory ih =>
    obtain ⟨hBefore, hStep⟩ := callsOf_truthful_snoc_iff.mp hTruthful
    cases step.rewriting with
    | @hooks guest words hAttaches hSome hCalls =>
      obtain ⟨now, hNow⟩ := exists_after_callsOf word steps
      rw [hNow, hCalls.truthful] at hStep
      refine ⟨guest, steps, step, [], rfl, hAttaches, List.forall_mem_nil _, ?_⟩
      rw [hNow, ← Option.some.inj (hSome.symm.trans hSaved), hHistory.settled.sameConfig, hStep,
        hHistory.settled.sameConfig]
      rfl
    | restores _ _ hNone => cases hNone.symm.trans hSaved
    | forgets _ hNone => cases hNone.symm.trans hSaved
    | keeps hKeeps hSame =>
      obtain ⟨guest, hFound⟩ := ih hBefore (hSame.symm.trans hSaved)
      exact ⟨guest, hFound.snoc hKeeps⟩

def Operation.guest? : Operation → Option Guest
  | .tryLoad guest _ => some guest
  | .load guest _ => some guest
  | .restoreEntry guest => some guest
  | .setForced _ => none
  | .guestExit => none

theorem Step.Attaches.guest?_eq (h : step.Attaches guest) : step.operation.guest? = some guest := by
  obtain ⟨_, hOperation | hOperation, _⟩ := h
  · rw [hOperation]
    rfl
  · rw [hOperation]
    rfl

/-- Where there is one guest only, every entry that is restored is that of the hooked guest. -/
theorem History.directed (h : History config steps l)
    (hTruthful : (unseen word).Truthful (callsOf steps))
    (hOne : ∀ s ∈ steps, ∀ other ∈ s.operation.guest?, other = guest) : Directed steps := by
  induction h with
  | new =>
    intro _ _ _ _ hNil
    simp at hNil
  | @next steps step hHistory ih =>
    obtain ⟨hBefore, _⟩ := callsOf_truthful_snoc_iff.mp hTruthful
    obtain ⟨hSteps, hStep⟩ := List.forall_mem_append.mp hOne
    refine directed_snoc_iff.mpr ⟨ih hBefore hSteps, ?_⟩
    intro target hOperation
    obtain rfl := List.forall_mem_singleton.mp hStep target (by simp [hOperation, Operation.guest?])
    cases hSaved : step.before.context.savedEntry with
    | none => exact .inr rfl
    | some saved =>
      obtain ⟨hooked, hFound⟩ := hHistory.found hBefore hSaved
      obtain ⟨earlier, attaching, later, rfl, hAttaches, _⟩ := hFound.attachedTo
      obtain rfl := hSteps attaching (by simp) hooked hAttaches.guest?_eq
      exact .inl hFound.attachedTo

/-- What is saved is what a load found at the entry of its guest, and restoring that entry puts it back.
These are the guest's own words, as long as no load began and no guest ended while its words were saved.
Once that happened the hook is what is saved. -/
theorem saved_words_of_history (h : History config steps l)
    (hTruthful : (unseen word).Truthful (callsOf steps))
    (hSaved : l.context.savedEntry = some saved) :
    ∃ guest, Found config word steps guest saved ∧
      (Directed steps →
        (¬ Forgotten steps guest → saved.words = wordsAt (word guest) config.entryAddress) ∧
        (Forgotten steps guest → saved.words = hookWords config.trampoline)) ∧
      ∀ s : Step, s.before = l → s.Restores guest →
        wordsAt (((unseen word).after (callsOf steps ++ s.calls)).word guest) config.entryAddress =
          saved.words := by
  obtain ⟨guest, hFound⟩ := h.found hTruthful hSaved
  refine ⟨guest, hFound, ?_, ?_⟩
  · intro hDirected
    obtain ⟨now, _, hEntry⟩ := h.entry hTruthful hDirected
    rw [hSaved] at hEntry
    exact ((hEntry guest).restored hFound.attachedTo).2
  · rintro s rfl hRestores
    obtain ⟨now, hNow⟩ := exists_after_callsOf word steps
    obtain ⟨_, _, _, _, _, _, hAddress⟩ := hFound
    rw [after_append, hNow, (hRestores.written hSaved).2, hAddress]
    simp [unseen]

theorem saved_words_of_one_load :
    ∃ (step : Step) (saved : SavedEntry), History tightConfig [step] step.after ∧
      (unseen addressWords).Truthful (callsOf [step]) ∧
      step.after.context.savedEntry = some saved ∧ saved.words = ⟨0x00100000, 0x00100004⟩ := by
  obtain ⟨calls, events, l', hRuns, hTruthful⟩ := exists_runs_tryLoad_truthful
  let step : Step := ⟨.tryLoad ⟨1⟩ false, _, calls, events, _, l', runs_perform_tryLoad hRuns⟩
  have hHistory : History tightConfig [step] l' := .next step .new
  have hCalls : (unseen addressWords).Truthful (callsOf [step]) := by
    simpa [callsOf, step] using hTruthful
  obtain ⟨words, hSaved, _⟩ := (attempt_of_runs hRuns).exchanges
  obtain ⟨guest, hFound, hWords, _⟩ := saved_words_of_history hHistory hCalls hSaved
  refine ⟨step, _, hHistory, hCalls, hSaved, ?_⟩
  have hOne : ∀ s ∈ [step], ∀ other ∈ s.operation.guest?, other = ⟨1⟩ := by
    simp [step, Operation.guest?]
  -- At the one load nothing was saved yet, so it forgot nothing.
  have hKept : ¬ Forgotten [step] guest := by
    rintro ⟨earlier, s, later, hSplit, hAttached, _⟩
    have hSnoc : [] ++ [step] = earlier ++ s :: later := hSplit
    rcases cases_of_snoc_eq hSnoc with ⟨rfl, rfl⟩ | ⟨rest, hNil, _⟩
    · obtain ⟨_, _, _, hNil, _⟩ := hAttached
      simp at hNil
    · simp at hNil
  exact (hWords (hHistory.directed hCalls hOne)).1 hKept

set_option maxRecDepth 100000 in
theorem exists_hook_saved :
    ∃ (steps : List Step) (l : Loader), History tightConfig steps l ∧
      (unseen addressWords).Truthful (callsOf steps) ∧ l.context.savedEntry =
        some ⟨tightConfig.entryAddress, hookWords tightConfig.trampoline⟩ := by
  have hValue : ((((tryLoad ⟨1⟩ false).run (.new tightConfig)).bind fun r =>
      (tryLoad ⟨1⟩ false).run r.2).performance grantingHost []).result.map (·.2.context.savedEntry) =
        some (some ⟨tightConfig.entryAddress, hookWords tightConfig.trampoline⟩) := by
    decide +kernel
  obtain ⟨calls, events, ⟨answer, l'⟩, hRuns, hSaved, hAnswered⟩ := exists_runs_answeredBy _ [] hValue
  obtain ⟨⟨_, l⟩, _, _, _, _, hFirst, hSecond, rfl, _⟩ := (tryLoad_total _ _ _).runs_bind_iff.mp hRuns
  let first : Step := ⟨_, _, _, _, _, l, runs_perform_tryLoad hFirst⟩
  let second : Step := ⟨_, l, _, _, _, l', runs_perform_tryLoad hSecond⟩
  have hTruthful : (unseen addressWords).Truthful _ := truthful_of_answeredBy hAnswered
  refine ⟨[first, second], l', .next second (.next first .new), ?_, hSaved⟩
  simpa [callsOf, first, second] using hTruthful

/-- A guest that is loaded twice in a row has the hook saved in the place of its own words. -/
theorem not_saved_words_ne_hook :
    ¬ ∀ (config : Config) (steps : List Step) (l : Loader) (word : Guest → UInt32 → UInt32)
      (saved : SavedEntry), History config steps l → (unseen word).Truthful (callsOf steps) →
      (∀ guest, wordsAt (word guest) config.entryAddress ≠ hookWords config.trampoline) →
      l.context.savedEntry = some saved → saved.words ≠ hookWords config.trampoline := by
  intro h
  obtain ⟨steps, l, hHistory, hTruthful, hSaved⟩ := exists_hook_saved
  refine h _ _ _ _ _ hHistory hTruthful ?_ hSaved rfl
  intro guest
  change wordsAt (fun address => address) tightConfig.entryAddress ≠ hookWords tightConfig.trampoline
  decide

end GuestPlugin.Loader
