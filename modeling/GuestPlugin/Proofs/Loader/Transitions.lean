import Mathlib.Data.List.Infix
import GuestPlugin.Proofs.Host.Reports
import GuestPlugin.Proofs.Loader.FailedLoad

/-! # The states a load goes through

Every change of state is reported, and the old state in it is the new one of the report before. A load
begins idle and takes the stages in their order; where it ends among them can be told from its answer, and
so can what an operator hears of it.
-/

set_option autoImplicit false

namespace GuestPlugin

open Program

def transitions (events : List Event) : List (LoadState × LoadState) := events.filterMap Event.change?

theorem transitions_of_unchanged {before later : List Event} {e : Event} (he : e.change? = none) :
    transitions (before ++ e :: later) = transitions (before ++ later) := by
  rw [transitions, List.filterMap_append, List.filterMap_cons_none he, ← List.filterMap_append,
    transitions]

namespace LoadState

/-- The changes that lead from a state through these, one after the other. -/
def chain : LoadState → List LoadState → List (LoadState × LoadState)
  | _, [] => []
  | old, new :: rest => (old, new) :: chain new rest

def stages : List LoadState := [.resolving, .parsing, .checking, .allocating, .staging, .attaching]

/-- How far a load came is known from the last stage it entered. -/
theorem eq_of_prefix_stages {states others : List LoadState} (h : states <+: stages)
    (hOthers : others <+: stages) (hLast : states.getLast? = others.getLast?) : states = others := by
  have hFew : ∀ p ∈ stages.inits, ∀ q ∈ stages.inits, p.getLast? = q.getLast? → p = q := by decide
  exact hFew _ ((List.mem_inits _ _).mpr h) _ ((List.mem_inits _ _).mpr hOthers) hLast

end LoadState

/-- The stage that a load leaves when it fails for this cause. A guest that is not known to the kernel is
noticed before the first. -/
def LoadError.stage? : LoadError → Option LoadState
  | .lookup _ => some .resolving
  | .format _ => some .parsing
  | .admission _ => some .checking
  | .image _ => some .staging
  | .resource (.unknownGuest _) => none
  | .resource (.allocationRefused _) => some .allocating
  | .resource (.mappingFailed _) => some .attaching
  | .resource (.entryMappingFailed _) => some .attaching

/-- Events that lead from one state through others to the last of them, with nothing but details between. -/
inductive Passes : LoadState → List LoadState → LoadState → List Event → Prop where
  | done (state : LoadState) : Passes state [] state []
  | change {old new last : LoadState} {states : List LoadState} {events : List Event}
      (h : Passes new states last events) :
      Passes old (new :: states) last (.stateChanged old new :: events)
  | detail {old last : LoadState} {states : List LoadState} {e : Event} {events : List Event}
      (he : e.IsDetail) (h : Passes old states last events) : Passes old states last (e :: events)

namespace Passes

variable {old middle last : LoadState} {states later : List LoadState} {events rest : List Event}

theorem of_details (state : LoadState) (h : ∀ e ∈ events, e.IsDetail) :
    Passes state [] state events := by
  induction events with
  | nil => exact .done state
  | cons e events ih =>
    obtain ⟨he, hRest⟩ := List.forall_mem_cons.mp h
    exact .detail he (ih hRest)

theorem append (h : Passes old states middle events) (hRest : Passes middle later last rest) :
    Passes old (states ++ later) last (events ++ rest) := by
  induction h with
  | done state => exact hRest
  | change _ ih => exact .change (ih hRest)
  | detail he _ ih => exact .detail he (ih hRest)

theorem snoc (h : Passes old states middle events) :
    Passes old (states ++ [last]) last (events ++ [.stateChanged middle last]) :=
  h.append (.change (.done last))

theorem transitions_eq (h : Passes old states last events) :
    transitions events = LoadState.chain old states := by
  induction h with
  | done state => rfl
  | @change old new _ _ _ _ ih => exact congrArg ((old, new) :: ·) ih
  | detail he _ ih =>
    rw [transitions, List.filterMap_cons_none he.unchanged]
    exact ih

theorem unannounced (h : Passes old states last events) :
    ∀ e ∈ events, e.level ≠ .info ∧ e.level ≠ .warn := by
  induction h with
  | done state => exact List.forall_mem_nil _
  | change _ ih => exact List.forall_mem_cons.mpr ⟨⟨nofun, nofun⟩, ih⟩
  | detail he _ ih => exact List.forall_mem_cons.mpr ⟨⟨he.not_info, he.not_warn⟩, ih⟩

theorem count_info (h : Passes old states last events) : events.countP (·.level = .info) = 0 := by
  apply List.countP_eq_zero.mpr
  intro e he
  simpa using (h.unannounced e he).1

theorem count_warn (h : Passes old states last events) : events.countP (·.level = .warn) = 0 := by
  apply List.countP_eq_zero.mpr
  intro e he
  simpa using (h.unannounced e he).2

end Passes

theorem Container.judgeEvents_isDetail (c : Container) (title : TitleId) (homebrew : Bool) :
    ∀ e ∈ c.judgeEvents title homebrew, e.IsDetail := by
  rw [judgeEvents]
  split
  · exact List.forall_mem_singleton.mpr ⟨rfl, by rintro ⟨⟩, by rintro ⟨⟩⟩
  · exact List.forall_mem_nil _

theorem Attach.Course.stage_eq {config : Config} {guest : Guest} {block : Block}
    {calls : List Exchange} {cause : ResourceError}
    (h : Attach.Course config guest block calls (.error cause)) :
    (LoadError.resource cause).stage? = some .attaching := by
  cases h with
  | unprotectRefused code => rfl
  | signalRefused code => rfl
  | mappingRefused code => rfl
  | pageRefused code => rfl

namespace Loader

variable {l l' : Loader} {guest : Guest} {homebrew : Bool} {calls : List Exchange}
  {events : List Event}

theorem lookup_reports (l : Loader) (title : TitleId) :
    Reports Event.IsDetail (l.lookup title) := by
  unfold lookup
  split
  · exact Lookup.openForced_reports _
  · exact Lookup.openPlugin_reports _ _

theorem Opened.passes (o : Opened l) :
    Passes l.context.state [.resolving, .parsing] .parsing o.events :=
  .change (.snoc (.of_details .resolving (lookup_reports l o.title o.found)))

theorem Admitted.passes (a : Admitted l homebrew) :
    Passes l.context.state [.resolving, .parsing, .checking, .allocating] .allocating a.events :=
  a.toOpened.passes.append (.change (.change (.done .allocating)))

theorem Granted.passes (g : Granted l homebrew) :
    Passes l.context.state [.resolving, .parsing, .checking, .allocating, .staging] .staging
      g.events :=
  g.toAdmitted.passes.snoc

theorem Filled.passes (f : Filled l homebrew) :
    Passes l.context.state LoadState.stages .attaching f.events :=
  f.toGranted.passes.append (.detail ⟨rfl, nofun, nofun⟩ (.change (.done .attaching)))

theorem Course.passes_error {cause : LoadError}
    (h : Course l guest homebrew calls events (.error cause) l') :
    ∃ passed, passed <+: LoadState.stages ∧ passed.getLast? = cause.stage? ∧
      Passes l.context.state passed l'.context.state events := by
  cases h with
  | unidentified code => exact ⟨[], List.nil_prefix, rfl, .done _⟩
  | @unopened title _ _ _ hLookup =>
    refine ⟨[.resolving], by decide, rfl, ?_⟩
    exact .change (.of_details .resolving (lookup_reports l title hLookup))
  | unreadable o hParse => exact ⟨[.resolving, .parsing], by decide, rfl, o.passes⟩
  | @refused o container _ _ hParse hAdmission =>
    refine ⟨[.resolving, .parsing, .checking], by decide, rfl, ?_⟩
    exact o.passes.append
      (.change (.of_details .checking (container.judgeEvents_isDetail o.title homebrew)))
  | unreserved a code =>
    refine ⟨[.resolving, .parsing, .checking, .allocating], by decide, rfl, ?_⟩
    exact a.passes.append (.detail ⟨rfl, nofun, nofun⟩ (.done .allocating))
  | unstaged g hStage =>
    exact ⟨[.resolving, .parsing, .checking, .allocating, .staging], by decide, rfl, g.passes⟩
  | unattached r hAttach => exact ⟨LoadState.stages, List.prefix_rfl, hAttach.stage_eq.symm, r.passes⟩

theorem Course.passes_ok (h : Course l guest homebrew calls events (.ok ()) l') :
    ∃ told title path plugin imageSize heapSize,
      events = told ++ [.pluginAttached title path plugin imageSize heapSize] ∧
      Passes l.context.state LoadState.stages l'.context.state told := by
  cases h with
  | attached r hAttach => exact ⟨_, _, _, _, _, _, rfl, r.passes⟩

/-- What the events of a load tell of it, given the stages it entered and its answer. -/
structure Chronicle (events : List Event) (passed : List LoadState) (answer : Except LoadError Unit)
    (last : LoadState) : Prop where
  inOrder : passed <+: LoadState.stages
  unbroken : transitions events = LoadState.chain .idle (passed ++ [last])
  attached : answer = .ok () → passed = LoadState.stages ∧ last = .attached
  failed : ∀ cause, answer = .error cause → passed.getLast? = cause.stage? ∧ last = .failed
  infos : events.countP (·.level = .info) = if answer = .ok () then 1 else 0
  unwarned : answer = .ok () → events.countP (·.level = .warn) = 0
  warned : ∀ cause, answer = .error cause →
    events.countP (·.level = .warn) = if cause.userMessage?.isSome then 1 else 0

theorem count_failureEvent (cause : LoadError) (released : Bool) :
    [failureEvent cause released].countP (·.level = .info) = 0 ∧
      [failureEvent cause released].countP (·.level = .warn) =
        if cause.userMessage?.isSome then 1 else 0 := by
  rw [failureEvent]
  cases cause.userMessage? with
  | none => exact ⟨rfl, rfl⟩
  | some message => exact ⟨rfl, rfl⟩

theorem change?_failureEvent (cause : LoadError) (released : Bool) :
    (failureEvent cause released).change? = none := by
  rw [failureEvent]
  cases cause.userMessage? with
  | none => rfl
  | some message => rfl

/-- Of the reports behind the stages one changes the state, and only the other is meant for an
operator. -/
theorem Attempt.chronicle {answer : Except LoadError Unit}
    (h : Attempt l guest homebrew calls events answer l') :
    ∃ passed, Chronicle events passed answer l'.context.state := by
  cases h with
  | succeeded hCourse =>
    obtain ⟨told, title, path, plugin, imageSize, heapSize, rfl, hPasses⟩ := hCourse.passes_ok
    rw [List.append_assoc]
    refine ⟨LoadState.stages, List.prefix_rfl, ?_, fun _ => ⟨rfl, rfl⟩, nofun, ?_, fun _ => ?_, nofun⟩
    · exact (transitions_of_unchanged rfl).trans hPasses.snoc.transitions_eq
    · rw [List.countP_append, hPasses.count_info]
      rfl
    · rw [List.countP_append, hPasses.count_warn]
      rfl
  | @failed _ reported cause after hCourse =>
    obtain ⟨passed, hPrefix, hStage, hPasses⟩ := hCourse.passes_error
    obtain ⟨hInfo, hWarn⟩ := count_failureEvent cause after.held.isSome
    have hEnd : Passes .idle (passed ++ [.failed]) .failed
        (reported ++ [.stateChanged after.context.state .failed]) := hPasses.snoc
    -- The failure is told behind the last change, so the chain and the counts are those before it.
    rw [List.append_cons]
    refine ⟨passed, hPrefix, ?_, nofun, ?_, ?_, nofun, ?_⟩
    · rw [transitions_of_unchanged (change?_failureEvent cause _), List.append_nil]
      exact hEnd.transitions_eq
    · rintro _ ⟨⟩
      exact ⟨hStage, rfl⟩
    · rw [List.countP_append, hEnd.count_info, hInfo]
      rfl
    · rintro _ ⟨⟩
      rw [List.countP_append, hEnd.count_warn, hWarn, Nat.zero_add]

/-- However an attempt to load ends, its changes of state are an unbroken chain from idle through a first
part of the stages to what it left, its answer tells which part, and one report at most is meant for an
operator. -/
theorem tryLoad_chronicle {result : Option (Except LoadError Unit × Loader)}
    (h : Runs ((tryLoad guest homebrew).run l) calls events result) :
    ∃ answer l' passed, result = some (answer, l') ∧
      Chronicle events passed answer l'.context.state ∧
      ∀ cause, answer = .error cause →
        (cause.userMessage? = none ↔ cause = .admission .homebrewRefused) := by
  obtain ⟨answer, l', rfl, hAttempt⟩ := runs_tryLoad h
  obtain ⟨passed, hChronicle⟩ := hAttempt.chronicle
  exact ⟨answer, l', passed, rfl, hChronicle, fun cause _ => cause.userMessage?_eq_none_iff⟩

/-- A refused entry page is told of once, behind the last of the stages. -/
theorem refused_page_chronicle :
    ∃ calls events l',
      Runs ((tryLoad ⟨1⟩ false).run (.new tightConfig)) calls events
        (some (.error (.resource (.entryMappingFailed ⟨5⟩)), l')) ∧
      transitions events = LoadState.chain .idle (LoadState.stages ++ [.failed]) ∧
      events.countP (·.level = .info) = 0 ∧ events.countP (·.level = .warn) = 1 := by
  obtain ⟨calls, events, l', hRuns⟩ := exists_runs_refused_page
  obtain ⟨answer, after, passed, hResult, hChronicle, _⟩ := tryLoad_chronicle hRuns
  obtain ⟨rfl, rfl⟩ := Prod.mk.inj (Option.some.inj hResult)
  obtain ⟨hStage, hLast⟩ := hChronicle.failed _ rfl
  have hPassed : passed = LoadState.stages :=
    LoadState.eq_of_prefix_stages hChronicle.inOrder List.prefix_rfl hStage
  refine ⟨calls, events, l', hRuns, ?_, hChronicle.infos, hChronicle.warned _ rfl⟩
  rw [hChronicle.unbroken, hPassed, hLast]

end Loader
end GuestPlugin
