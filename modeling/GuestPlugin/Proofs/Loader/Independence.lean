import GuestPlugin.Proofs.Host.Oracle
import GuestPlugin.Proofs.Loader.Lifecycle

/-! # Loads that do not depend on what was before

A load forgets the context first, so of the past it knows the forced load and the region that is still
held. It never looks at that region: until it reserves its own, or fails, the old one is carried along, and
then it is given back. Whatever the past was, a load does what it does on a new loader, apart from that.
-/

set_option autoImplicit false

namespace GuestPlugin

open Program

namespace Program

variable {α β : Type}

/-- Runs of the first program are runs of the second, but for the giving back of what was held. What is
reported may differ. -/
def Sheds (held : Option Region) (p q : Program α) : Prop :=
  ∀ ⦃calls : List Exchange⦄ ⦃events : List Event⦄ ⦃result : Option α⦄, Runs p calls events result →
    ∃ before later reported, calls = before ++ Reservation.releaseCalls held ++ later ∧
      Runs q (before ++ later) reported result

variable {held : Option Region}

theorem Sheds.emit {p q : Program α} (h : Sheds held p q) (e : Event) :
    Sheds held (.emit e p) (.emit e q) := by
  intro calls events result hRuns
  obtain ⟨_, rfl, hRest⟩ := runs_emit_iff.mp hRuns
  obtain ⟨before, later, reported, hCalls, hOther⟩ := h hRest
  exact ⟨before, later, e :: reported, hCalls, .emit e hOther⟩

theorem Sheds.bind {p : Program α} (hTotal : Total p) {f g : α → Program β}
    (h : ∀ a, Sheds held (f a) (g a)) : Sheds held (p.bind f) (p.bind g) := by
  intro calls events result hRuns
  obtain ⟨a, first, _, told, _, hFirst, hRest, rfl, _⟩ := hTotal.runs_bind_iff.mp hRuns
  obtain ⟨before, later, reported, rfl, hOther⟩ := h a hRest
  refine ⟨first ++ before, later, told ++ reported, by simp, ?_⟩
  rw [List.append_assoc]
  exact hFirst.bind hOther

/-- Giving back what is held, and going on in a way that may report whether there was anything. -/
theorem sheds_release {f : Bool → Program α} {q : Program α}
    (h : ∀ released ⦃calls : List Exchange⦄ ⦃events : List Event⦄ ⦃result : Option α⦄,
      Runs (f released) calls events result → ∃ reported, Runs q calls reported result) :
    Sheds held ((Reservation.release held).bind f) q := by
  intro calls events result hRuns
  obtain ⟨released, _, later, _, _, hRelease, hRest, rfl, _⟩ :=
    (Reservation.release_total held).runs_bind_iff.mp hRuns
  obtain ⟨rfl, _, _⟩ := Reservation.runs_release hRelease
  obtain ⟨reported, hOther⟩ := h released hRest
  exact ⟨[], later, reported, rfl, hOther⟩

end Program

theorem Container.judge_within {kind : HostCall → Prop} (c : Container) (title : TitleId)
    (homebrew : Bool) : Within kind (c.judge title homebrew) := by
  intro calls events result h
  obtain ⟨rfl, _, rfl⟩ := c.runs_judge h
  exact ⟨rfl, List.forall_mem_nil _⟩

theorem Reservation.reserve_eq (held : Option Region) (tier : Tier) (size : UInt32) :
    reserve held tier size = (release held).bind fun _ => reserve none tier size := rfl

namespace Loader

variable {α β : Type} {l : Loader} {guest : Guest} {homebrew : Bool}

/-! ## Stages that do not look at the region -/

/-- A stage that carries along whatever region is held. -/
def Aloof (x : LoadStage α) : Prop :=
  ∀ (l : Loader) (held : Option Region),
    x.run.run (l.holding held) = (x.run.run l).bind fun r => .done (r.1, r.2.holding held)

theorem aloof_identify (guest : Guest) : Aloof (identify guest) := by
  intro l held
  rw [run_identify, run_identify]
  rfl

theorem aloof_openPlugin (title : TitleId) : Aloof (openPlugin title) := by
  intro l held
  rw [run_openPlugin, run_openPlugin]
  change Program.emit _ _ = Program.emit _ (Program.bind (Program.bind _ _) _)
  rw [bind_assoc]
  rfl

theorem aloof_examine (plugin : OpenedPlugin) (title : TitleId) (homebrew : Bool) :
    Aloof (examine plugin title homebrew) := by
  intro l held
  rw [run_examine, run_examine]
  rcases Container.parse plugin.stream with ⟨cause | container, stream⟩
  · rfl
  · change Program.emit _ (Program.emit _ _) =
      Program.emit _ (Program.emit _ (Program.bind (Program.bind _ _) _))
    rw [bind_assoc]
    refine congrArg (Program.emit _ ∘ Program.emit _ ∘ Program.bind _) (funext fun answer => ?_)
    rcases answer with cause | _ <;> rfl

theorem identify_total (guest : Guest) (l : Loader) : Total ((identify guest).run.run l) := by
  rw [run_identify]
  intro calls events result hRuns
  obtain ⟨answer, _, _, hDone⟩ := runs_call_iff.mp hRuns
  obtain ⟨_, _, rfl⟩ := runs_done_iff.mp hDone
  rfl

theorem openPlugin_within (title : TitleId) (l : Loader) :
    Within HostCall.IsStorage ((openPlugin title).run.run l) := by
  rw [run_openPlugin]
  exact within_emit ((l.lookup_within title).bind fun _ => within_done _)

theorem examine_within (plugin : OpenedPlugin) (title : TitleId) (homebrew : Bool) (l : Loader) :
    Within HostCall.IsStorage ((examine plugin title homebrew).run.run l) := by
  rw [run_examine]
  rcases Container.parse plugin.stream with ⟨cause | container, stream⟩
  · exact within_emit (within_done _)
  · refine within_emit (within_emit ((container.judge_within title homebrew).bind fun answer => ?_))
    rcases answer with cause | _
    · exact within_done _
    · exact within_done _

/-! ## What follows the stages -/

/-- Stages after which, at the latest, the region that was held is given back. -/
def Shedding (x : LoadStage Unit) : Prop :=
  ∀ (l : Loader) (held : Option Region),
    Sheds held ((x.run.run (l.holding held)).bind conclude)
      ((x.run.run (l.holding none)).bind conclude)

theorem sheds_conclude_error (cause : LoadError) (l : Loader) (held : Option Region) :
    Sheds held (conclude (.error cause, l.holding held)) (conclude (.error cause, l.holding none)) := by
  refine sheds_release fun released calls events result hRuns => ?_
  obtain ⟨_, _, hReport⟩ := runs_emit_iff.mp hRuns
  obtain ⟨_, _, hDone⟩ := runs_emit_iff.mp hReport
  exact ⟨_, .emit _ (.emit _ hDone)⟩

theorem Shedding.bind {x : LoadStage α} {f : α → LoadStage Unit} (hAloof : Aloof x)
    (hTotal : ∀ l, Total (x.run.run l)) (h : ∀ a, Shedding (f a)) : Shedding (x >>= f) := by
  intro l held
  rw [run_bind, run_bind, hAloof, hAloof, bind_assoc, bind_assoc, bind_assoc, bind_assoc]
  refine Sheds.bind (hTotal l) fun r => ?_
  rcases r with ⟨cause | a, l'⟩
  · -- A stage that failed leaves the region to the end of the attempt.
    exact sheds_conclude_error cause l' held
  · exact h a l' held

theorem shedding_install (title : TitleId) (plugin : OpenedPlugin) (words : ConfigWords)
    (container : Container) (stream : Stream) :
    Shedding (install guest title plugin words container stream) := by
  intro l held
  rw [install, run_bind, run_bind, run_reserve, run_reserve, Reservation.reserve_eq]
  refine Sheds.emit ?_ _
  simp only [bind_assoc]
  exact sheds_release fun _ _ events _ hRuns => ⟨events, hRuns⟩

theorem shedding_load (guest : Guest) (homebrew : Bool) : Shedding (load guest homebrew) := by
  rw [load_eq]
  refine Shedding.bind (aloof_identify guest) (identify_total guest) fun title => ?_
  refine Shedding.bind (aloof_openPlugin title) (fun l => (openPlugin_within title l).total)
    fun opened => ?_
  refine Shedding.bind (aloof_examine opened.1 title homebrew)
    (fun l => (examine_within opened.1 title homebrew l).total) fun read => ?_
  exact shedding_install title opened.1 opened.2 read.1 read.2

/-! ## Loads with and without a past -/

theorem sheds_tryLoad (l : Loader) (guest : Guest) (homebrew : Bool) :
    Sheds l.held ((tryLoad guest homebrew).run l) ((tryLoad guest homebrew).run (l.holding none)) := by
  rw [run_tryLoad, run_tryLoad]
  exact shedding_load guest homebrew l.refreshed l.held

/-- A load on a new loader with the same forced load is one on this loader, were nothing held. -/
theorem run_setForced_tryLoad (l : Loader) (guest : Guest) (homebrew : Bool) :
    (do setForced l.context.forced; tryLoad guest homebrew : LoaderM _).run (.new l.config) =
      (tryLoad guest homebrew).run (l.holding none) := by
  change (tryLoad guest homebrew).run _ = _
  rw [run_tryLoad, run_tryLoad]
  rfl

variable {config : Config} {steps : List Step} {host : Oracle} {past calls calls' : List Exchange}
  {events events' : List Event} {result result' : Option (Except LoadError Unit × Loader)}

/-- An attempt to load does on a loader with a past what it does on a new one with the same forced load.
Where one host answers both, they end with the same answer and leave the same loader, and they make the
same calls, except that the region the first one still held is given back. -/
theorem tryLoad_same_as_new (h : History config steps l)
    (hRuns : Runs ((tryLoad guest homebrew).run l) calls events result)
    (hAnswered : AnsweredBy host past calls)
    (hNew : Runs ((do setForced l.context.forced; tryLoad guest homebrew : LoaderM _).run (.new config))
      calls' events' result')
    (hAnsweredNew : AnsweredBy host past calls') :
    ∃ answer after before later, result = some (answer, after) ∧ result' = some (answer, after) ∧
      calls = before ++ Reservation.releaseCalls l.held ++ later ∧ calls' = before ++ later := by
  obtain ⟨answer, after, rfl, _⟩ := runs_tryLoad hRuns
  obtain ⟨before, later, reported, rfl, hOther⟩ := sheds_tryLoad l guest homebrew hRuns
  rw [← h.settled.sameConfig, run_setForced_tryLoad] at hNew
  have hShed := (answeredBy_release_iff l.held).mp hAnswered
  have hSame := (hOther.eq_performance hShed).symm.trans (hNew.eq_performance hAnsweredNew)
  cases hSame
  exact ⟨answer, after, before, later, rfl, rfl, rfl, rfl⟩

/-- A load that comes after another gives back the region of that one, and differs in nothing else from
a first load. -/
theorem second_load_same_as_first :
    ∃ (step : Step) (region : Region) (host : Oracle) (before later : List Exchange)
      (events events' : List Event) (answer : Except LoadError Unit) (l' : Loader),
      History tightConfig [step] step.after ∧ step.after.held = some region ∧
      Runs ((tryLoad ⟨1⟩ false).run step.after) (before ++ ⟨.free region.toBlock, ()⟩ :: later) events
        (some (answer, l')) ∧
      AnsweredBy host [] (before ++ ⟨.free region.toBlock, ()⟩ :: later) ∧
      Runs ((do setForced step.after.context.forced; tryLoad ⟨1⟩ false : LoaderM _).run
        (.new tightConfig)) (before ++ later) events' (some (answer, l')) ∧
      AnsweredBy host [] (before ++ later) := by
  obtain ⟨calls, events, l, hRuns⟩ := exists_runs_tryLoad_ok
  let step : Step := ⟨_, _, calls, events, _, l, runs_perform_tryLoad hRuns⟩
  have hHistory : History tightConfig [step] l := .next step .new
  have hSome : l.held.isSome := by
    cases attempt_of_runs hRuns with
    | succeeded hCourse => exact hCourse.hooked.1
  obtain ⟨region, hHeld⟩ := Option.isSome_iff_exists.mp hSome
  let host : Oracle := fun _ => onePluginHost (.ok ())
  let second := ((tryLoad ⟨1⟩ false).run l).performance host []
  let first := ((do setForced l.context.forced; tryLoad ⟨1⟩ false : LoaderM _).run
    (.new tightConfig)).performance host []
  have hSecond := runs_performance host [] ((tryLoad ⟨1⟩ false).run l)
  have hFirst := runs_performance host []
    ((do setForced l.context.forced; tryLoad ⟨1⟩ false : LoaderM _).run (.new tightConfig))
  have hAnswered : AnsweredBy host [] second.calls := answeredBy_performance host [] _
  have hAnsweredNew : AnsweredBy host [] first.calls := answeredBy_performance host [] _
  obtain ⟨answer, l', before, later, hResult, hSame, hCalls, hRest⟩ :=
    tryLoad_same_as_new hHistory hSecond hAnswered hFirst hAnsweredNew
  have hCalls : second.calls = before ++ ⟨.free region.toBlock, ()⟩ :: later := by
    rw [hHeld, Reservation.releaseCalls, List.append_assoc] at hCalls
    exact hCalls
  refine ⟨step, region, host, before, later, second.events, first.events, answer, l', hHistory, hHeld,
    ?_, hCalls ▸ hAnswered, ?_, hRest ▸ hAnsweredNew⟩
  · rw [← hCalls, ← hResult]
    exact hSecond
  · rw [← hRest, ← hSame]
    exact hFirst

end Loader
end GuestPlugin
