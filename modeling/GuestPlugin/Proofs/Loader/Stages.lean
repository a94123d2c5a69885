import GuestPlugin.Loader
import GuestPlugin.Proofs.Container.Reading
import GuestPlugin.Proofs.Host.Inversion

/-! # The stages of a load as programs

A stage that is performed from a given loader is a program without hidden state. Each stage has one
equation, which says what it asks and reports and which loader it leaves, on success and on failure.
-/

set_option autoImplicit false

namespace GuestPlugin.Loader

open Program

variable {α β : Type} (l : Loader)

theorem run_bind (x : LoadStage α) (f : α → LoadStage β) :
    (x >>= f).run.run l = (x.run.run l).bind fun r =>
      match r.1 with
      | .ok a => (f a).run.run r.2
      | .error cause => .done (.error cause, r.2) := by
  rw [ExceptT.run_bind, StateT.run_bind]
  refine congrArg (Program.bind _) (funext fun r => ?_)
  rcases r with ⟨cause | a, l'⟩ <;> rfl

theorem run_liftState_bind (x : LoaderM α) (f : α → LoadStage β) :
    ((liftM x : LoadStage α) >>= f).run.run l = (x.run l).bind fun r => (f r.1).run.run r.2 := by
  rw [run_bind]
  exact bind_assoc _ _ _

theorem run_lift_bind (p : Program α) (f : α → LoadStage β) :
    ((liftM p : LoadStage α) >>= f).run.run l = p.bind fun a => (f a).run.run l := by
  change ((liftM (liftM p : LoaderM α) : LoadStage α) >>= f).run.run l = _
  rw [run_liftState_bind]
  exact bind_assoc _ _ _

theorem run_get_bind (f : Loader → LoadStage β) :
    ((get : LoadStage Loader) >>= f).run.run l = (f l).run.run l := rfl

theorem run_set_bind (l' : Loader) (f : PUnit → LoadStage β) :
    ((set l' : LoadStage PUnit) >>= f).run.run l = (f ⟨⟩).run.run l' := rfl

theorem run_modify_bind (g : Loader → Loader) (f : PUnit → LoadStage β) :
    ((modify g : LoadStage PUnit) >>= f).run.run l = (f ⟨⟩).run.run (g l) := rfl

theorem run_orFail {ε : Type} (cause : ε → LoadError) (r : Except ε α) :
    (orFail cause r).run.run l = .done (r.mapError cause, l) := by
  cases r <;> rfl

def inState (state : LoadState) : Loader := { l with context := { l.context with state } }

theorem run_moveTo_bind (state : LoadState) (f : Unit → LoadStage β) :
    ((liftM (moveTo state) : LoadStage Unit) >>= f).run.run l =
      .emit (.stateChanged l.context.state state) ((f ()).run.run (l.inState state)) := rfl

theorem run_modifyContext_bind (g : Context → Context) (f : Unit → LoadStage β) :
    ((liftM (modifyContext g) : LoadStage Unit) >>= f).run.run l =
      (f ()).run.run { l with context := g l.context } := rfl

theorem run_identify (guest : Guest) :
    (identify guest).run.run l = .call (.titleOf guest) fun answer =>
      .done (answer.mapError (.resource ∘ .unknownGuest), l) := by
  rw [identify, run_lift_bind]
  exact congrArg (Program.call _) (funext fun answer => run_orFail l _ answer)

/-- The forced load that applies to a title. -/
def forcedFor (title : TitleId) : Option ForcedLoad := (Context.takeForced title l.context.forced).1

def lookup (title : TitleId) : Program (Except LookupError OpenedPlugin) :=
  match l.forcedFor title with
  | some forced => Lookup.openForced forced.path
  | none => Lookup.openPlugin l.config title

/-- The configuration words of the forced load that applies, zeros if there is none. -/
def wordsFor (title : TitleId) : ConfigWords :=
  (l.forcedFor title).elim (Vector.replicate 32 0) (·.words)

def resolving (title : TitleId) : Loader :=
  { l with
    context := { l.context with
      state := .resolving
      forced := (Context.takeForced title l.context.forced).2
      strategy := (l.forcedFor title).elim l.context.strategy (·.strategy) } }

theorem takeForced_of_none {title : TitleId} {forced : Option ForcedLoad}
    (h : (Context.takeForced title forced).1 = none) :
    (Context.takeForced title forced).2 = forced := by
  revert h
  fun_cases Context.takeForced title forced <;> simp

theorem run_openPlugin (title : TitleId) :
    (openPlugin title).run.run l = .emit (.stateChanged l.context.state .resolving)
      ((l.lookup title).bind fun answer =>
        .done ((answer.map (·, l.wordsFor title)).mapError .lookup, l.resolving title)) := by
  rw [openPlugin, run_moveTo_bind, run_get_bind]
  change Program.emit _ ((match (Context.takeForced title l.context.forced).1 with
    | some forced => _
    | none => _ : LoadStage (OpenedPlugin × ConfigWords)).run.run (l.inState .resolving)) = _
  cases hForced : (Context.takeForced title l.context.forced).1 with
  | none =>
    have hFor : l.forcedFor title = none := hForced
    have hResolving : l.resolving title = l.inState .resolving := by
      rw [resolving, hFor, takeForced_of_none hForced]
      rfl
    dsimp only
    rw [run_lift_bind, lookup, hFor, hResolving]
    refine congrArg (Program.emit _ ∘ Program.bind _) (funext fun answer => ?_)
    rw [run_bind, run_orFail, wordsFor, hFor]
    cases answer <;> rfl
  | some forced =>
    have hFor : l.forcedFor title = some forced := hForced
    dsimp only
    rw [run_modifyContext_bind, run_lift_bind, lookup, hFor]
    refine congrArg (Program.emit _ ∘ Program.bind _) (funext fun answer => ?_)
    rw [run_bind, run_orFail, wordsFor, resolving, hFor]
    cases answer <;> rfl

def parsing (plugin : OpenedPlugin) : Loader :=
  { l with
    context := { l.context with
      state := .parsing
      pluginPath := some plugin.path
      isDefault := plugin.isDefault } }

def admitting (container : Container) : Loader :=
  { l with context := l.context.admitted container }

theorem run_examine (plugin : OpenedPlugin) (title : TitleId) (homebrew : Bool) :
    (examine plugin title homebrew).run.run l = .emit (.stateChanged l.context.state .parsing)
      (match Container.parse plugin.stream with
      | (.error cause, _) => .done (.error (.format cause), l.parsing plugin)
      | (.ok container, stream) => .emit (.stateChanged .parsing .checking)
          ((container.judge title homebrew).bind fun answer =>
            match answer with
            | .error cause => .done (.error (.admission cause), (l.parsing plugin).inState .checking)
            | .ok () => .done (.ok (container, stream),
                ((l.parsing plugin).inState .checking).admitting container))) := by
  rw [examine, run_modifyContext_bind, run_moveTo_bind, Container.parse, Reading.outcome]
  refine congrArg (Program.emit _) ?_
  generalize (Container.read.run.run plugin.stream).run = parsed
  rcases parsed with ⟨cause | container, stream⟩
  · rfl
  · dsimp only
    rw [run_bind, run_orFail]
    change ((liftM (moveTo .checking) : LoadStage Unit) >>= _).run.run (l.parsing plugin) = _
    rw [run_moveTo_bind, run_lift_bind]
    refine congrArg (Program.emit _ ∘ Program.bind _) (funext fun answer => ?_)
    rw [run_bind, run_orFail]
    rcases answer with cause | _ <;> rfl

def holding (held : Option Region) : Loader := { l with held }

theorem run_reserve (tier : Tier) :
    (reserve tier).run.run l = .emit (.stateChanged l.context.state .allocating)
      ((Reservation.reserve l.held tier (l.config.tierSize tier)).bind fun answer =>
        match answer with
        | .error cause => .done (.error (.resource cause), (l.inState .allocating).holding none)
        | .ok region => .done (.ok region, (l.inState .allocating).holding (some region))) := by
  rw [reserve, run_moveTo_bind, run_get_bind, run_set_bind, run_lift_bind]
  refine congrArg (Program.emit _ ∘ Program.bind _) (funext fun answer => ?_)
  rw [run_bind, run_orFail]
  cases answer <;> rfl

theorem run_stage (container : Container) (region : Region) (stream : Stream) :
    (stage container region stream).run.run l = .emit (.stateChanged l.context.state .staging)
      ((stageInto container region stream).bind fun answer =>
        .done ((answer.1.map (·, answer.2)).mapError .image,
          (l.inState .staging).holding (some answer.2))) := by
  rw [stage, run_moveTo_bind, run_lift_bind]
  refine congrArg (Program.emit _ ∘ Program.bind _) (funext fun answer => ?_)
  rcases answer with ⟨result, region⟩
  dsimp only
  rw [run_modify_bind, run_bind, run_orFail]
  cases result <;> rfl

def hooking (saved : SavedEntry) : Loader :=
  { l with context := { l.context with savedEntry := some saved } }

theorem run_attachTo (guest : Guest) (region : Region) (block : ControlBlock) :
    (attachTo guest region block).run.run l = .emit (.stateChanged l.context.state .attaching)
      ((attach l.config guest region block).bind fun answer =>
        match answer.1 with
        | .error cause =>
          .done (.error (.resource cause), (l.inState .attaching).holding (some answer.2))
        | .ok saved =>
          .done (.ok (), ((l.inState .attaching).holding (some answer.2)).hooking saved)) := by
  rw [attachTo, run_moveTo_bind, run_get_bind, run_lift_bind]
  refine congrArg (Program.emit _ ∘ Program.bind _) (funext fun answer => ?_)
  rcases answer with ⟨result, region⟩
  dsimp only
  rw [run_modify_bind, run_bind, run_orFail]
  cases result <;> rfl

end GuestPlugin.Loader
