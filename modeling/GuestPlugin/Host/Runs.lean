import GuestPlugin.Host.Program

/-! # What may happen when a program is performed

`Runs` says which calls a program may make, and with what end, over all answers that a host may give.
Calls and events are listed apart. A program that is performed by a host takes one of its runs, and a
sequence of two programs runs as the first and then the second, unless the first aborts.
-/

set_option autoImplicit false

namespace GuestPlugin.Program

variable {α β : Type}

/-- A call together with the answer it got. -/
abbrev Exchange := Σ c : HostCall, c.Answer

/-- A program may make these calls with these answers, report these events, and end with this value,
or with none if it aborts. -/
inductive Runs : Program α → List Exchange → List Event → Option α → Prop where
  | done (a : α) : Runs (.done a) [] [] (some a)
  | call {c : HostCall} {rest : c.Answer → Program α} {calls : List Exchange} {events : List Event}
      {result : Option α} (answer : c.Answer) :
      Runs (rest answer) calls events result → Runs (.call c rest) (⟨c, answer⟩ :: calls) events result
  | emit {rest : Program α} {calls : List Exchange} {events : List Event} {result : Option α}
      (e : Event) : Runs rest calls events result → Runs (.emit e rest) calls (e :: events) result
  | abort : Runs .abort [] [] none

variable {calls : List Exchange} {events : List Event}

theorem runs_pure_iff {a : α} {result : Option α} :
    Runs (pure a) calls events result ↔ calls = [] ∧ events = [] ∧ result = some a := by
  constructor
  · intro h
    cases h
    exact ⟨rfl, rfl, rfl⟩
  · rintro ⟨rfl, rfl, rfl⟩
    exact .done a

theorem runs_abort_iff {result : Option α} :
    Runs .abort calls events result ↔ calls = [] ∧ events = [] ∧ result = none := by
  constructor
  · intro h
    cases h
    exact ⟨rfl, rfl, rfl⟩
  · rintro ⟨rfl, rfl, rfl⟩
    exact .abort

theorem runs_ask_iff {c : HostCall} {result : Option c.Answer} :
    Runs (ask c) calls events result ↔
      ∃ answer, calls = [⟨c, answer⟩] ∧ events = [] ∧ result = some answer := by
  constructor
  · intro h
    cases h with
    | call answer rest =>
      cases rest
      exact ⟨answer, rfl, rfl, rfl⟩
  · rintro ⟨answer, rfl, rfl, rfl⟩
    exact .call answer (.done answer)

theorem runs_report_iff {e : Event} {result : Option Unit} :
    Runs (report e) calls events result ↔ calls = [] ∧ events = [e] ∧ result = some () := by
  constructor
  · intro h
    cases h with
    | emit _ rest =>
      cases rest
      exact ⟨rfl, rfl, rfl⟩
  · rintro ⟨rfl, rfl, rfl⟩
    exact .emit e (.done ())

theorem Runs.bind {p : Program α} {f : α → Program β} {calls' : List Exchange}
    {events' : List Event} {a : α} {result : Option β}
    (first : Runs p calls events (some a)) (second : Runs (f a) calls' events' result) :
    Runs (p >>= f) (calls ++ calls') (events ++ events') result := by
  generalize h : some a = value at first
  induction first with
  | done b => cases h; exact second
  | call answer _ ih => exact .call answer (ih h)
  | emit e _ ih => exact .emit e (ih h)
  | abort => cases h

theorem Runs.bind_none {p : Program α} (f : α → Program β) (first : Runs p calls events none) :
    Runs (p >>= f) calls events none := by
  generalize h : none = value at first
  induction first with
  | done b => cases h
  | call answer _ ih => exact .call answer (ih h)
  | emit e _ ih => exact .emit e (ih h)
  | abort => exact .abort

theorem runs_bind_iff {p : Program α} {f : α → Program β} {result : Option β} :
    Runs (p >>= f) calls events result ↔
      (∃ a calls₁ calls₂ events₁ events₂, Runs p calls₁ events₁ (some a) ∧
        Runs (f a) calls₂ events₂ result ∧ calls = calls₁ ++ calls₂ ∧
        events = events₁ ++ events₂) ∨
      (result = none ∧ Runs p calls events none) := by
  constructor
  · intro h
    induction p generalizing calls events with
    | done a => exact .inl ⟨a, [], calls, [], events, .done a, h, rfl, rfl⟩
    | call c rest ih =>
      cases h with
      | call answer h =>
        rcases ih answer h with ⟨a, c₁, c₂, e₁, e₂, h₁, h₂, rfl, rfl⟩ | ⟨rfl, hn⟩
        · exact .inl ⟨a, _, c₂, e₁, e₂, .call answer h₁, h₂, rfl, rfl⟩
        · exact .inr ⟨rfl, .call answer hn⟩
    | emit e rest ih =>
      cases h with
      | emit _ h =>
        rcases ih h with ⟨a, c₁, c₂, e₁, e₂, h₁, h₂, rfl, rfl⟩ | ⟨rfl, hn⟩
        · exact .inl ⟨a, c₁, c₂, _, e₂, .emit e h₁, h₂, rfl, rfl⟩
        · exact .inr ⟨rfl, .emit e hn⟩
    | abort =>
      cases h
      exact .inr ⟨rfl, .abort⟩
  · rintro (⟨a, c₁, c₂, e₁, e₂, h₁, h₂, rfl, rfl⟩ | ⟨rfl, h⟩)
    · exact h₁.bind h₂
    · exact h.bind_none f

/-- What a host makes of a program is one of its runs. -/
theorem exists_runs {σ : Type} (answer : (c : HostCall) → StateM σ c.Answer)
    (take : Event → StateM σ Unit) (p : Program α) (s : σ) :
    ∃ calls events, Runs p calls events ((p.run answer take).run s).run.1 := by
  induction p generalizing s with
  | done a => exact ⟨[], [], .done a⟩
  | call c rest ih =>
    obtain ⟨calls, events, h⟩ := ih ((answer c).run s).run.1 ((answer c).run s).run.2
    exact ⟨_, events, .call _ h⟩
  | emit e rest ih =>
    obtain ⟨calls, events, h⟩ := ih ((take e).run s).run.2
    exact ⟨calls, _, .emit e h⟩
  | abort => exact ⟨[], [], .abort⟩

end GuestPlugin.Program
