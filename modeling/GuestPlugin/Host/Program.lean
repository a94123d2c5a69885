import GuestPlugin.Event
import GuestPlugin.Host.Call

/-! # Programs over a host

A program is the tree of the calls it makes, in which each answer selects the rest. It performs
nothing by itself: `run` performs it with a given host.

`abort` is an access outside a block. It is no failure that a caller sees, and a program that reaches
it makes no further call.
-/

set_option autoImplicit false

namespace GuestPlugin

inductive Program (α : Type) where
  | done (a : α)
  | call (c : HostCall) (rest : c.Answer → Program α)
  | emit (e : Event) (rest : Program α)
  | abort

namespace Program

variable {α β : Type}

def bind : Program α → (α → Program β) → Program β
  | .done a, f => f a
  | .call c rest, f => .call c fun answer => (rest answer).bind f
  | .emit e rest, f => .emit e (rest.bind f)
  | .abort, _ => .abort

instance : Monad Program where
  pure := .done
  bind := bind

theorem bind_done (p : Program α) : p.bind .done = p := by
  induction p with
  | done => rfl
  | call c rest ih => simp only [bind, ih]
  | emit e rest ih => simp only [bind, ih]
  | abort => rfl

theorem bind_assoc {γ : Type} (p : Program α) (f : α → Program β) (g : β → Program γ) :
    (p.bind f).bind g = p.bind fun a => (f a).bind g := by
  induction p with
  | done => rfl
  | call c rest ih => simp only [bind, ih]
  | emit e rest ih => simp only [bind, ih]
  | abort => rfl

instance : LawfulMonad Program :=
  LawfulMonad.mk' Program bind_done (fun _ _ => rfl) bind_assoc

def ask (c : HostCall) : Program c.Answer := .call c .done

def report (e : Event) : Program Unit := .emit e (.done ())

/-- Goes on with a value, or aborts where there is none. -/
def ofOption : Option α → Program α
  | some a => .done a
  | none => .abort

/-- Performs a program with a host that answers its calls and takes its events. -/
def run {m : Type → Type} [Monad m] (answer : (c : HostCall) → m c.Answer) (take : Event → m Unit) :
    Program α → m (Option α)
  | .done a => pure (some a)
  | .call c rest => do
    let a ← answer c
    run answer take (rest a)
  | .emit e rest => do
    take e
    run answer take rest
  | .abort => pure none

end Program
end GuestPlugin
