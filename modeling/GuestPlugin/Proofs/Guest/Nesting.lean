import GuestPlugin.Proofs.Guest.Memory
import GuestPlugin.Proofs.Guest.WordAccess

/-! # Hooks on top of hooks

A hook may be put where another stands already, or half over it. What it replaces is then a word of that
hook, and to take both back in the reverse order leads through the same states to the words of the
beginning. How far two pairs overlap plays no part in this, since a pair is put back whole and nothing
beside it was touched.
-/

set_option autoImplicit false

namespace GuestPlugin

open Program

namespace Memory

variable {guest : Guest} {address : UInt32} {m m' m'' : Memory}

/-- The same words everywhere but in the pair at this address of a guest. -/
def SameElsewhere (guest : Guest) (address : UInt32) (m m' : Memory) : Prop :=
  ∀ other place, (other ≠ guest ∨ place ≠ address ∧ place ≠ address + 4) →
    m'.word other place = m.word other place

theorem SameElsewhere.refl (m : Memory) : m.SameElsewhere guest address m := fun _ _ _ => rfl

theorem SameElsewhere.trans (h : SameElsewhere guest address m m')
    (h' : SameElsewhere guest address m' m'') : SameElsewhere guest address m m'' :=
  fun other place hOther => (h' other place hOther).trans (h other place hOther)

theorem sameElsewhere_write {place value : UInt32} (hShown : m.shown = some guest)
    (hPlace : place = address ∨ place = address + 4) :
    SameElsewhere guest address m (m.write place value) := by
  intro other place' hOther
  rw [write, hShown]
  dsimp only
  by_cases hGuest : other = guest
  · obtain rfl := hGuest
    have hNe : place' ≠ place := by
      rintro rfl
      tauto
    rw [Function.update_self, Function.update_of_ne hNe]
  · rw [Function.update_of_ne hGuest]

end Memory

open Memory

namespace EntryHook

variable {guest : Guest} {address : UInt32} {calls inner : List Exchange} {m : Memory}

/-- Reads or writes a word of the pair at this address. -/
def OfPair (address : UInt32) (x : Exchange) : Prop :=
  ∃ place, x.1.word? = some place ∧ (place = address ∨ place = address + 4)

theorem step_ofPair {x : Exchange} (h : OfPair address x) (hShown : m.shown = some guest) :
    (m.step x).shown = some guest ∧ SameElsewhere guest address m (m.step x) := by
  obtain ⟨place, hWord, hPlace⟩ := h
  rcases x with ⟨call, answer⟩
  cases call <;> cases hWord
  case readWord => exact ⟨hShown, .refl m⟩
  case writeWord value =>
    refine ⟨?_, sameElsewhere_write hShown hPlace⟩
    rw [step, write, hShown]

theorem after_ofPair (h : ∀ x ∈ inner, OfPair address x) (hShown : m.shown = some guest) :
    SameElsewhere guest address m (m.after inner) := by
  induction inner generalizing m with
  | nil => exact .refl m
  | cons x rest ih =>
    obtain ⟨hHead, hRest⟩ := List.forall_mem_cons.mp h
    obtain ⟨hStill, hStep⟩ := step_ofPair hHead hShown
    exact hStep.trans (ih hRest hStill)

/-- Calls behind the request for the page of a pair. If it is refused there are none, and the refusal is
the answer. Otherwise words of the pair are exchanged, what was written is flushed once, and the same page
is given up. -/
inductive Handled {α : Type} (guest : Guest) (address : UInt32) :
    List Exchange → Except ResultCode α → Prop where
  | refused (code : ResultCode) :
      Handled guest address [mapPage guest address (.error code)] (.error code)
  | granted (a : α) (inner : List Exchange) (ofPair : ∀ x ∈ inner, OfPair address x) :
      Handled guest address
        (mapPage guest address (.ok ()) :: (inner ++ [⟨.flush, ()⟩, unmapPage address])) (.ok a)

theorem Handled.sameElsewhere {α : Type} {answer : Except ResultCode α}
    (h : Handled guest address calls answer) (m : Memory) :
    SameElsewhere guest address m (m.after calls) := by
  cases h with
  | refused code => exact .refl m
  | granted a inner ofPair =>
    have hShown : (m.step (mapPage guest address (.ok ()))).shown = some guest := rfl
    have hInner := after_ofPair ofPair hShown
    rw [after, List.foldl_cons, ← after, after_append]
    exact hInner

theorem Installed.handled {trampoline : UInt32} {answer : Except ResultCode SavedEntry}
    (h : Installed guest address trampoline calls answer) : Handled guest address calls answer := by
  cases h with
  | refused code => exact .refused code
  | hooked words =>
    refine .granted _ (readCalls address words ++ [⟨.writeWord address branchToNextWord, ()⟩,
      ⟨.writeWord (address + 4) trampoline, ()⟩]) ?_
    simp [readCalls, OfPair, HostCall.word?]

theorem Restored.handled {saved : SavedEntry} {answer : Except ResultCode Unit}
    (h : Restored guest saved calls answer) : Handled guest saved.address calls answer := by
  cases h with
  | refused code => exact .refused code
  | written =>
    refine .granted _ [⟨.writeWord saved.address saved.words.first, ()⟩,
      ⟨.writeWord (saved.address + 4) saved.words.second, ()⟩] ?_
    simp [OfPair, HostCall.word?]

theorem Installed.exchanges {trampoline : UInt32} {saved : SavedEntry}
    (h : Installed guest address trampoline calls (.ok saved)) :
    saved.address = address ∧
      Exchanges guest address saved.words (hookWords trampoline) calls := by
  cases h with
  | hooked words => exact ⟨rfl, exchanges_readCalls guest address words (hookWords trampoline)⟩

/-- A hook that is to stand at an entry of a guest. -/
structure Hook where
  guest : Guest
  address : UInt32
  trampoline : UInt32

/-- Hooks that are all installed, each after the one before, and what they replace. -/
inductive Installs : List Hook → List Exchange → List (Guest × SavedEntry) → Prop where
  | nil : Installs [] [] []
  | cons {hook : Hook} {hooks : List Hook} {first rest : List Exchange} {events : List Event}
      {saved : SavedEntry} {entries : List (Guest × SavedEntry)} :
      Runs (install hook.guest hook.address hook.trampoline) first events (some (.ok saved)) →
      Installs hooks rest entries →
      Installs (hook :: hooks) (first ++ rest) ((hook.guest, saved) :: entries)

/-- Entries that are all restored, each after the one before. -/
inductive Restores : List (Guest × SavedEntry) → List Exchange → Prop where
  | nil : Restores [] []
  | cons {guest : Guest} {saved : SavedEntry} {entries : List (Guest × SavedEntry)}
      {first rest : List Exchange} {events : List Event} :
      Runs (restore guest saved) first events (some (.ok ())) →
      Restores entries rest → Restores ((guest, saved) :: entries) (first ++ rest)

theorem Restores.split {before later : List (Guest × SavedEntry)} {undo : List Exchange}
    (h : Restores (before ++ later) undo) :
    ∃ first rest, Restores before first ∧ Restores later rest ∧ undo = first ++ rest := by
  induction before generalizing undo with
  | nil => exact ⟨[], undo, .nil, h, rfl⟩
  | cons entry before ih =>
    cases h with
    | cons hRuns hRest =>
      obtain ⟨first, rest, hFirst, hLater, rfl⟩ := ih hRest
      exact ⟨_, rest, .cons hRuns hFirst, hLater, (List.append_assoc ..).symm⟩

theorem Restores.puts {saved : SavedEntry} {undo : List Exchange}
    (h : Restores [(guest, saved)] undo) : Puts guest saved.address saved.words undo := by
  cases h with
  | cons hRuns hRest =>
    cases hRest
    obtain ⟨_, answer, hAnswer, hRestored⟩ := runs_restore hRuns
    obtain rfl := Option.some.inj hAnswer
    rw [List.append_nil]
    exact hRestored.puts

/-- The innermost hooks are taken back first, so that each finds the memory as it left it. -/
theorem Installs.undone {hooks : List Hook} {entries : List (Guest × SavedEntry)}
    {undo : List Exchange} {word : Guest → UInt32 → UInt32} (h : Installs hooks calls entries)
    (hTruthful : (unseen word).Truthful calls) (hUndo : Restores entries.reverse undo) :
    (unseen word).after (calls ++ undo) = unseen word := by
  induction h generalizing word undo with
  | nil =>
    cases hUndo
    rfl
  | @cons hook hooks first rest events saved entries hRuns _ ih =>
    obtain ⟨_, answer, hAnswer, hInstalled⟩ := runs_install hRuns
    obtain rfl := Option.some.inj hAnswer
    obtain ⟨hAddress, hExchanges⟩ := hInstalled.exchanges
    obtain ⟨hFirst, hRest⟩ := truthful_append_iff.mp hTruthful
    have hWords := (hExchanges.truthful word).mp hFirst
    rw [List.reverse_cons] at hUndo
    obtain ⟨inner, last, hInner, hLast, rfl⟩ := hUndo.split
    rw [hExchanges.puts] at hRest
    calc (unseen word).after (first ++ rest ++ (inner ++ last))
        = (((unseen word).after first).after (rest ++ inner)).after last := by
          simp only [← after_append, List.append_assoc]
      _ = ((unseen word).after first).after last := by
          rw [hExchanges.puts, ih hRest hInner]
      _ = unseen word := by
          rw [hExchanges.puts, hLast.puts, Function.update_self, Function.update_idem, hAddress,
            putWords_putWords, hWords, putWords_wordsAt, Function.update_eq_self]

theorem Installed.runs {trampoline : UInt32} {answer : Except ResultCode SavedEntry}
    (h : Installed guest address trampoline calls answer) :
    Runs (install guest address trampoline) calls [] (some answer) := by
  cases h with
  | refused code => exact .call _ (.done _)
  | hooked words =>
    exact .call _ <| .call _ <| .call _ <| .call _ <| .call _ <| .call _ <| .call _ <| .done _

theorem Restored.runs {saved : SavedEntry} {answer : Except ResultCode Unit}
    (h : Restored guest saved calls answer) : Runs (restore guest saved) calls [] (some answer) := by
  cases h with
  | refused code => exact .call _ (.done _)
  | written => exact .call _ <| .call _ <| .call _ <| .call _ <| .call _ <| .done _

theorem exists_restores (entries : List (Guest × SavedEntry)) : ∃ undo, Restores entries undo := by
  induction entries with
  | nil => exact ⟨[], .nil⟩
  | cons entry entries ih =>
    obtain ⟨undo, hUndo⟩ := ih
    exact ⟨_, .cons Restored.written.runs hUndo⟩

/-- What hooks replace that are put over these words one after the other. -/
def replaced (word : Guest → UInt32 → UInt32) : List Hook → List (Guest × SavedEntry)
  | [] => []
  | hook :: hooks =>
    let hooked := putWords (word hook.guest) hook.address (hookWords hook.trampoline)
    (hook.guest, ⟨hook.address, wordsAt (word hook.guest) hook.address⟩) ::
      replaced (Function.update word hook.guest hooked) hooks

theorem exists_installs (hooks : List Hook) (word : Guest → UInt32 → UInt32) :
    ∃ calls, Installs hooks calls (replaced word hooks) ∧ (unseen word).Truthful calls := by
  induction hooks generalizing word with
  | nil => exact ⟨[], .nil, trivial⟩
  | cons hook hooks ih =>
    have hHooked : Installed hook.guest hook.address hook.trampoline _
        (.ok ⟨hook.address, wordsAt (word hook.guest) hook.address⟩) := .hooked _
    obtain ⟨_, hExchanges⟩ := hHooked.exchanges
    obtain ⟨rest, hInstalls, hTruthful⟩ := ih _
    refine ⟨_, .cons hHooked.runs hInstalls, truthful_append_iff.mpr ⟨?_, ?_⟩⟩
    · exact (hExchanges.truthful word).mpr rfl
    · rw [hExchanges.puts]
      exact hTruthful

/-- Over any words of the guests, hooks can be put wherever they are wanted, and taken back again. -/
theorem exists_nest (hooks : List Hook) (word : Guest → UInt32 → UInt32) :
    ∃ calls undo, Installs hooks calls (replaced word hooks) ∧ (unseen word).Truthful calls ∧
      Restores (replaced word hooks).reverse undo := by
  obtain ⟨calls, hInstalls, hTruthful⟩ := exists_installs hooks word
  obtain ⟨undo, hUndo⟩ := exists_restores (replaced word hooks).reverse
  exact ⟨calls, undo, hInstalls, hTruthful, hUndo⟩

/-- Hooks nest: what was installed in any guests, at any addresses, is undone by restoring what was saved
in the reverse order. Each call alone changes no word beside its pair, and gives up again the page that it
was shown, or does nothing if it is shown none. -/
theorem hooks_nest :
    (∀ hooks calls entries undo word, Installs hooks calls entries →
      (unseen word).Truthful calls → Restores entries.reverse undo →
      (unseen word).after (calls ++ undo) = unseen word) ∧
    (∀ guest address trampoline calls events result,
      Runs (install guest address trampoline) calls events result →
      ∃ answer, result = some answer ∧ Handled guest address calls answer ∧
        ∀ m : Memory, m.SameElsewhere guest address (m.after calls)) ∧
    (∀ guest saved calls events result, Runs (restore guest saved) calls events result →
      ∃ answer, result = some answer ∧ Handled guest saved.address calls answer ∧
        ∀ m : Memory, m.SameElsewhere guest saved.address (m.after calls)) := by
  refine ⟨?_, ?_, ?_⟩
  · intro hooks calls entries undo word hInstalls hTruthful hRestores
    exact hInstalls.undone hTruthful hRestores
  · intro guest address trampoline calls events result hRuns
    obtain ⟨_, answer, hAnswer, hInstalled⟩ := runs_install hRuns
    exact ⟨answer, hAnswer, hInstalled.handled, hInstalled.handled.sameElsewhere⟩
  · intro guest saved calls events result hRuns
    obtain ⟨_, answer, hAnswer, hRestored⟩ := runs_restore hRuns
    exact ⟨answer, hAnswer, hRestored.handled, hRestored.handled.sameElsewhere⟩

/-- Two hooks that share a word, over words that are their own addresses. What the second one replaces is
the trampoline of the first. -/
theorem overlapping_hooks_nest :
    ∃ calls undo,
      Installs [⟨⟨1⟩, 0x00100000, 7⟩, ⟨⟨1⟩, 0x00100004, 8⟩] calls
        [(⟨1⟩, ⟨0x00100000, ⟨0x00100000, 0x00100004⟩⟩), (⟨1⟩, ⟨0x00100004, ⟨7, 0x00100008⟩⟩)] ∧
      (unseen fun _ address => address).Truthful calls ∧
      Restores [(⟨1⟩, ⟨0x00100004, ⟨7, 0x00100008⟩⟩), (⟨1⟩, ⟨0x00100000, ⟨0x00100000, 0x00100004⟩⟩)]
        undo ∧
      (unseen fun _ address => address).after (calls ++ undo) = unseen fun _ address => address := by
  obtain ⟨calls, undo, hInstalls, hTruthful, hRestores⟩ :=
    exists_nest [⟨⟨1⟩, 0x00100000, 7⟩, ⟨⟨1⟩, 0x00100004, 8⟩] fun _ address => address
  have hNest := hooks_nest.1 _ _ _ _ _ hInstalls hTruthful hRestores
  exact ⟨calls, undo, hInstalls, hTruthful, hRestores, hNest⟩

end EntryHook
end GuestPlugin
