import Mathlib.Logic.Function.Basic
import GuestPlugin.Proofs.Guest.Attach
import GuestPlugin.Proofs.Host.Oracle
import GuestPlugin.Proofs.Lookup

/-! # The words that stand in the guests

A word is read and written in the guest of which the host sees a page at that moment, and a read answers
what was written last. Whether an address lies in that page is not looked at here. To exchange the two
words of an entry is one update of one guest, which is undone by putting back what was read.
-/

set_option autoImplicit false

namespace GuestPlugin

open Program (Exchange)

/-- The two words that make a guest branch to a trampoline. -/
def hookWords (trampoline : UInt32) : EntryWords := ⟨branchToNextWord, trampoline⟩

def wordsAt (word : UInt32 → UInt32) (address : UInt32) : EntryWords :=
  ⟨word address, word (address + 4)⟩

def putWords (word : UInt32 → UInt32) (address : UInt32) (words : EntryWords) : UInt32 → UInt32 :=
  Function.update (Function.update word address words.first) (address + 4) words.second

section Words

variable (word : UInt32 → UInt32) (address : UInt32)

theorem add_four_ne : address + 4 ≠ address := by
  intro h
  simp at h

@[simp] theorem wordsAt_putWords (words : EntryWords) :
    wordsAt (putWords word address words) address = words := by
  simp [wordsAt, putWords, (add_four_ne address).symm]

@[simp] theorem putWords_putWords (words later : EntryWords) :
    putWords (putWords word address words) address later = putWords word address later := by
  simp only [putWords, Function.update_comm (add_four_ne address), Function.update_idem]

@[simp] theorem putWords_wordsAt : putWords word address (wordsAt word address) = word := by
  simp [putWords, wordsAt]

end Words

/-- The words of all guests, and the guest of which the host sees a page. -/
structure Memory where
  word : Guest → UInt32 → UInt32
  shown : Option Guest

namespace Memory

/-- Memory of which the host sees nothing. -/
def unseen (word : Guest → UInt32 → UInt32) : Memory := ⟨word, none⟩

def write (m : Memory) (address value : UInt32) : Memory :=
  match m.shown with
  | some guest =>
    { m with word := Function.update m.word guest (Function.update (m.word guest) address value) }
  | none => m

def step (m : Memory) : Exchange → Memory
  | ⟨.writeWord address value, _⟩ => m.write address value
  | ⟨.mapGuest guest _ _, .ok _⟩ => { m with shown := some guest }
  | ⟨.unmapGuest _ _, _⟩ => { m with shown := none }
  | _ => m

def after (m : Memory) (calls : List Exchange) : Memory := calls.foldl step m

def Answers (m : Memory) : Exchange → Prop
  | ⟨.readWord address, value⟩ => ∀ guest ∈ m.shown, value = m.word guest address
  | _ => True

/-- Calls that read what stands in memory at that moment. -/
def Truthful (m : Memory) : List Exchange → Prop
  | [] => True
  | x :: rest => m.Answers x ∧ (m.step x).Truthful rest

variable {m : Memory} {before later calls : List Exchange}

theorem after_append (m : Memory) (before later : List Exchange) :
    m.after (before ++ later) = (m.after before).after later :=
  List.foldl_append

theorem truthful_append_iff :
    m.Truthful (before ++ later) ↔ m.Truthful before ∧ (m.after before).Truthful later := by
  induction before generalizing m with
  | nil => simp [Truthful, after]
  | cons x rest ih =>
    simp only [List.cons_append, Truthful, ih, and_assoc]
    rfl

/-- A call that reads and writes no word and changes nothing that is shown. -/
def Apart : Exchange → Prop
  | ⟨.readWord _, _⟩ => False
  | ⟨.writeWord _ _, _⟩ => False
  | ⟨.mapGuest _ _ _, .ok _⟩ => False
  | ⟨.unmapGuest _ _, _⟩ => False
  | _ => True

theorem step_of_apart {x : Exchange} (h : Apart x) (m : Memory) : m.step x = m := by
  unfold step
  split
  · exact h.elim
  · exact h.elim
  · exact h.elim
  · rfl

theorem answers_of_apart {x : Exchange} (h : Apart x) (m : Memory) : m.Answers x := by
  unfold Answers
  split
  · exact h.elim
  · trivial

theorem after_of_apart (h : ∀ x ∈ calls, Apart x) (m : Memory) : m.after calls = m := by
  induction calls with
  | nil => rfl
  | cons x rest ih =>
    obtain ⟨hHead, hRest⟩ := List.forall_mem_cons.mp h
    rw [after, List.foldl_cons, step_of_apart hHead]
    exact ih hRest

theorem truthful_of_apart (h : ∀ x ∈ calls, Apart x) (m : Memory) : m.Truthful calls := by
  induction calls with
  | nil => trivial
  | cons x rest ih =>
    obtain ⟨hHead, hRest⟩ := List.forall_mem_cons.mp h
    constructor
    · exact answers_of_apart hHead m
    · rw [step_of_apart hHead]
      exact ih hRest

theorem apart_of_isStorage (x : Exchange) (h : x.1.IsStorage) : Apart x :=
  h.of_exchange (fun _ _ => trivial) (fun _ _ _ => trivial) fun _ _ => trivial

/-- Calls that put two words into a guest and change nothing else. -/
def Puts (guest : Guest) (address : UInt32) (words : EntryWords) (calls : List Exchange) : Prop :=
  ∀ word, (unseen word).after calls =
    unseen (Function.update word guest (putWords (word guest) address words))

/-- Calls that put words in the place of these. -/
structure Exchanges (guest : Guest) (address : UInt32) (former words : EntryWords)
    (calls : List Exchange) : Prop where
  puts : Puts guest address words calls
  truthful : ∀ word, (unseen word).Truthful calls ↔ former = wordsAt (word guest) address

variable {guest : Guest} {address : UInt32} {former words : EntryWords}

theorem Exchanges.prepend (h : Exchanges guest address former words calls)
    (hBefore : ∀ x ∈ before, Apart x) : Exchanges guest address former words (before ++ calls) where
  puts word := by
    rw [after_append, after_of_apart hBefore]
    exact h.puts word
  truthful word := by
    rw [truthful_append_iff, after_of_apart hBefore, h.truthful,
      and_iff_right (truthful_of_apart hBefore _)]

/-! ## Hosts that read from memory -/

/-- Answers a read with the word that stands in memory, and every other call as this host does. -/
def oracle (word : Guest → UInt32 → UInt32) (answer : (c : HostCall) → c.Answer) : Program.Oracle
  | past, .readWord address =>
    let m := (unseen word).after past
    m.shown.elim 0 (m.word · address)
  | _, c => answer c

theorem after_remember (m : Memory) (past : List Exchange) (x : Exchange) :
    m.after (Program.remember past x) = (m.after past).step x := by
  unfold Program.remember
  split
  · rfl
  · exact after_append m past [x]

theorem truthful_of_answeredBy {word : Guest → UInt32 → UInt32} {answer : (c : HostCall) → c.Answer}
    {past : List Exchange} (h : Program.AnsweredBy (oracle word answer) past calls) :
    ((unseen word).after past).Truthful calls := by
  induction calls generalizing past with
  | nil => trivial
  | cons x rest ih =>
    obtain ⟨hAnswer, hRest⟩ := h
    constructor
    · unfold Answers
      split
      · intro guest hShown
        have hShown : ((unseen word).after past).shown = some guest := hShown
        refine hAnswer.trans ?_
        simp only [oracle, hShown, Option.elim_some]
      · trivial
    · rw [← after_remember]
      exact ih hRest

end Memory

open Memory

namespace EntryHook

variable {guest : Guest} {address : UInt32}

theorem puts_writeCalls (guest : Guest) (address : UInt32) (words : EntryWords) :
    Puts guest address words (mapPage guest address (.ok ()) ::
      (writeCalls address words ++ [unmapPage address])) := by
  intro word
  simp [after, mapPage, writeCalls, unmapPage, step, write, unseen, putWords]

theorem exchanges_readCalls (guest : Guest) (address : UInt32) (former words : EntryWords) :
    Exchanges guest address former words (mapPage guest address (.ok ()) ::
      (readCalls address former ++ writeCalls address words ++ [unmapPage address])) where
  puts word := by
    simp [after, mapPage, readCalls, writeCalls, unmapPage, step, write, unseen, putWords]
  truthful word := by
    cases former
    simp [Truthful, Answers, mapPage, readCalls, writeCalls, unmapPage, step, unseen, wordsAt]

theorem Restored.apart {saved : SavedEntry} {calls : List Exchange} {code : ResultCode}
    (h : Restored guest saved calls (.error code)) : ∀ x ∈ calls, Apart x := by
  cases h
  exact List.forall_mem_singleton.mpr trivial

theorem Restored.puts {saved : SavedEntry} {calls : List Exchange}
    (h : Restored guest saved calls (.ok ())) : Puts guest saved.address saved.words calls := by
  cases h
  exact puts_writeCalls guest saved.address saved.words

end EntryHook

namespace Attach

variable {config : Config} {guest : Guest} {block : Block} {calls : List Exchange}

theorem Course.apart {cause : ResourceError} (h : Course config guest block calls (.error cause)) :
    ∀ x ∈ calls, Apart x := by
  cases h <;> simp [controlCalls, EntryHook.mapPage, Apart]

theorem Course.exchanges {saved : SavedEntry} (h : Course config guest block calls (.ok saved)) :
    saved.address = config.entryAddress ∧
      Exchanges guest config.entryAddress saved.words (hookWords config.trampoline) calls := by
  cases h with
  | hooked words =>
    have hApart : ∀ x ∈ controlCalls guest ++
        [(⟨.mapRegion guest block config.heapAddress, .ok ()⟩ : Exchange)], Apart x := by
      simp [controlCalls, Apart]
    have hHook := (EntryHook.exchanges_readCalls guest config.entryAddress words
      (hookWords config.trampoline)).prepend hApart
    refine ⟨rfl, ?_⟩
    simpa [hookWords] using hHook

end Attach
end GuestPlugin
