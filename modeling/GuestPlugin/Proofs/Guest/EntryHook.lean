import GuestPlugin.Guest.EntryHook
import GuestPlugin.Proofs.Host.Inversion

/-! # The calls of an entry hook

Making a page visible can be refused; then nothing else is asked for. Otherwise the calls in between
are fixed by the addresses and the words, and the page is given up again last.
-/

set_option autoImplicit false

namespace GuestPlugin.EntryHook

open Program

variable {calls : List Exchange} {events : List Event}

def mapPage (guest : Guest) (address : UInt32) (answer : Except ResultCode Unit) : Exchange :=
  ⟨.mapGuest guest (pageOf address) pageSize, answer⟩

def unmapPage (address : UInt32) : Exchange := ⟨.unmapGuest (pageOf address) pageSize, ()⟩

def readCalls (address : UInt32) (words : EntryWords) : List Exchange :=
  [⟨.readWord address, words.first⟩, ⟨.readWord (address + 4), words.second⟩]

def writeCalls (address : UInt32) (words : EntryWords) : List Exchange :=
  [⟨.writeWord address words.first, ()⟩, ⟨.writeWord (address + 4) words.second, ()⟩, ⟨.flush, ()⟩]

theorem runs_readWords {address : UInt32} {result : Option EntryWords}
    (h : Runs (readWords address) calls events result) :
    ∃ words, calls = readCalls address words ∧ events = [] ∧ result = some words := by
  obtain ⟨first, _, rfl, hFirst⟩ := runs_call_iff.mp h
  obtain ⟨second, _, rfl, hSecond⟩ := runs_call_iff.mp hFirst
  obtain ⟨rfl, rfl, rfl⟩ := runs_done_iff.mp hSecond
  exact ⟨⟨first, second⟩, rfl, rfl, rfl⟩

theorem runs_writeWords {address : UInt32} {words : EntryWords} {result : Option Unit}
    (h : Runs (writeWords address words) calls events result) :
    calls = writeCalls address words ∧ events = [] ∧ result = some () := by
  obtain ⟨_, _, rfl, hFirst⟩ := runs_call_iff.mp h
  obtain ⟨_, _, rfl, hSecond⟩ := runs_call_iff.mp hFirst
  obtain ⟨_, _, rfl, hFlush⟩ := runs_call_iff.mp hSecond
  obtain ⟨rfl, rfl, rfl⟩ := runs_done_iff.mp hFlush
  exact ⟨rfl, rfl, rfl⟩

theorem readWords_total (address : UInt32) : Total (readWords address) := by
  intro calls events result h
  obtain ⟨words, _, _, rfl⟩ := runs_readWords h
  rfl

theorem writeWords_total (address : UInt32) (words : EntryWords) :
    Total (writeWords address words) := by
  intro calls events result h
  obtain ⟨_, _, rfl⟩ := runs_writeWords h
  rfl

theorem runs_withPage {α : Type} {guest : Guest} {address : UInt32} {body : Program α}
    (hBody : Total body) {result : Option (Except ResultCode α)}
    (h : Runs (withPage guest address body) calls events result) :
    (∃ code, calls = [mapPage guest address (.error code)] ∧ events = [] ∧
      result = some (.error code)) ∨
    ∃ a inner, Runs body inner events (some a) ∧
      calls = mapPage guest address (.ok ()) :: (inner ++ [unmapPage address]) ∧
      result = some (.ok a) := by
  obtain ⟨answer, later, rfl, hPage⟩ := runs_ask_bind_iff.mp h
  cases answer with
  | error code =>
    obtain ⟨rfl, rfl, rfl⟩ := runs_pure_iff.mp hPage
    exact .inl ⟨code, rfl, rfl, rfl⟩
  | ok =>
    obtain ⟨a, inner, _, _, _, hInner, hUnmap, rfl, rfl⟩ := hBody.runs_bind_iff.mp hPage
    obtain ⟨_, _, rfl, hEnd⟩ := runs_call_iff.mp hUnmap
    obtain ⟨rfl, rfl, rfl⟩ := runs_done_iff.mp hEnd
    rw [List.append_nil]
    exact .inr ⟨a, inner, hInner, rfl, rfl⟩

/-- The calls of an attempt to hook an entry, and what it came to. -/
inductive Installed (guest : Guest) (address trampoline : UInt32) :
    List Exchange → Except ResultCode SavedEntry → Prop where
  | refused (code : ResultCode) :
      Installed guest address trampoline [mapPage guest address (.error code)] (.error code)
  | hooked (words : EntryWords) :
      Installed guest address trampoline
        (mapPage guest address (.ok ()) :: (readCalls address words ++
          writeCalls address ⟨branchToNextWord, trampoline⟩ ++ [unmapPage address]))
        (.ok ⟨address, words⟩)

theorem runs_install {guest : Guest} {address trampoline : UInt32}
    {result : Option (Except ResultCode SavedEntry)}
    (h : Runs (install guest address trampoline) calls events result) :
    events = [] ∧ ∃ outcome, result = some outcome ∧
      Installed guest address trampoline calls outcome := by
  have hBody : Total (do
      let words ← readWords address
      writeWords address ⟨branchToNextWord, trampoline⟩
      return (⟨address, words⟩ : SavedEntry)) := by
    intro calls events result hRuns
    obtain ⟨_, _, _, _, _, _, hWrite, _, _⟩ := (readWords_total address).runs_bind_iff.mp hRuns
    obtain ⟨_, _, _, _, _, _, hEnd, _, _⟩ := (writeWords_total _ _).runs_bind_iff.mp hWrite
    rw [(runs_pure_iff.mp hEnd).2.2]
    rfl
  rcases runs_withPage hBody h with ⟨code, rfl, rfl, rfl⟩ | ⟨saved, inner, hInner, rfl, rfl⟩
  · exact ⟨rfl, _, rfl, .refused code⟩
  · obtain ⟨words, _, _, _, _, hRead, hRest, rfl, rfl⟩ :=
      (readWords_total address).runs_bind_iff.mp hInner
    obtain ⟨_, rfl, rfl, hWords⟩ := runs_readWords hRead
    obtain rfl := Option.some.inj hWords
    obtain ⟨_, _, _, _, _, hWrite, hEnd, rfl, rfl⟩ :=
      (writeWords_total _ _).runs_bind_iff.mp hRest
    obtain ⟨rfl, rfl, _⟩ := runs_writeWords hWrite
    obtain ⟨rfl, rfl, hSaved⟩ := runs_pure_iff.mp hEnd
    cases hSaved
    rw [List.append_nil]
    exact ⟨rfl, _, rfl, .hooked words⟩

theorem install_total (guest : Guest) (address trampoline : UInt32) :
    Total (install guest address trampoline) := by
  intro calls events result h
  obtain ⟨_, _, rfl, _⟩ := runs_install h
  rfl

inductive Restored (guest : Guest) (saved : SavedEntry) :
    List Exchange → Except ResultCode Unit → Prop where
  | refused (code : ResultCode) :
      Restored guest saved [mapPage guest saved.address (.error code)] (.error code)
  | written :
      Restored guest saved
        (mapPage guest saved.address (.ok ()) ::
          (writeCalls saved.address saved.words ++ [unmapPage saved.address]))
        (.ok ())

theorem runs_restore {guest : Guest} {saved : SavedEntry} {result : Option (Except ResultCode Unit)}
    (h : Runs (restore guest saved) calls events result) :
    events = [] ∧ ∃ outcome, result = some outcome ∧ Restored guest saved calls outcome := by
  rcases runs_withPage (writeWords_total _ _) h with
    ⟨code, rfl, rfl, rfl⟩ | ⟨_, inner, hInner, rfl, rfl⟩
  · exact ⟨rfl, _, rfl, .refused code⟩
  · obtain ⟨rfl, rfl, _⟩ := runs_writeWords hInner
    exact ⟨rfl, _, rfl, .written⟩

theorem restore_total (guest : Guest) (saved : SavedEntry) : Total (restore guest saved) := by
  intro calls events result h
  obtain ⟨_, _, rfl, _⟩ := runs_restore h
  rfl

end GuestPlugin.EntryHook
