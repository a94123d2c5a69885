import GuestPlugin.Proofs.Guest.Footprint
import GuestPlugin.Proofs.Host.FixedAnswers
import GuestPlugin.Proofs.Region.Alignment

/-! # Which words of an entry are shown

A word may be read or written while all four bytes of it are shown to the host. A hook shows the page in
which its first word begins, so the first word is always shown when it is aligned, and the second one only
if the pair ends in the same page. Nothing that a guest or the kernel answers changes this: it is decided
by the place of the entry in its page.
-/

set_option autoImplicit false

namespace GuestPlugin

open Program

/-- The address of the word that a call reads or writes. -/
def HostCall.word? : HostCall → Option UInt32
  | .readWord address => some address
  | .writeWord address _ => some address
  | _ => none

def Alias.Covers (a : Alias) (address : UInt32) : Prop :=
  a.address.toNat ≤ address.toNat ∧ address.toNat + 4 ≤ a.address.toNat + a.size.toNat

namespace Guests

variable {g : Guests} {guest : Guest} {address : UInt32}

def ShowsWord (g : Guests) (guest : Guest) (address : UInt32) : Prop :=
  ∃ shown ∈ g.aliases, shown.guest = guest ∧ shown.Covers address

/-- Each word that the calls read or write is shown at the moment of the call. -/
def Covered (g : Guests) (guest : Guest) : List Exchange → Prop
  | [] => True
  | x :: rest =>
    (∀ address, x.1.word? = some address → g.ShowsWord guest address) ∧
      (g.step x).Covered guest rest

@[simp] theorem aliases_write (g : Guests) (address value : UInt32) :
    (g.write address value).aliases = g.aliases := by
  unfold write
  split <;> rfl

theorem showsWord_congr {g' : Guests} (h : g'.aliases = g.aliases) :
    g'.ShowsWord guest address ↔ g.ShowsWord guest address := by
  rw [ShowsWord, ShowsWord, h]

theorem covered_readWord_iff {value : UInt32} {rest : List Exchange} :
    g.Covered guest (⟨.readWord address, value⟩ :: rest) ↔
      g.ShowsWord guest address ∧ g.Covered guest rest := by
  simp [Covered, HostCall.word?, step]

theorem covered_writeWord_iff {value : UInt32} {rest : List Exchange} :
    g.Covered guest (⟨.writeWord address value, ()⟩ :: rest) ↔
      g.ShowsWord guest address ∧ (g.write address value).Covered guest rest := by
  simp [Covered, HostCall.word?, step]

theorem covered_of_untouched {x : Exchange} {rest : List Exchange} (h : x.1.word? = none) :
    g.Covered guest (x :: rest) ↔ (g.step x).Covered guest rest := by
  simp [Covered, h]

end Guests

namespace EntryHook

variable {g : Guests} {guest : Guest} {address : UInt32}

theorem toNat_pageOf (address : UInt32) :
    (pageOf address).toNat = address.toNat / 2 ^ 12 * 2 ^ 12 := by
  have hMask : (~~~(pageSize - 1)).toNat = 2 ^ 32 - 1 - (2 ^ 12 - 1) := by decide
  rw [pageOf, UInt32.toNat_and, hMask, clear_low_eq_mul address.toNat_lt (by decide)]

theorem pageOf_eq (address : UInt32) : pageOf address = address / 0x1000 * 0x1000 := by
  have hPage : (0x1000 : UInt32).toNat = 2 ^ 12 := rfl
  have hBelow := Nat.div_mul_le_self address.toNat (2 ^ 12)
  have hBound := address.toNat_lt
  apply UInt32.toNat_inj.mp
  rw [toNat_pageOf, UInt32.toNat_mul, UInt32.toNat_div, hPage, Nat.mod_eq_of_lt (by omega)]

/-- Both words of an entry are shown. -/
def PairShown (g : Guests) (guest : Guest) (address : UInt32) : Prop :=
  g.ShowsWord guest address ∧ g.ShowsWord guest (address + 4)

/-- The page of an entry shows both its words exactly if they end in it. -/
theorem pairShown_page_iff (hAddress : address.toNat + 7 < 2 ^ 32)
    (hPage : g.aliases = [⟨guest, pageOf address, pageSize⟩]) :
    PairShown g guest address ↔ address.toNat % 0x1000 ≤ 0xFF8 := by
  have hSecond : (address + 4).toNat = address.toNat + 4 := by
    rw [UInt32.toNat_add]
    exact Nat.mod_eq_of_lt (by simp; omega)
  have hSize : pageSize.toNat = 0x1000 := rfl
  simp only [PairShown, Guests.ShowsWord, hPage, List.mem_singleton, exists_eq_left, true_and,
    Alias.Covers, toNat_pageOf, hSecond, hSize]
  omega

theorem covered_readCalls_iff {words : EntryWords} {rest : List Exchange} :
    g.Covered guest (readCalls address words ++ rest) ↔
      PairShown g guest address ∧ g.Covered guest rest := by
  simp only [readCalls, List.cons_append, List.nil_append, Guests.covered_readWord_iff, PairShown,
    and_assoc]

/-- What is written does not change what is shown, and behind the words nothing else is touched. -/
theorem covered_writeCalls_iff {words : EntryWords} :
    g.Covered guest (writeCalls address words ++ [unmapPage address]) ↔
      PairShown g guest address := by
  simp only [writeCalls, unmapPage, List.cons_append, List.nil_append, Guests.covered_writeWord_iff]
  rw [Guests.showsWord_congr (Guests.aliases_write g address words.first)]
  simp [PairShown, Guests.Covered, HostCall.word?]

/-- The guests once the page of an entry has been shown. -/
def showing (g : Guests) (guest : Guest) (address : UInt32) : Guests :=
  { g with aliases := ⟨guest, pageOf address, pageSize⟩ :: g.aliases }

theorem covered_mapPage_iff {inner : List Exchange} :
    g.Covered guest (mapPage guest address (.ok ()) :: inner) ↔
      (showing g guest address).Covered guest inner :=
  Guests.covered_of_untouched rfl

theorem covered_refused (code : ResultCode) :
    g.Covered guest [mapPage guest address (.error code)] := by
  simp [Guests.Covered, mapPage, HostCall.word?]

/-- Behind the request for the page, all that matters is whether the pair is shown. -/
theorem covered_page_iff {inner : List Exchange} (hAddress : address.toNat + 7 < 2 ^ 32)
    (hNone : g.aliases = [])
    (hInner : (showing g guest address).Covered guest inner ↔
      PairShown (showing g guest address) guest address) :
    g.Covered guest (mapPage guest address (.ok ()) :: inner) ↔ address.toNat % 0x1000 ≤ 0xFF8 := by
  have hPage : (showing g guest address).aliases = [⟨guest, pageOf address, pageSize⟩] := by
    rw [showing, hNone]
  rw [covered_mapPage_iff, hInner, pairShown_page_iff hAddress hPage]

theorem Installed.covered_iff {trampoline : UInt32} {calls : List Exchange}
    {answer : Except ResultCode SavedEntry} (hAddress : address.toNat + 7 < 2 ^ 32)
    (hNone : g.aliases = []) (h : Installed guest address trampoline calls answer) :
    g.Covered guest calls ↔ (∃ code, answer = .error code) ∨ address.toNat % 0x1000 ≤ 0xFF8 := by
  cases h with
  | refused code => exact iff_of_true (covered_refused code) (.inl ⟨code, rfl⟩)
  | hooked words =>
    rw [covered_page_iff hAddress hNone]
    · simp
    · rw [List.append_assoc, covered_readCalls_iff, covered_writeCalls_iff, and_self]

theorem Restored.covered_iff {saved : SavedEntry} {calls : List Exchange}
    {answer : Except ResultCode Unit} (hAddress : saved.address.toNat + 7 < 2 ^ 32)
    (hNone : g.aliases = []) (h : Restored guest saved calls answer) :
    g.Covered guest calls ↔
      (∃ code, answer = .error code) ∨ saved.address.toNat % 0x1000 ≤ 0xFF8 := by
  cases h with
  | refused code => exact iff_of_true (covered_refused code) (.inl ⟨code, rfl⟩)
  | written =>
    rw [covered_page_iff hAddress hNone covered_writeCalls_iff]
    simp

/-- A hook that is installed or taken back touches shown words only, if and only if its page is refused,
so that it touches none, or the pair of words ends in the page in which it begins. -/
theorem words_covered_iff (hAddress : address.toNat + 7 < 2 ^ 32) (hNone : g.aliases = []) :
    (∀ trampoline calls events result,
      Runs (install guest address trampoline) calls events result →
        ∃ answer, result = some answer ∧ (g.Covered guest calls ↔
          (∃ code, answer = .error code) ∨ address.toNat % 0x1000 ≤ 0xFF8)) ∧
    (∀ words calls events result,
      Runs (restore guest ⟨address, words⟩) calls events result →
        ∃ answer, result = some answer ∧ (g.Covered guest calls ↔
          (∃ code, answer = .error code) ∨ address.toNat % 0x1000 ≤ 0xFF8)) := by
  constructor
  · intro trampoline calls events result h
    obtain ⟨_, answer, hResult, hInstalled⟩ := runs_install h
    exact ⟨answer, hResult, hInstalled.covered_iff hAddress hNone⟩
  · intro words calls events result h
    obtain ⟨_, answer, hResult, hRestored⟩ := runs_restore h
    exact ⟨answer, hResult, hRestored.covered_iff hAddress hNone⟩

/-- The guests as they are before anything of them is shown. -/
def hidden : Guests := ⟨fun _ _ => 0, [], []⟩

theorem exists_runs_install_ok (address trampoline : UInt32) :
    ∃ calls events saved,
      Runs (install ⟨1⟩ address trampoline) calls events (some (.ok saved)) := by
  have hValue : ((install ⟨1⟩ address trampoline).valueWith (onePluginHost (.ok ()))).map id =
      some (.ok ⟨address, 0, 0⟩) := rfl
  obtain ⟨calls, events, _, hRuns, rfl⟩ := exists_runs_of_valueWith hValue
  exact ⟨calls, events, _, hRuns⟩

theorem words_covered_at_page_start :
    (0x00100000 : UInt32).toNat + 7 < 2 ^ 32 ∧ ∃ calls events saved,
      Runs (install ⟨1⟩ 0x00100000 0) calls events (some (.ok saved)) ∧
      hidden.Covered ⟨1⟩ calls := by
  have hAddress : (0x00100000 : UInt32).toNat + 7 < 2 ^ 32 := by decide
  obtain ⟨calls, events, saved, hRuns⟩ := exists_runs_install_ok 0x00100000 0
  obtain ⟨_, hAnswer, hCovered⟩ := (words_covered_iff hAddress (g := hidden) rfl).1 0 _ _ _ hRuns
  exact ⟨hAddress, calls, events, saved, hRuns, hCovered.mpr (.inr (by decide))⟩

/-- The second word of an entry that begins with the last word of a page is touched, but not shown. -/
theorem words_uncovered_at_page_end :
    (0x00100FFC : UInt32).toNat + 7 < 2 ^ 32 ∧ ∃ calls events saved,
      Runs (install ⟨1⟩ 0x00100FFC 0) calls events (some (.ok saved)) ∧
      ¬ hidden.Covered ⟨1⟩ calls := by
  have hAddress : (0x00100FFC : UInt32).toNat + 7 < 2 ^ 32 := by decide
  obtain ⟨calls, events, saved, hRuns⟩ := exists_runs_install_ok 0x00100FFC 0
  obtain ⟨_, answer, hAnswer, hInstalled⟩ := runs_install hRuns
  obtain rfl := Option.some.inj hAnswer
  refine ⟨hAddress, calls, events, saved, hRuns, ?_⟩
  intro hCovered
  rcases (hInstalled.covered_iff hAddress (g := hidden) rfl).mp hCovered with ⟨code, hError⟩ | hPlace
  · cases hError
  · exact absurd hPlace (by decide)

end EntryHook
end GuestPlugin
