import Mathlib.Data.List.Infix
import GuestPlugin.Proofs.Lookup

/-! # Searching a directory that comes in batches

A storage delivers a directory as a row of answers to reads: batches of entries, and behind them an empty
one or a failure. The search stops inside this row, and what it finds is the first candidate of all entries
that are delivered, read or not. So it cannot tell where one batch ends and the next begins.
-/

set_option autoImplicit false

namespace GuestPlugin

open Program

/-- The call asks for so many entries of this directory at most. -/
def HostCall.AsksOf (id max : Nat) : HostCall → Prop
  | .readDirectory directory asked => directory.id = id ∧ asked = max
  | _ => False

abbrev ReadAnswer := Except StorageFailure (List Entry)

/-- A read of a directory: which one it is, how many entries were asked for at most, and what came. -/
structure DirectoryRead where
  directory : Nat
  max : Nat
  answer : ReadAnswer

def directoryRead? : Exchange → Option DirectoryRead
  | ⟨.readDirectory directory max, answer⟩ => some ⟨directory.id, max, answer.map (·.val)⟩
  | _ => none

def directoryReads (calls : List Exchange) : List DirectoryRead := calls.filterMap directoryRead?

def readAnswers (calls : List Exchange) : List ReadAnswer := (directoryReads calls).map (·.answer)

theorem asked_of_asksOf {calls : List Exchange} {id max : Nat}
    (h : ∀ x ∈ calls, x.1.AsksOf id max) :
    ∀ read ∈ directoryReads calls, read.directory = id ∧ read.max = max := by
  intro read hRead
  obtain ⟨⟨c, answer⟩, hMember, hSome⟩ := List.mem_filterMap.mp hRead
  have hAsks := h _ hMember
  cases c with
  | readDirectory directory asked =>
    obtain rfl := Option.some.inj hSome
    exact hAsks
  | _ => exact hAsks.elim

/-- The whole row of answers with which a storage delivers these entries. -/
inductive Delivers : List Entry → List ReadAnswer → Prop where
  | exhausted : Delivers [] [.ok []]
  | failed (failure : StorageFailure) : Delivers [] [.error failure]
  | batch {first rest : List Entry} {answers : List ReadAnswer} (filled : first ≠ [])
      (h : Delivers rest answers) : Delivers (first ++ rest) (.ok first :: answers)

theorem delivers_singly (entries : List Entry) :
    Delivers entries (entries.map (.ok [·]) ++ [.ok []]) := by
  induction entries with
  | nil => exact .exhausted
  | cons entry rest ih => exact .batch (List.cons_ne_nil entry []) ih

theorem delivers_at_once {entries : List Entry} (hSome : entries ≠ []) :
    Delivers entries [.ok entries, .ok []] := by
  have h := Delivers.batch hSome .exhausted
  rwa [List.append_nil] at h

/-- What a storage gives that fails no read, up to the first one that gets nothing. It keeps to the number
of entries that a read asks for and cuts the directory as it likes. If none is asked for it gives none. -/
inductive HandsOut : List Entry → List DirectoryRead → Prop where
  | unread (entries : List Entry) : HandsOut entries []
  | exhausted (directory max : Nat) : HandsOut [] [⟨directory, max, .ok []⟩]
  | unasked (entries : List Entry) (directory : Nat) : HandsOut entries [⟨directory, 0, .ok []⟩]
  | batch {first rest : List Entry} {reads : List DirectoryRead} {directory max : Nat}
      (filled : first ≠ []) (fits : first.length ≤ max) (h : HandsOut rest reads) :
      HandsOut (first ++ rest) (⟨directory, max, .ok first⟩ :: reads)

/-- If every read asks for something, the whole directory is delivered. -/
theorem HandsOut.exists_delivers {entries : List Entry} {reads : List DirectoryRead}
    (h : HandsOut entries reads) (hAsked : ∀ read ∈ reads, 0 < read.max) :
    ∃ answers, Delivers entries answers ∧ reads.map (·.answer) <+: answers := by
  induction h with
  | unread entries => exact ⟨_, delivers_singly entries, List.nil_prefix⟩
  | exhausted => exact ⟨_, .exhausted, List.prefix_refl _⟩
  | unasked => exact absurd (hAsked _ List.mem_cons_self) (Nat.lt_irrefl 0)
  | batch filled _ _ ih =>
    obtain ⟨answers, hDelivers, hReads⟩ := ih fun read hRead => hAsked read (List.mem_cons_of_mem _ hRead)
    exact ⟨_, .batch filled hDelivers, List.cons_prefix_cons.mpr ⟨rfl, hReads⟩⟩

/-- Batches that are no larger than what is asked for are handed out as they come. -/
theorem Delivers.handsOut {entries : List Entry} {answers : List ReadAnswer} {max : Nat}
    (h : Delivers entries answers)
    (hFits : ∀ answer ∈ answers, ∃ batch, answer = .ok batch ∧ batch.length ≤ max)
    {reads : List DirectoryRead} (hReads : reads.map (·.answer) <+: answers)
    (hAsked : ∀ read ∈ reads, read.max = max) : HandsOut entries reads := by
  induction h generalizing reads with
  | exhausted =>
    cases reads with
    | nil => exact .unread []
    | cons read reads =>
      obtain ⟨directory, asked, answer⟩ := read
      obtain ⟨rfl, hRest⟩ := List.cons_prefix_cons.mp hReads
      obtain rfl := List.map_eq_nil_iff.mp (List.prefix_nil.mp hRest)
      exact .exhausted directory asked
  | failed failure =>
    obtain ⟨_, hOk, _⟩ := hFits _ List.mem_cons_self
    cases hOk
  | @batch first rest answers filled _ ih =>
    cases reads with
    | nil => exact .unread _
    | cons read reads =>
      obtain ⟨directory, asked, answer⟩ := read
      obtain ⟨rfl, hRest⟩ := List.cons_prefix_cons.mp hReads
      obtain ⟨rfl, hLater⟩ := List.forall_mem_cons.mp hAsked
      obtain ⟨⟨_, hBatch, hLength⟩, hFitsLater⟩ := List.forall_mem_cons.mp hFits
      cases hBatch
      exact .batch filled hLength (ih hFitsLater hRest hLater)

/-- Calls in which a directory is opened and its reads get the first answers of a row. -/
def ReadsFrom (path : Path) (answers : List ReadAnswer) (calls : List Exchange) : Prop :=
  (∃ directory, ⟨.openDirectory path, .ok directory⟩ ∈ calls) ∧ readAnswers calls <+: answers

/-- Calls in which a directory offers these entries. One that cannot be opened offers none. -/
inductive Offers (path : Path) (calls : List Exchange) : List Entry → Prop where
  | closed (failure : StorageFailure) (refused : ⟨.openDirectory path, .error failure⟩ ∈ calls) :
      Offers path calls []
  | opened {entries : List Entry} {answers : List ReadAnswer} (delivers : Delivers entries answers)
      (reads : ReadsFrom path answers calls) : Offers path calls entries

namespace Lookup

def candidate? (config : Config) (path : Path) (entries : List Entry) : Option Path :=
  (entries.find? (·.isPlugin config.extension)).map fun entry => path.join ⟨entry.name⟩

theorem candidate?_append (config : Config) (path : Path) (entries others : List Entry) :
    candidate? config path (entries ++ others) =
      (candidate? config path entries).or (candidate? config path others) := by
  rw [candidate?, candidate?, candidate?, List.find?_append, Option.map_or]

/-- The answers that a search was given, and what it came to. -/
inductive Searched (config : Config) (path : Path) : List ReadAnswer → Option Path → Prop where
  | failed (failure : StorageFailure) : Searched config path [.error failure] none
  | exhausted : Searched config path [.ok []] none
  | found {batch : List Entry} {plugin : Path} (hits : candidate? config path batch = some plugin) :
      Searched config path [.ok batch] (some plugin)
  | passed {batch : List Entry} {answers : List ReadAnswer} {result : Option Path}
      (filled : batch ≠ []) (misses : candidate? config path batch = none)
      (h : Searched config path answers result) : Searched config path (.ok batch :: answers) result

variable {config : Config} {path : Path} {title : TitleId} {calls : List Exchange}
  {events : List Event} {answers given : List ReadAnswer} {entries : List Entry} {found : Option Path}

theorem runs_scan {directory : OpenDirectory} {result : Option (Option Path)}
    (h : Runs (scan config path directory) calls events result) :
    ∃ found, result = some found ∧ Searched config path (readAnswers calls) found ∧
      ∀ x ∈ calls, x.1.AsksOf directory.id config.batchSize := by
  induction directory using scan.induct generalizing calls events with
  | case1 directory ih =>
    rw [scan] at h
    obtain ⟨answer, later, rfl, hAnswer⟩ := runs_call_iff.mp h
    cases answer with
    | error failure =>
      obtain ⟨rfl, _, rfl⟩ := runs_done_iff.mp hAnswer
      exact ⟨none, rfl, .failed failure, List.forall_mem_singleton.mpr ⟨rfl, rfl⟩⟩
    | ok batch =>
      obtain ⟨_ | ⟨first, others⟩, hFits⟩ := batch
      · obtain ⟨rfl, _, rfl⟩ := runs_done_iff.mp hAnswer
        exact ⟨none, rfl, .exhausted, List.forall_mem_singleton.mpr ⟨rfl, rfl⟩⟩
      · obtain ⟨_, _, hBatch⟩ := runs_emit_iff.mp hAnswer
        cases hFind : (first :: others).find? (·.isPlugin config.extension) with
        | some entry =>
          rw [hFind] at hBatch
          obtain ⟨rfl, _, rfl⟩ := runs_done_iff.mp hBatch
          have hHits : candidate? config path (first :: others) = some (path.join ⟨entry.name⟩) := by
            rw [candidate?, hFind, Option.map_some]
          exact ⟨_, rfl, .found hHits, List.forall_mem_singleton.mpr ⟨rfl, rfl⟩⟩
        | none =>
          rw [hFind] at hBatch
          have hMisses : candidate? config path (first :: others) = none := by
            rw [candidate?, hFind, Option.map_none]
          obtain ⟨found, hFound, hSearched, hReads⟩ := ih first others hFits hBatch
          exact ⟨found, hFound, .passed (List.cons_ne_nil _ _) hMisses hSearched,
            List.forall_mem_cons.mpr ⟨⟨rfl, rfl⟩, hReads⟩⟩

/-- A search that is given answers out of a row finds what is first in the whole of it. -/
theorem Searched.eq_candidate? (h : Searched config path given found)
    (hDelivers : Delivers entries answers) (hGiven : given <+: answers) :
    found = candidate? config path entries := by
  -- On the search, with the whole row left open: each read takes one answer off both, and a row whose
  -- first answer is another one is no row of this search.
  induction h generalizing entries answers with
  | failed failure =>
    cases hDelivers with
    | exhausted => rfl
    | failed _ => rfl
    | batch filled hRest => cases (List.cons_prefix_cons.mp hGiven).1
  | exhausted =>
    cases hDelivers with
    | exhausted => rfl
    | failed _ => rfl
    | batch filled hRest =>
      cases (List.cons_prefix_cons.mp hGiven).1
      exact absurd rfl filled
  | found hits =>
    cases hDelivers with
    | exhausted =>
      cases (List.cons_prefix_cons.mp hGiven).1
      cases hits
    | failed _ => cases (List.cons_prefix_cons.mp hGiven).1
    | batch filled hRest =>
      cases (List.cons_prefix_cons.mp hGiven).1
      rw [candidate?_append, hits, Option.some_or]
  | passed filled misses _ ih =>
    cases hDelivers with
    | exhausted =>
      cases (List.cons_prefix_cons.mp hGiven).1
      exact absurd rfl filled
    | failed _ => cases (List.cons_prefix_cons.mp hGiven).1
    | batch _ hRest =>
      obtain ⟨hHead, hLater⟩ := List.cons_prefix_cons.mp hGiven
      cases hHead
      rw [candidate?_append, misses, Option.none_or]
      exact ih hRest hLater

theorem Searched.ne_nil (h : Searched config path given found) : given ≠ [] := by
  cases h <;> simp

/-- Only in the last batch that is read there can be a candidate. -/
theorem Searched.misses_before (h : Searched config path given found) :
    ∀ batch, .ok batch ∈ given.dropLast → candidate? config path batch = none := by
  induction h with
  | failed _ => simp
  | exhausted => simp
  | found _ => simp
  | passed filled misses hRest ih =>
    intro batch hBatch
    rw [List.dropLast_cons_of_ne_nil hRest.ne_nil] at hBatch
    cases hBatch with
    | head => exact misses
    | tail _ hLater => exact ih batch hLater

/-- Any row can be delivered to a search, if it was announced how long the directory may be. -/
theorem exists_runs_scan (h : Delivers entries answers) (config : Config) (path : Path)
    {directory : OpenDirectory} (hLength : entries.length ≤ directory.remaining) :
    ∃ calls events found, Runs (scan config path directory) calls events (some found) ∧
      readAnswers calls <+: answers := by
  induction h generalizing directory with
  | exhausted =>
    refine ⟨[⟨.readDirectory directory config.batchSize, .ok ⟨[], Nat.zero_le _⟩⟩], [], none, ?_, ?_⟩
    · rw [scan]
      exact .call _ (.done none)
    · exact List.prefix_refl _
  | failed failure =>
    refine ⟨[⟨.readDirectory directory config.batchSize, .error failure⟩], [], none, ?_, ?_⟩
    · rw [scan]
      exact .call _ (.done none)
    · exact List.prefix_refl _
  | @batch batch rest answers filled _ ih =>
    obtain ⟨first, others, rfl⟩ := List.exists_cons_of_ne_nil filled
    simp only [List.length_append, List.length_cons] at hLength
    have hFits : (first :: others).length ≤ directory.remaining := by
      rw [List.length_cons]
      omega
    let read : Exchange :=
      ⟨.readDirectory directory config.batchSize, .ok ⟨first :: others, hFits⟩⟩
    let scanned : Event := .scanningDirectory path (others.length + 1)
    cases hFind : (first :: others).find? (·.isPlugin config.extension) with
    | some entry =>
      refine ⟨[read], [scanned], some (path.join ⟨entry.name⟩), ?_, ?_⟩
      · rw [scan]
        apply Runs.call
        apply Runs.emit
        rw [hFind]
        exact .done _
      · exact List.prefix_append [.ok (first :: others)] answers
    | none =>
      have hRest : rest.length ≤
          ({ directory with remaining := directory.remaining - (others.length + 1) } :
            OpenDirectory).remaining := by
        dsimp only
        omega
      obtain ⟨calls, events, found, hRuns, hAnswers⟩ := ih hRest
      refine ⟨read :: calls, scanned :: events, found, ?_, ?_⟩
      · rw [scan]
        apply Runs.call
        apply Runs.emit
        rw [hFind]
        exact hRuns
      · exact List.cons_prefix_cons.mpr ⟨rfl, hAnswers⟩

/-- The calls of a search for the plugin of a title, and what it came to. -/
inductive Sought (config : Config) (title : TitleId) : List Exchange → Option Path → Prop where
  | closed (failure : StorageFailure) :
      Sought config title [⟨.openDirectory (config.titleDirectory title), .error failure⟩] none
  | opened {directory : OpenDirectory} {reads : List Exchange} {found : Option Path}
      (onlyReads : ∀ x ∈ reads, x.1.AsksOf directory.id config.batchSize)
      (searched : Searched config (config.titleDirectory title) (readAnswers reads) found) :
      Sought config title (⟨.openDirectory (config.titleDirectory title), .ok directory⟩ :: reads)
        found

theorem runs_titlePlugin {result : Option (Option Path)}
    (h : Runs (titlePlugin config title) calls events result) :
    ∃ found, result = some found ∧ Sought config title calls found := by
  obtain ⟨answer, reads, rfl, hAnswer⟩ := runs_call_iff.mp h
  cases answer with
  | error failure =>
    obtain ⟨rfl, _, rfl⟩ := runs_done_iff.mp hAnswer
    exact ⟨none, rfl, .closed failure⟩
  | ok directory =>
    obtain ⟨found, rfl, hSearched, hReads⟩ := runs_scan hAnswer
    exact ⟨found, rfl, .opened hReads hSearched⟩

theorem Sought.eq_candidate? (h : Sought config title calls found)
    (hOffers : Offers (config.titleDirectory title) calls entries) :
    found = candidate? config (config.titleDirectory title) entries := by
  cases h with
  | closed failure =>
    cases hOffers with
    | closed _ _ => rfl
    | opened _ reads => simp [ReadsFrom] at reads
  | @opened directory reads _ onlyReads searched =>
    cases hOffers with
    | closed failure refused =>
      have hRead : (⟨.openDirectory (config.titleDirectory title), .error failure⟩ : Exchange) ∈
          reads := by simpa using refused
      exact (onlyReads _ hRead).elim
    | opened delivers hReads => exact searched.eq_candidate? delivers hReads.2

theorem Sought.misses_before (h : Sought config title calls found) :
    ∀ batch, .ok batch ∈ (readAnswers calls).dropLast →
      candidate? config (config.titleDirectory title) batch = none := by
  cases h with
  | closed failure =>
    intro batch hBatch
    cases hBatch
  | opened _ searched => exact searched.misses_before

/-- Every read asks for as much as is configured, of the directory that was opened. -/
theorem Sought.asks (h : Sought config title calls found) :
    ∀ read ∈ directoryReads calls, read.max = config.batchSize ∧ ∃ opened : OpenDirectory,
      ⟨.openDirectory (config.titleDirectory title), .ok opened⟩ ∈ calls ∧
      read.directory = opened.id := by
  cases h with
  | closed failure =>
    intro read hRead
    cases hRead
  | @opened directory reads _ onlyReads searched =>
    intro read hRead
    obtain ⟨hDirectory, hMax⟩ := asked_of_asksOf onlyReads read hRead
    exact ⟨hMax, directory, List.mem_cons_self, hDirectory⟩

theorem Sought.eq_candidate?_of_handsOut (h : Sought config title calls found)
    (hOpened : ∃ directory, ⟨.openDirectory (config.titleDirectory title), .ok directory⟩ ∈ calls)
    (hHands : HandsOut entries (directoryReads calls)) :
    found = candidate? config (config.titleDirectory title) entries := by
  have hAsked : ∀ read ∈ directoryReads calls, 0 < read.max := by
    intro read hRead
    rw [(h.asks read hRead).1]
    exact config.batchSize_pos
  obtain ⟨answers, hDelivers, hReads⟩ := hHands.exists_delivers hAsked
  exact h.eq_candidate? (.opened hDelivers ⟨hOpened, hReads⟩)

theorem exists_runs_titlePlugin (config : Config) (title : TitleId) (h : Delivers entries answers) :
    ∃ calls events found, Runs (titlePlugin config title) calls events (some found) ∧
      ReadsFrom (config.titleDirectory title) answers calls := by
  let directory : OpenDirectory := ⟨0, entries.length⟩
  have hLength : entries.length ≤ directory.remaining := Nat.le_refl _
  obtain ⟨calls, events, found, hRuns, hAnswers⟩ :=
    exists_runs_scan h config (config.titleDirectory title) hLength
  let opening : Exchange := ⟨.openDirectory (config.titleDirectory title), .ok directory⟩
  exact ⟨opening :: calls, events, found, .call _ hRuns, ⟨directory, List.mem_cons_self⟩, hAnswers⟩

/-- A search comes to an end and finds the first candidate of the directory, however its entries come in,
and without reading on behind the batch in which that stands. It asks for as many entries as is configured.
Where no read fails, this number makes no difference. -/
theorem titlePlugin_first_candidate (config : Config) (title : TitleId) :
    (∀ entries answers, Delivers entries answers →
      ∃ calls events found, Runs (titlePlugin config title) calls events (some found) ∧
        ReadsFrom (config.titleDirectory title) answers calls) ∧
    (∀ calls events result, Runs (titlePlugin config title) calls events result →
      (∀ read ∈ directoryReads calls, read.max = config.batchSize ∧ ∃ opened : OpenDirectory,
        ⟨.openDirectory (config.titleDirectory title), .ok opened⟩ ∈ calls ∧
        read.directory = opened.id) ∧
      ∀ entries, Offers (config.titleDirectory title) calls entries →
        result = some (candidate? config (config.titleDirectory title) entries) ∧
          ∀ batch, .ok batch ∈ (readAnswers calls).dropLast →
            candidate? config (config.titleDirectory title) batch = none) ∧
    ∀ n m entries calls calls' events events' result result',
      Runs (titlePlugin (config.withBatchSize n) title) calls events result →
      Runs (titlePlugin (config.withBatchSize m) title) calls' events' result' →
      (∃ directory, ⟨.openDirectory (config.titleDirectory title), .ok directory⟩ ∈ calls) →
      (∃ directory, ⟨.openDirectory (config.titleDirectory title), .ok directory⟩ ∈ calls') →
      HandsOut entries (directoryReads calls) → HandsOut entries (directoryReads calls') →
      result = some (candidate? config (config.titleDirectory title) entries) ∧ result' = result := by
  refine ⟨fun entries answers => exists_runs_titlePlugin config title, ?_, ?_⟩
  · intro calls events result hRuns
    obtain ⟨found, rfl, hSought⟩ := runs_titlePlugin hRuns
    refine ⟨hSought.asks, ?_⟩
    intro entries hOffers
    exact ⟨congrArg some (hSought.eq_candidate? hOffers), hSought.misses_before⟩
  · intro n m entries calls calls' events events' result result' hRuns hRuns' hOpened hOpened' hHands
      hHands'
    obtain ⟨found, rfl, hSought⟩ := runs_titlePlugin hRuns
    obtain ⟨found', rfl, hSought'⟩ := runs_titlePlugin hRuns'
    obtain rfl := hSought.eq_candidate?_of_handsOut hOpened hHands
    obtain rfl := hSought'.eq_candidate?_of_handsOut hOpened' hHands'
    exact ⟨rfl, rfl⟩

/-- A file of another kind, a directory that is named like a plugin, and two plugins. -/
def mixedDirectory : List Entry :=
  [⟨"readme.txt", false⟩, ⟨"old.3gx", true⟩, ⟨"cheats.3GX", false⟩, ⟨"other.3gx", false⟩]

theorem titlePlugin_of_mixed_directory :
    ∃ calls calls' events events',
      Runs (titlePlugin ((Config.stock 0).withBatchSize 0) ⟨5⟩) calls events
        (some (some ⟨"/luma/plugins/0000000000000005/cheats.3GX"⟩)) ∧
      ReadsFrom ⟨"/luma/plugins/0000000000000005"⟩ (mixedDirectory.map (.ok [·]) ++ [.ok []]) calls ∧
      HandsOut mixedDirectory (directoryReads calls) ∧
      Runs (titlePlugin ((Config.stock 0).withBatchSize 10) ⟨5⟩) calls' events'
        (some (some ⟨"/luma/plugins/0000000000000005/cheats.3GX"⟩)) ∧
      ReadsFrom ⟨"/luma/plugins/0000000000000005"⟩ [.ok mixedDirectory, .ok []] calls' ∧
      HandsOut mixedDirectory (directoryReads calls') := by
  have hDirectory : (Config.stock 0).titleDirectory ⟨5⟩ = ⟨"/luma/plugins/0000000000000005"⟩ := by
    decide +kernel
  have hSingly := delivers_singly mixedDirectory
  have hAtOnce : Delivers mixedDirectory [.ok mixedDirectory, .ok []] := delivers_at_once (by decide)
  obtain ⟨hEnds, hFirst, _⟩ :=
    titlePlugin_first_candidate ((Config.stock 0).withBatchSize 0) ⟨5⟩
  obtain ⟨hEnds', hFirst', _⟩ :=
    titlePlugin_first_candidate ((Config.stock 0).withBatchSize 10) ⟨5⟩
  obtain ⟨_, _, hSame⟩ := titlePlugin_first_candidate (Config.stock 0) ⟨5⟩
  obtain ⟨calls, events, found, hRuns, hReads⟩ := hEnds _ _ hSingly
  obtain ⟨calls', events', found', hRuns', hReads'⟩ := hEnds' _ _ hAtOnce
  have hHands : HandsOut mixedDirectory (directoryReads calls) := by
    refine hSingly.handsOut ?_ hReads.2 fun read hRead => ((hFirst _ _ _ hRuns).1 read hRead).1
    simp only [List.mem_append, List.mem_map, List.mem_singleton]
    rintro _ (⟨entry, _, rfl⟩ | rfl)
    · exact ⟨[entry], rfl, Nat.le_refl 1⟩
    · exact ⟨[], rfl, Nat.zero_le 1⟩
  have hHands' : HandsOut mixedDirectory (directoryReads calls') := by
    refine hAtOnce.handsOut ?_ hReads'.2 fun read hRead => ((hFirst' _ _ _ hRuns').1 read hRead).1
    simp [Config.withBatchSize, mixedDirectory]
  obtain ⟨hFound, hFound'⟩ :=
    hSame _ _ _ _ _ _ _ _ _ hRuns hRuns' hReads.1 hReads'.1 hHands hHands'
  have hCheats : candidate? (Config.stock 0) ((Config.stock 0).titleDirectory ⟨5⟩) mixedDirectory =
      some ⟨"/luma/plugins/0000000000000005/cheats.3GX"⟩ := by
    decide +kernel
  rw [hCheats] at hFound
  rw [hFound', hFound] at hRuns'
  rw [hFound] at hRuns
  rw [← hDirectory]
  exact ⟨calls, calls', events, events', hRuns, hReads, hHands, hRuns', hReads', hHands'⟩

end Lookup
end GuestPlugin
