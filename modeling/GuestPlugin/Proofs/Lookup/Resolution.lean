import GuestPlugin.Proofs.Lookup.Search

/-! # Which plugin is opened

There is a short list of plugins that would do: the first candidate in the directory of the title, if it
offers one, and then the default plugin. They are tried in this order, and the first that opens is taken,
whatever the reason why an earlier one was passed over.
-/

set_option autoImplicit false

namespace GuestPlugin

open Program

def HostCall.IsOpenFile : HostCall → Prop
  | .openFile _ => True
  | _ => False

theorem HostCall.AsksOf.not_isOpenFile {c : HostCall} {id max : Nat} (h : c.AsksOf id max) :
    ¬ c.IsOpenFile := by
  cases c with
  | openFile path => exact h.elim
  | _ => exact not_false

section Opening

variable {path : Path} {calls opens : List Exchange} {entries : List Entry}
  (hOpens : ∀ x ∈ opens, x.1.IsOpenFile)
include hOpens

theorem readAnswers_append_opens : readAnswers (calls ++ opens) = readAnswers calls := by
  have hNone : directoryReads opens = [] := by
    apply List.filterMap_eq_nil_iff.mpr
    rintro ⟨c, answer⟩ hMem
    cases c with
    | openFile path => rfl
    | _ => exact (hOpens _ hMem).elim
  rw [readAnswers, directoryReads, List.filterMap_append, ← directoryReads, ← directoryReads, hNone,
    List.append_nil, readAnswers]

theorem offers_append_opens_iff :
    Offers path (calls ++ opens) entries ↔ Offers path calls entries := by
  have hMem (answer) : (⟨.openDirectory path, answer⟩ : Exchange) ∈ calls ++ opens ↔
      ⟨.openDirectory path, answer⟩ ∈ calls := by
    rw [List.mem_append]
    exact or_iff_left (hOpens _)
  have hReads (answers) : ReadsFrom path answers (calls ++ opens) ↔ ReadsFrom path answers calls := by
    simp only [ReadsFrom, hMem, readAnswers_append_opens hOpens]
  constructor
  · rintro (⟨failure, refused⟩ | ⟨delivers, reads⟩)
    · exact .closed failure ((hMem _).mp refused)
    · exact .opened delivers ((hReads _).mp reads)
  · rintro (⟨failure, refused⟩ | ⟨delivers, reads⟩)
    · exact .closed failure ((hMem _).mpr refused)
    · exact .opened delivers ((hReads _).mpr reads)

end Opening

namespace Lookup

/-- The plugins that would do, each with whether it is the default one. -/
def choices (config : Config) (own? : Option Path) : List (Path × Bool) :=
  own?.toList.map (·, false) ++ [(config.defaultPlugin, true)]

theorem length_choices_le (config : Config) (own? : Option Path) :
    (choices config own?).length ≤ 2 := by
  cases own? <;> simp [choices]

/-- Files that are tried in order up to the first that opens, and the plugin that this gives. -/
inductive FirstToOpen : List (Path × Bool) → List Exchange → Option OpenedPlugin → Prop where
  | nothingLeft : FirstToOpen [] [] none
  | opened (path : Path) (isDefault : Bool) (stream : Stream) (others : List (Path × Bool)) :
      FirstToOpen ((path, isDefault) :: others) [⟨.openFile path, .ok stream⟩]
        (some ⟨path, stream, isDefault⟩)
  | refused (path : Path) (isDefault : Bool) (failure : StorageFailure)
      {others : List (Path × Bool)} {opens : List Exchange} {found : Option OpenedPlugin}
      (h : FirstToOpen others opens found) :
      FirstToOpen ((path, isDefault) :: others) (⟨.openFile path, .error failure⟩ :: opens) found

namespace FirstToOpen

variable {first others : List (Path × Bool)} {opens rest : List Exchange} {plugin : OpenedPlugin}
  {found : Option OpenedPlugin}

theorem extend (h : FirstToOpen first opens (some plugin)) (others : List (Path × Bool)) :
    FirstToOpen (first ++ others) opens (some plugin) := by
  generalize hSome : some plugin = found at h
  induction h with
  | nothingLeft => cases hSome
  | opened path isDefault stream tail => exact .opened path isDefault stream (tail ++ others)
  | refused path isDefault failure _ ih => exact .refused path isDefault failure (ih hSome)

theorem append (h : FirstToOpen first opens none) (hRest : FirstToOpen others rest found) :
    FirstToOpen (first ++ others) (opens ++ rest) found := by
  generalize hNone : (none : Option OpenedPlugin) = missed at h
  induction h with
  | nothingLeft => exact hRest
  | opened => cases hNone
  | refused path isDefault failure _ ih => exact .refused path isDefault failure (ih hNone)

theorem isOpenFile (h : FirstToOpen first opens found) : ∀ x ∈ opens, x.1.IsOpenFile := by
  induction h with
  | nothingLeft => exact List.forall_mem_nil _
  | opened => exact List.forall_mem_singleton.mpr trivial
  | refused _ _ _ _ ih => exact List.forall_mem_cons.mpr ⟨trivial, ih⟩

theorem prefix_choices (h : FirstToOpen first opens found) :
    opens.map (·.1) <+: first.map fun choice => .openFile choice.1 := by
  induction h with
  | nothingLeft => exact List.nil_prefix
  | opened => exact List.cons_prefix_cons.mpr ⟨rfl, List.nil_prefix⟩
  | refused _ _ _ _ ih => exact List.cons_prefix_cons.mpr ⟨rfl, ih⟩

/-- Without a plugin, all that would do was tried, and none of it opened. -/
theorem eq_none_iff (h : FirstToOpen first opens found) :
    found = none ↔ opens.map (·.1) = first.map (fun choice => .openFile choice.1) ∧
      ∀ path stream, ⟨.openFile path, .ok stream⟩ ∉ opens := by
  induction h with
  | nothingLeft => simp
  | opened path isDefault stream others =>
    constructor
    · nofun
    · rintro ⟨_, hNone⟩
      exact absurd List.mem_cons_self (hNone path stream)
  | refused _ _ _ _ ih => simp [ih]

theorem eq_some_iff (h : FirstToOpen first opens found) (path : Path) (stream : Stream) :
    (∃ isDefault, found = some ⟨path, stream, isDefault⟩) ↔
      ⟨.openFile path, .ok stream⟩ ∈ opens := by
  induction h with
  | nothingLeft => simp
  | opened path' isDefault stream' others =>
    constructor
    · rintro ⟨_, hFound⟩
      cases hFound
      exact List.mem_cons_self
    · intro hMem
      cases List.mem_singleton.mp hMem
      exact ⟨isDefault, rfl⟩
  | refused _ _ _ _ ih => simp [ih]

end FirstToOpen

variable {config : Config} {title : TitleId} {calls : List Exchange} {events : List Event}
  {entries : List Entry} {answers given : List ReadAnswer} {found : Option Path}

theorem Sought.not_isOpenFile (h : Sought config title calls found) :
    ∀ x ∈ calls, ¬ x.1.IsOpenFile := by
  cases h with
  | closed failure => exact List.forall_mem_singleton.mpr nofun
  | opened onlyReads searched =>
    intro x hMem
    cases hMem with
    | head => exact not_false
    | tail _ hRead => exact (onlyReads x hRead).not_isOpenFile

/-- A search sees a directory that some row could have delivered. -/
theorem Searched.exists_delivers {path : Path} (h : Searched config path given found) :
    ∃ entries answers, Delivers entries answers ∧ given <+: answers := by
  induction h with
  | failed failure => exact ⟨[], _, .failed failure, List.prefix_refl _⟩
  | exhausted => exact ⟨[], _, .exhausted, List.prefix_refl _⟩
  | @found batch plugin hits =>
    have hFilled : batch ≠ [] := by
      rintro rfl
      cases hits
    exact ⟨_, _, .batch hFilled .exhausted, List.cons_prefix_cons.mpr ⟨rfl, List.nil_prefix⟩⟩
  | passed filled _ _ ih =>
    obtain ⟨entries, answers, hDelivers, hGiven⟩ := ih
    exact ⟨_, _, .batch filled hDelivers, List.cons_prefix_cons.mpr ⟨rfl, hGiven⟩⟩

theorem Sought.exists_offers (h : Sought config title calls found) :
    ∃ entries, Offers (config.titleDirectory title) calls entries := by
  cases h with
  | closed failure => exact ⟨[], .closed failure List.mem_cons_self⟩
  | @opened directory reads _ onlyReads searched =>
    obtain ⟨entries, answers, hDelivers, hGiven⟩ := searched.exists_delivers
    exact ⟨entries, .opened hDelivers ⟨⟨directory, List.mem_cons_self⟩, hGiven⟩⟩

theorem runs_openTitlePlugin {result : Option (Option OpenedPlugin)}
    (h : Runs (openTitlePlugin config title) calls events result) :
    ∃ own? search opens plugin?, Sought config title search own? ∧ calls = search ++ opens ∧
      FirstToOpen (own?.toList.map (·, false)) opens plugin? ∧ result = some plugin? := by
  obtain ⟨own?, search, opens, _, later, hSearch, hOpen, rfl, rfl⟩ :=
    (titlePlugin_within config title).total.runs_bind_iff.mp h
  obtain ⟨_, ⟨⟩, hSought⟩ := runs_titlePlugin hSearch
  cases own? with
  | none =>
    obtain ⟨rfl, _, rfl⟩ := runs_done_iff.mp hOpen
    exact ⟨none, search, [], none, hSought, rfl, .nothingLeft, rfl⟩
  | some path =>
    obtain ⟨answer, _, rfl, hAnswer⟩ := runs_call_iff.mp hOpen
    cases answer with
    | ok stream =>
      obtain ⟨rfl, _, rfl⟩ := runs_done_iff.mp hAnswer
      exact ⟨some path, search, _, _, hSought, rfl, .opened path false stream [], rfl⟩
    | error failure =>
      obtain ⟨_, _, hEnd⟩ := runs_emit_iff.mp hAnswer
      obtain ⟨rfl, _, rfl⟩ := runs_done_iff.mp hEnd
      exact ⟨some path, search, _, _, hSought, rfl, .refused path false failure .nothingLeft, rfl⟩

def resolution (title : TitleId) (plugin? : Option OpenedPlugin) :
    Except LookupError OpenedPlugin :=
  plugin?.elim (.error (.notFound title)) .ok

theorem resolution_eq_error_iff {plugin? : Option OpenedPlugin} {cause : LookupError} :
    resolution title plugin? = .error cause ↔ plugin? = none ∧ cause = .notFound title := by
  cases plugin? <;> simp [resolution, eq_comm]

theorem resolution_eq_ok_iff {plugin? : Option OpenedPlugin} {plugin : OpenedPlugin} :
    resolution title plugin? = .ok plugin ↔ plugin? = some plugin := by
  cases plugin? <;> simp [resolution]

theorem runs_openPlugin {result : Option (Except LookupError OpenedPlugin)}
    (h : Runs (openPlugin config title) calls events result) :
    ∃ own? search opens plugin?, Sought config title search own? ∧ calls = search ++ opens ∧
      FirstToOpen (choices config own?) opens plugin? ∧ result = some (resolution title plugin?) := by
  obtain ⟨plugin?, _, rest, _, _, hTitle, hRest, rfl, _⟩ :=
    (openTitlePlugin_within config title).total.runs_bind_iff.mp h
  obtain ⟨own?, search, opens, _, hSought, rfl, hOpens, ⟨⟩⟩ := runs_openTitlePlugin hTitle
  cases plugin? with
  | some plugin =>
    obtain ⟨rfl, _, rfl⟩ := runs_done_iff.mp hRest
    exact ⟨own?, search, opens, some plugin, hSought, List.append_nil _, hOpens.extend _, rfl⟩
  | none =>
    obtain ⟨answer, _, rfl, hAnswer⟩ := runs_call_iff.mp hRest
    cases answer with
    | ok stream =>
      obtain ⟨rfl, _, rfl⟩ := runs_done_iff.mp hAnswer
      exact ⟨own?, search, _, _, hSought, List.append_assoc _ _ _,
        hOpens.append (.opened config.defaultPlugin true stream []), rfl⟩
    | error failure =>
      obtain ⟨rfl, _, rfl⟩ := runs_done_iff.mp hAnswer
      exact ⟨own?, search, _, _, hSought, List.append_assoc _ _ _,
        hOpens.append (.refused config.defaultPlugin true failure .nothingLeft), rfl⟩

/-- Calls that only open files, and get what this table says. -/
def OpensAs (files : Path → Except StorageFailure Stream) (calls : List Exchange) : Prop :=
  ∀ x ∈ calls, ∃ path, x = ⟨.openFile path, files path⟩

section Existence

variable {α β : Type} {files : Path → Except StorageFailure Stream} {search opens : List Exchange}

theorem OpensAs.isOpenFile (h : OpensAs files opens) : ∀ x ∈ opens, x.1.IsOpenFile := by
  intro x hMem
  obtain ⟨path, rfl⟩ := h x hMem
  trivial

theorem exists_runs_openFile (path : Path) {rest : Except StorageFailure Stream → Program α}
    (hRest : ∀ answer, ∃ events a, Runs (rest answer) [] events (some a)) :
    ∃ opens events a, OpensAs files opens ∧
      Runs (.call (.openFile path) rest) opens events (some a) := by
  obtain ⟨events, a, hRuns⟩ := hRest (files path)
  have hOpens : OpensAs files [⟨.openFile path, files path⟩] :=
    List.forall_mem_singleton.mpr ⟨path, rfl⟩
  exact ⟨_, events, a, hOpens, .call _ hRuns⟩

theorem exists_runs_bind {p : Program α} {f : α → Program β} {a : α}
    (h : Runs p calls events (some a))
    (hf : ∃ opens events b, OpensAs files opens ∧ Runs (f a) opens events (some b)) :
    ∃ opens events b, OpensAs files opens ∧ Runs (p >>= f) (calls ++ opens) events (some b) := by
  obtain ⟨opens, events', b, hOpens, hRuns⟩ := hf
  exact ⟨opens, _, b, hOpens, h.bind hRuns⟩

theorem exists_runs_openTitlePlugin (files : Path → Except StorageFailure Stream)
    (h : Runs (titlePlugin config title) search events (some found)) :
    ∃ opens events plugin?, OpensAs files opens ∧
      Runs (openTitlePlugin config title) (search ++ opens) events (some plugin?) := by
  apply exists_runs_bind h
  cases found with
  | none => exact ⟨[], [], none, List.forall_mem_nil _, .done none⟩
  | some path =>
    apply exists_runs_openFile path
    rintro (failure | stream)
    · exact ⟨_, _, .emit _ (.done none)⟩
    · exact ⟨_, _, .done _⟩

theorem exists_runs_openPlugin (files : Path → Except StorageFailure Stream)
    (h : Runs (titlePlugin config title) search events (some found)) :
    ∃ opens events outcome, OpensAs files opens ∧
      Runs (openPlugin config title) (search ++ opens) events (some outcome) := by
  obtain ⟨opens, events', plugin?, hOpens, hRuns⟩ := exists_runs_openTitlePlugin files h
  have hDefault : ∃ later events outcome, OpensAs files later ∧
      Runs (openPlugin config title) (search ++ opens ++ later) events (some outcome) := by
    apply exists_runs_bind hRuns
    cases plugin? with
    | some plugin => exact ⟨[], [], .ok plugin, List.forall_mem_nil _, .done _⟩
    | none =>
      apply exists_runs_openFile config.defaultPlugin
      rintro (failure | stream) <;> exact ⟨_, _, .done _⟩
  obtain ⟨later, events, outcome, hLater, hAll⟩ := hDefault
  rw [List.append_assoc] at hAll
  exact ⟨opens ++ later, events, outcome, List.forall_mem_append.mpr ⟨hOpens, hLater⟩, hAll⟩

end Existence

/-- The candidate of the directory and then the default plugin are opened in this order up to the first
that opens, and this file is returned; only if neither opens, nothing was found. Every search goes on to
such an end, whichever files open. -/
theorem openPlugin_first_that_opens (config : Config) (title : TitleId) :
    (∀ search events found files, Runs (titlePlugin config title) search events (some found) →
      ∃ opens events' outcome, OpensAs files opens ∧
        Runs (openPlugin config title) (search ++ opens) events' (some outcome)) ∧
    ∀ calls events result, Runs (openPlugin config title) calls events result →
      (∃ entries, Offers (config.titleDirectory title) calls entries) ∧
      ∀ entries, Offers (config.titleDirectory title) calls entries →
        ∃ search opens plugin? outcome, calls = search ++ opens ∧ result = some outcome ∧
          (∀ x ∈ search, ¬ x.1.IsOpenFile) ∧ opens.length ≤ 2 ∧
          FirstToOpen
            (choices config (candidate? config (config.titleDirectory title) entries))
            opens plugin? ∧
          (∀ plugin, outcome = .ok plugin ↔ plugin? = some plugin) ∧
          (∀ path stream, (∃ isDefault, outcome = .ok ⟨path, stream, isDefault⟩) ↔
            ⟨.openFile path, .ok stream⟩ ∈ opens) ∧
          ∀ cause, outcome = .error cause ↔ cause = .notFound title ∧
            opens.map (·.1) =
              (choices config (candidate? config (config.titleDirectory title) entries)).map
                (fun choice => .openFile choice.1) ∧
            ∀ path stream, ⟨.openFile path, .ok stream⟩ ∉ opens := by
  refine ⟨fun _ _ _ files => exists_runs_openPlugin files, ?_⟩
  intro calls events result h
  obtain ⟨own?, search, opens, plugin?, hSought, rfl, hOpens, rfl⟩ := runs_openPlugin h
  simp only [offers_append_opens_iff hOpens.isOpenFile]
  refine ⟨hSought.exists_offers, ?_⟩
  intro entries hOffers
  rw [← hSought.eq_candidate? hOffers]
  refine ⟨search, opens, plugin?, _, rfl, rfl, hSought.not_isOpenFile, ?_, hOpens, ?_, ?_, ?_⟩
  · calc
      opens.length = (opens.map (·.1)).length := (List.length_map _).symm
      _ ≤ ((choices config own?).map fun choice => HostCall.openFile choice.1).length :=
        hOpens.prefix_choices.length_le
      _ = (choices config own?).length := List.length_map _
      _ ≤ 2 := length_choices_le config own?
  · exact fun _ => resolution_eq_ok_iff
  · intro path stream
    simp only [resolution_eq_ok_iff]
    exact hOpens.eq_some_iff path stream
  · intro cause
    rw [resolution_eq_error_iff, hOpens.eq_none_iff, and_comm]

/-- The first candidate does not open, and so the second one is not looked at. -/
theorem openPlugin_of_mixed_directory :
    ∃ calls events stream,
      Runs (openPlugin (Config.stock 0) ⟨5⟩) calls events
        (some (.ok ⟨⟨"/luma/plugins/default.3gx"⟩, stream, true⟩)) ∧
      ReadsFrom ⟨"/luma/plugins/0000000000000005"⟩ [.ok mixedDirectory, .ok []] calls ∧
      ⟨.openFile ⟨"/luma/plugins/0000000000000005/cheats.3GX"⟩, .error ⟨"locked"⟩⟩ ∈ calls := by
  have hDirectory : (Config.stock 0).titleDirectory ⟨5⟩ = ⟨"/luma/plugins/0000000000000005"⟩ := by
    decide +kernel
  have hChoices : choices (Config.stock 0) (candidate? (Config.stock 0)
      ⟨"/luma/plugins/0000000000000005"⟩ mixedDirectory) =
        [(⟨"/luma/plugins/0000000000000005/cheats.3GX"⟩, false),
          (⟨"/luma/plugins/default.3gx"⟩, true)] := by
    decide +kernel
  let files (path : Path) : Except StorageFailure Stream :=
    if path = ⟨"/luma/plugins/default.3gx"⟩ then .ok (.ofContent .empty) else .error ⟨"locked"⟩
  have hDelivers : Delivers mixedDirectory [.ok mixedDirectory, .ok []] :=
    delivers_at_once (by decide)
  obtain ⟨hEnds, hFirst⟩ := openPlugin_first_that_opens (Config.stock 0) ⟨5⟩
  obtain ⟨search, searched, found, hSearch, hReads⟩ :=
    exists_runs_titlePlugin (Config.stock 0) ⟨5⟩ hDelivers
  obtain ⟨opens, events, outcome, hOpens, hRuns⟩ := hEnds _ _ _ files hSearch
  rw [hDirectory] at hReads hFirst
  have hAll := (offers_append_opens_iff hOpens.isOpenFile).mpr (.opened hDelivers hReads)
  obtain ⟨search', opens', plugin?, _, hCalls, ⟨⟩, _, _, hTried, hPlugin, _⟩ :=
    (hFirst _ _ _ hRuns).2 _ hAll
  have hAnswer (path answer) (hMem : ⟨.openFile path, answer⟩ ∈ opens') : answer = files path := by
    have hOpened : ⟨.openFile path, answer⟩ ∈ search ++ opens :=
      hCalls ▸ List.mem_append_right search' hMem
    obtain ⟨_, _, hSought⟩ := runs_titlePlugin hSearch
    obtain ⟨_, hFile⟩ := hOpens _
      ((List.mem_append.mp hOpened).resolve_left fun h => hSought.not_isOpenFile _ h trivial)
    cases hFile
    rfl
  rw [hChoices] at hTried
  cases hTried with
  | opened path _ stream _ => cases hAnswer _ (.ok stream) List.mem_cons_self
  | refused path _ failure hRest =>
    cases hAnswer _ (.error failure) List.mem_cons_self
    cases hRest with
    | opened path _ stream _ =>
      rw [(hPlugin _).mpr rfl, hCalls] at hRuns
      refine ⟨_, events, stream, hRuns, ?_, ?_⟩
      · rw [← hCalls]
        exact ⟨hReads.1.imp fun _ => List.mem_append_left opens,
          (readAnswers_append_opens hOpens.isOpenFile).symm ▸ hReads.2⟩
      · exact List.mem_append_right search' List.mem_cons_self
    | refused path _ failure _ =>
      cases hAnswer _ (.error failure) (List.mem_cons_of_mem _ List.mem_cons_self)

end Lookup
end GuestPlugin
