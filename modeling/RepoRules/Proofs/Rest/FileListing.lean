import Mathlib
import RepoRules.Proofs.Rest.Pages

/-!
The changed files of a pull request. They are read page by page to the first page that is not full,
and thirty pages at most, which makes three thousand files. A page that fails makes the listing fail.
-/

namespace RepoRules.Rest.Api

variable {τ : Type}

/-- An object that shows the name of a file, whatever else it holds. -/
def IsFile (item : Json.Written) (name : String) : Prop :=
  ∃ entries, item = .object entries ∧ Decode.Named entries ∧
    Decode.Stands entries "filename" (.string name)

def fileField : Decode.RecordField String :=
  ⟨"filename", .required, fun _ value => Decode.text value⟩

theorem file_name_eq_ok {item : Json.Written} {name : String} (shown : IsFile item name) :
    fileName item = .ok name := by
  obtain ⟨entries, rfl, named, stands⟩ := shown
  change Decode.Stands entries fileField.name (.string name) at stands
  obtain ⟨result, read⟩ := Decode.exists_record_of "GithubFile" "" named
    (List.forall_mem_singleton.2 ⟨_, stands, fun before => ⟨name, rfl⟩⟩ :
      ∀ field ∈ [fileField], _)
  have same : result = name := by
    apply Decode.view_of_stands read rfl stands id
    · intro before after entered
      cases entered
      rfl
    · intro other member differs
      rw [List.mem_singleton.1 member] at differs
      exact absurd rfl differs
  exact read.trans (congrArg Except.ok same)

def filesRequest (api : Api τ) (names : List String) (number : Nat) : Nat → Request :=
  api.pageRequest names ["pulls", toString number, "files"] []

def isLastOfFiles (batch : List String) : Bool :=
  decide (batch.length < pageSize)

theorem files_from_eq_pages (api : Api τ) (number remaining start : Nat) :
    api.filesFrom number remaining start =
      List.flatten <$> api.pagesFrom ["pulls", toString number, "files"] [] fileName isLastOfFiles
        remaining start := by
  induction remaining generalizing start with
  | zero => rw [filesFrom, pagesFrom, map_pure, List.flatten_nil]
  | succ remaining induction =>
      rw [filesFrom, pagesFrom, map_bind]
      congr 1
      funext batch
      by_cases short : batch.length < pageSize
      · have last : isLastOfFiles batch = true := decide_eq_true short
        rw [if_pos short, if_pos last, map_pure, List.flatten_singleton]
      · have more : isLastOfFiles batch = false := decide_eq_false short
        rw [if_neg short, more, induction]
        simp

/-- How the changed files of a pull request are asked for: the pages in order, each once, and no more
behind one that fails. Its failure is that of all. -/
structure AsksForFiles (api : Api τ) (names : List String) (number : Nat) (log : List Sent)
    (result : Except Failure (List String)) : Prop where
  asks : log.map Prod.fst = (List.range' 1 log.length).map (api.filesRequest names number)
  begins : log ≠ []
  bounded : log.length ≤ 30
  fails : ∀ sent ∈ log, ∀ failure, received fileName sent.2 = .error failure →
    result = .error failure ∧ log.getLast? = some sent

/-- How a list of files that is served in pages is listed. -/
structure ListsFiles (files : List String) (log : List Sent)
    (result : Except Failure (List String)) : Prop where
  /-- A page is received whenever its request succeeds. -/
  receives : ∀ place sent, log[place]? = some sent → sent.Succeeded →
    received fileName sent.2 = .ok (page files (1 + place))
  /-- Pages in front of the last one are full. -/
  goesOn : ∀ earlier, 0 < earlier → earlier < log.length → (page files earlier).length = 100
  lists : (∀ sent ∈ log, sent.Succeeded) →
    result = .ok (files.take 3000) ∧
      (log.length = 30 ∨ (page files log.length).length < 100)

theorem changed_files_are_first_entries (api : Api τ) {names : List String}
    (divided : api.base.path = .segments names) (number : Nat) (state : τ) :
    ∃ result after log,
      (api.changedFiles number).run.run state = (result, after) ∧
      (api.recording.changedFiles number).run.run (state, []) = (result, (after, log)) ∧
      api.AsksForFiles names number log result ∧
      ∀ files, api.transport.Serves (api.filesRequest names number) IsFile files →
        ListsFiles files log result := by
  obtain ⟨after, log, runs, records, turns⟩ := api.run_pages_from
    ["pulls", toString number, "files"] [] fileName isLastOfFiles divided filePages 1 state []
  rw [List.nil_append] at records
  rw [changedFiles, changedFiles, files_from_eq_pages, files_from_eq_pages, run_map, run_map, runs,
    records]
  have begins : 0 < log.length := List.length_pos_iff.2 turns.begins
  have bounded : log.length ≤ 30 := turns.bounded
  refine ⟨_, after, log, rfl, rfl, ⟨turns.requests, turns.begins, bounded, ?_⟩, ?_⟩
  · intro sent member failure refused
    obtain ⟨ended, last⟩ := turns.fails member refused
    rw [ended]
    exact ⟨rfl, last⟩
  intro files serves
  have gives := serves.gives fun item name => file_name_eq_ok
  have short_iff (found : Nat) : isLastOfFiles (page files found) = true ↔
      (page files found).length < 100 := decide_eq_true_iff
  refine ⟨fun place sent found => turns.receives gives Nat.one_pos found, ?_, ?_⟩
  · intro earlier positive inside
    have full := turns.earlier gives Nat.one_pos positive (by omega)
    have most := page_length files earlier
    have least := mt (short_iff earlier).2 (Bool.eq_false_iff.1 full)
    simp only [pageSize] at most
    omega
  · intro succeeded
    have ends := turns.ends gives Nat.one_pos succeeded
    rw [Nat.add_sub_cancel_left, short_iff] at ends
    refine ⟨?_, ends⟩
    rw [turns.received gives Nat.one_pos succeeded, Except.map, flatten_pages]
    rcases ends with all | short
    · rw [all]
      rfl
    · have few : files.length ≤ pageSize * log.length := by
        rw [page_length] at short
        simp only [pageSize] at short ⊢
        omega
      have all : files.length ≤ 3000 := few.trans (Nat.mul_le_mul_left pageSize bounded)
      rw [List.take_of_length_le few, List.take_of_length_le all]

def servingFiles : Api Unit where
  transport := .showing "per_page=100&page="
    "[\x7b\"sha\": \"0\", \"filename\": \"docs/a.md\"\x7d, \x7b\"filename\": \"docs/b.md\"\x7d]"
  base := granting.base
  token := granting.token
  repository := granting.repository

theorem serves_two_files : servingFiles.transport.Serves (servingFiles.filesRequest [""] 7)
    IsFile ["docs/a.md", "docs/b.md"] := by
  have shown : List.Forall₂ IsFile
      [.object [(some "sha", .string (some "0")), (some "filename", .string (some "docs/a.md"))],
        .object [(some "filename", .string (some "docs/b.md"))]] ["docs/a.md", "docs/b.md"] := by
    refine .cons ⟨_, rfl, by simp [Decode.Named], by decide, ?_⟩
      (.cons ⟨_, rfl, by simp [Decode.Named], by decide, ?_⟩ .nil)
    · simp [Json.Written.value?, Json.Written.valueWithin?]
    · simp [Json.Written.value?, Json.Written.valueWithin?]
  apply Transport.showing_serves (fun number => rfl) _ shown (by decide)
  cbv

theorem two_files_are_listed :
    servingFiles.base.path = .segments [""] ∧
      servingFiles.transport.Serves (servingFiles.filesRequest [""] 7) IsFile
        ["docs/a.md", "docs/b.md"] ∧
      ∃ after log, (servingFiles.recording.changedFiles 7).run.run ((), []) =
          (.ok ["docs/a.md", "docs/b.md"], (after, log)) ∧
        servingFiles.AsksForFiles [""] 7 log (.ok ["docs/a.md", "docs/b.md"]) ∧
        ListsFiles ["docs/a.md", "docs/b.md"] log (.ok ["docs/a.md", "docs/b.md"]) := by
  refine ⟨rfl, serves_two_files, ?_⟩
  obtain ⟨result, after, log, runs, records, asks, lists⟩ :=
    changed_files_are_first_entries servingFiles rfl 7 ()
  have found : ((servingFiles.changedFiles 7).run.run ()).1.toOption =
      some ["docs/a.md", "docs/b.md"] := by decide +kernel
  rw [runs] at found
  obtain rfl := to_option_eq_some found
  exact ⟨after, log, records, asks, lists _ serves_two_files⟩

end RepoRules.Rest.Api
