import RepoRules.Proofs.Metadata.Precedence

/-!
Line ends of bodies. Two replacements bring every line end to a single line feed: the first one
takes the return off a line feed, the second one leaves no return behind. What is extracted from a
body, and what is fetched for it, is the same whichever line ends it was sent with.
-/

namespace RepoRules

namespace Text

section Replacements

variable {head : Char} {tail replacement characters : List Char}

/-- Where a character of a piece does not occur, the piece does not either. -/
theorem replace_chars_of_absent (absent : ∃ character ∈ head :: tail, character ∉ characters) :
    replaceChars head tail replacement characters = characters := by
  obtain ⟨missing, needed, absent⟩ := absent
  induction characters with
  | nil => rw [replaceChars]
  | cons character rest induction =>
      have behind := induction fun member => absent (List.mem_cons_of_mem _ member)
      rw [replaceChars]
      split
      · next same =>
          split
          · next after found =>
              -- all of the piece would stand here, the missing character with it
              have whole : character :: rest = (head :: tail) ++ after := by
                rw [same, afterPrefix?_eq_some_iff.1 found, List.cons_append]
              rw [whole] at absent
              exact absurd (List.mem_append_left after needed) absent
          · rw [behind]
      · rw [behind]

theorem replace_chars_single (head other : Char) (characters : List Char) :
    replaceChars head [] [other] characters =
      characters.map fun character => if character = head then other else character := by
  induction characters with
  | nil => rw [replaceChars, List.map_nil]
  | cons character rest induction =>
      rw [replaceChars, List.map_cons]
      split
      · simp only [afterPrefix?]
        rw [induction, List.singleton_append]
      · rw [induction]

theorem replace_chars_found {rest after : List Char} (found : afterPrefix? tail rest = some after) :
    replaceChars head tail replacement (head :: rest) =
      replacement ++ replaceChars head tail replacement after := by
  rw [replaceChars, if_pos rfl]
  split
  · next other same =>
      rw [found] at same
      cases same
      rfl
  · next missing =>
      rw [found] at missing
      cases missing

end Replacements

def joinReturns (characters : List Char) : List Char :=
  replaceChars '\r' ['\n'] ['\n'] characters

def feedReturns (characters : List Char) : List Char :=
  characters.map fun character => if character = '\r' then '\n' else character

def returnFeeds (characters : List Char) : List Char :=
  characters.map fun character => if character = '\n' then '\r' else character

/-- A return is put in front of the line feeds at the chosen places. -/
def widenFeeds (chosen : Nat → Bool) : List Char → List Char
  | [] => []
  | character :: rest =>
      (if character = '\n' ∧ chosen 0 = true then ['\r', '\n'] else [character]) ++
        widenFeeds (fun place => chosen (place + 1)) rest

theorem to_list_normalize (text : String) :
    (normalizeLineEnds text).toList = feedReturns (joinReturns text.toList) := by
  change (String.ofList (replaceChars '\r' [] ['\n'] (String.ofList
    (replaceChars '\r' ['\n'] ['\n'] text.toList)).toList)).toList = _
  rw [String.toList_ofList, String.toList_ofList, replace_chars_single]
  rfl

variable {characters : List Char}

theorem not_mem_feed_returns (characters : List Char) : '\r' ∉ feedReturns characters := by
  intro member
  obtain ⟨character, _, made⟩ := List.mem_map.1 member
  by_cases same : character = '\r'
  · rw [if_pos same] at made
    exact absurd made (by decide)
  · rw [if_neg same] at made
    exact same made

theorem feed_returns_of_plain (plain : '\r' ∉ characters) :
    feedReturns characters = characters := by
  refine (List.map_congr_left fun character member => ?_).trans (List.map_id characters)
  have other : character ≠ '\r' := fun same => plain (same ▸ member)
  simp only [if_neg other, id]

theorem join_returns_of_plain (plain : '\r' ∉ characters) : joinReturns characters = characters :=
  replace_chars_of_absent ⟨'\r', List.mem_cons_self, plain⟩

theorem join_returns_cons {character : Char} (other : character ≠ '\r') (rest : List Char) :
    joinReturns (character :: rest) = character :: joinReturns rest := by
  unfold joinReturns
  rw [replaceChars, if_neg other]

theorem join_returns_wide (rest : List Char) :
    joinReturns ('\r' :: '\n' :: rest) = '\n' :: joinReturns rest := by
  have found : afterPrefix? ['\n'] ('\n' :: rest) = some rest := by
    simp only [afterPrefix?, if_true]
  exact replace_chars_found found

theorem join_returns_widen (plain : '\r' ∉ characters) (chosen : Nat → Bool) :
    joinReturns (widenFeeds chosen characters) = characters := by
  induction characters generalizing chosen with
  | nil => exact join_returns_of_plain plain
  | cons character rest induction =>
      have behind := induction (fun member => plain (List.mem_cons_of_mem _ member))
        fun place => chosen (place + 1)
      rw [widenFeeds]
      split
      · next wide =>
          change joinReturns ('\r' :: '\n' :: widenFeeds _ rest) = _
          rw [join_returns_wide, behind, wide.1]
      · have other : character ≠ '\r' := fun same => plain (same ▸ List.mem_cons_self)
        rw [List.singleton_append, join_returns_cons other, behind]

/-- Without a line feed no return is taken off. -/
theorem join_returns_return_feeds (characters : List Char) :
    joinReturns (returnFeeds characters) = returnFeeds characters := by
  refine replace_chars_of_absent ⟨'\n', by simp, fun member => ?_⟩
  obtain ⟨character, _, made⟩ := List.mem_map.1 member
  by_cases same : character = '\n'
  · rw [if_pos same] at made
    exact absurd made (by decide)
  · rw [if_neg same] at made
    exact same made

theorem feed_returns_return_feeds (plain : '\r' ∉ characters) :
    feedReturns (returnFeeds characters) = characters := by
  unfold feedReturns returnFeeds
  rw [List.map_map]
  refine (List.map_congr_left fun character member => ?_).trans (List.map_id characters)
  have other : character ≠ '\r' := fun same => plain (same ▸ member)
  by_cases feed : character = '\n'
  · simp [feed]
  · simp [feed, other]

theorem normalize_of_joined {text body : String} (plain : '\r' ∉ body.toList)
    (joined : joinReturns text.toList = body.toList) : normalizeLineEnds text = body := by
  apply String.toList_inj.1
  rw [to_list_normalize, joined, feed_returns_of_plain plain]

theorem normalize_of_plain {text : String} (plain : '\r' ∉ text.toList) :
    normalizeLineEnds text = text :=
  normalize_of_joined plain (join_returns_of_plain plain)

theorem not_mem_normalize (text : String) : '\r' ∉ (normalizeLineEnds text).toList := by
  rw [to_list_normalize]
  exact not_mem_feed_returns _

/-- A text with other line ends: with returns in front of some of its line feeds, or with returns in
the place of all of them. -/
inductive Rewritten (text : String) : String → Prop
  | wide (chosen : Nat → Bool) : Rewritten text (String.ofList (widenFeeds chosen text.toList))
  | returns : Rewritten text (String.ofList (returnFeeds text.toList))

theorem Rewritten.normalize_eq {text written : String} (rewritten : Rewritten text written)
    (plain : '\r' ∉ text.toList) : normalizeLineEnds written = text := by
  cases rewritten with
  | wide chosen =>
      apply normalize_of_joined plain
      rw [String.toList_ofList, join_returns_widen plain]
  | returns =>
      apply String.toList_inj.1
      rw [to_list_normalize, String.toList_ofList, join_returns_return_feeds,
        feed_returns_return_feeds plain]

end Text

namespace Metadata

/-- A body counts by its normal form alone, however pages are fetched. -/
theorem extract_congr {m : Type → Type} [Monad m] (fetch : String → m (Option String))
    (settings : MetadataSettings) {body other : String}
    (same : Text.normalizeLineEnds other = Text.normalizeLineEnds body) (known : Metadata) :
    extract fetch settings other known = extract fetch settings body known := by
  unfold extract
  rw [same]

/-- Normal line ends stay as they are, and hold no return. Where a body has none, what is extracted
and what is fetched, and in which order, does not change with its line ends. -/
theorem extraction_ignores_line_ends :
    (∀ text, Text.normalizeLineEnds (Text.normalizeLineEnds text) = Text.normalizeLineEnds text ∧
      '\r' ∉ (Text.normalizeLineEnds text).toList) ∧
    ∀ body : String, '\r' ∉ body.toList → Text.normalizeLineEnds body = body ∧
      ∀ written, Text.Rewritten body written → Text.normalizeLineEnds written = body ∧
        ∀ page settings known,
          extracted page settings written known = extracted page settings body known := by
  constructor
  · intro text
    have plain := Text.not_mem_normalize text
    exact ⟨Text.normalize_of_plain plain, plain⟩
  · intro body plain
    have kept := Text.normalize_of_plain plain
    refine ⟨kept, fun written rewritten => ?_⟩
    have brought := rewritten.normalize_eq plain
    refine ⟨brought, fun page settings known => ?_⟩
    have same : Text.normalizeLineEnds written = Text.normalizeLineEnds body := by
      rw [brought, kept]
    exact congrArg (·.run []) (extract_congr (noting page) settings same known)

/-- Two of three line feeds with a return in front of them. -/
theorem note_ends_alike :
    let body := "---\narea: core\nkind: bug\n"
    let written := "---\r\narea: core\nkind: bug\r\n"
    let settings : MetadataSettings := ⟨[["---"]], [], some "(\\w+): (\\w+)"⟩
    '\r' ∉ body.toList ∧ Text.Rewritten body written ∧
      extracted (fun _ => none) settings written .empty =
        extracted (fun _ => none) settings body .empty := by
  intro body written settings
  have plain : '\r' ∉ body.toList := by decide
  have rewritten : Text.Rewritten body written := by
    have same : written = String.ofList (Text.widenFeeds (· ≠ 14) body.toList) := by decide
    rw [same]
    exact .wide _
  exact ⟨plain, rewritten,
    ((extraction_ignores_line_ends.2 body plain).2 written rewritten).2 _ settings .empty⟩

end Metadata

end RepoRules
