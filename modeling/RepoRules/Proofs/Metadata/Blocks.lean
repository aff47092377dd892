import RepoRules.Metadata.Headers

/-!
Where header blocks are found. Of the sets that are tried in order, the first one counts whose block
stands anywhere, at the first line at which it does; the fields are those that the lines behind the
block state. A search by line numbers that reads line after line finds the same, and never asks for
a line that is not there.
-/

namespace RepoRules

theorem Text.starts_with_iff {text pre : String} :
    Text.startsWith text pre = true ↔ pre.toList <+: text.toList := by
  unfold startsWith
  rw [Option.isSome_iff_exists]
  simp only [afterPrefix?_eq_some_iff]
  exact ⟨fun ⟨rest, same⟩ => ⟨rest, same.symm⟩, fun ⟨rest, same⟩ => ⟨rest, same.symm⟩⟩

namespace OrderedMap

variable {α : Type}

theorem get?_extend (map : OrderedMap α) (entries : List (String × α)) (name : String) :
    (map.extend entries).get? name = (entries.reverse.lookup name).or (map.get? name) := by
  induction entries generalizing map with
  | nil => rfl
  | cons entry rest induction =>
      obtain ⟨entered, value⟩ := entry
      change ((map.insert entered value).extend rest).get? name = _
      rw [induction, get?_insert, List.reverse_cons, List.lookup_append, Option.or_assoc]
      by_cases same : name = entered
      · rw [if_pos same, same, lookup_cons_self, Option.some_or]
      · rw [if_neg same, lookup_cons_of_ne same, List.lookup_nil, Option.none_or]

theorem get?_of_list (entries : List (String × α)) (name : String) :
    (ofList entries).get? name = entries.reverse.lookup name := by
  rw [ofList, get?_extend]
  exact Option.or_none

end OrderedMap

namespace Headers

/-- A block stands at a line: there is a line for each of its beginnings, and it begins so. -/
def Stands (block lines : List String) (first : Nat) : Prop :=
  block ≠ [] ∧ ∀ (offset : Nat) (beginning : String), block[offset]? = some beginning →
    ∃ line : String, lines[first + offset]? = some line ∧ beginning.toList <+: line.toList

def stated? (parser : Pattern) (line : String) : Option (String × String) := do
  let groups ← parser.captures? (Text.trim line)
  let name ← groups[1]?.join
  let value ← groups[2]?.join
  let name := Text.lower (Text.trim name)
  if name.isEmpty then none else some (name, Markup.strip value)

section Search

variable {block lines : List String} {first : Nat}

theorem begins_with_iff : beginsWith block lines = true ↔
    ∀ (offset : Nat) (beginning : String), block[offset]? = some beginning →
      ∃ line : String, lines[offset]? = some line ∧ beginning.toList <+: line.toList := by
  induction block generalizing lines with
  | nil => simp [beginsWith]
  | cons beginning block induction =>
      cases lines with
      | nil =>
          simp only [beginsWith, Bool.false_eq_true, false_iff]
          intro all
          obtain ⟨line, missing, _⟩ := all 0 beginning rfl
          cases missing
      | cons line lines =>
          rw [beginsWith, Bool.and_eq_true, Text.starts_with_iff, induction]
          constructor
          · intro both offset expected held
            cases offset with
            | zero =>
                cases held
                exact ⟨line, rfl, both.1⟩
            | succ offset => exact both.2 offset expected held
          · intro all
            constructor
            · obtain ⟨found, same, begins⟩ := all 0 beginning rfl
              cases same
              exact begins
            · exact fun offset expected held => all (offset + 1) expected held

theorem stands_iff :
    Stands block lines first ↔ block ≠ [] ∧ beginsWith block (lines.drop first) = true := by
  rw [Stands, begins_with_iff]
  simp only [List.getElem?_drop]

theorem Stands.fits (stands : Stands block lines first) : first + block.length ≤ lines.length := by
  have filled : 0 < block.length := List.length_pos_iff.2 stands.1
  have last : block[block.length - 1]? = some (block.get ⟨block.length - 1, by omega⟩) :=
    List.getElem?_eq_getElem _
  obtain ⟨line, held, _⟩ := stands.2 _ _ last
  have inside := (List.getElem?_eq_some_iff.1 held).1
  omega

theorem stands_zero_iff {line : String} : Stands block (line :: lines) 0 ↔
    (!block.isEmpty && beginsWith block (line :: lines)) = true := by
  rw [stands_iff, List.drop_zero, Bool.and_eq_true, Bool.not_eq_true', List.isEmpty_eq_false_iff]

theorem stands_succ_iff {line : String} :
    Stands block (line :: lines) (first + 1) ↔ Stands block lines first := by
  rw [stands_iff, stands_iff, List.drop_succ_cons]

theorem find_block_eq_some_iff : findBlock? block lines = some first ↔
    Stands block lines first ∧ ∀ earlier, earlier < first → ¬Stands block lines earlier := by
  induction lines generalizing first with
  | nil =>
      simp only [findBlock?, reduceCtorEq, false_iff]
      intro found
      have inside := found.1.fits
      have filled : 0 < block.length := List.length_pos_iff.2 found.1.1
      simp only [List.length_nil] at inside
      omega
  | cons line lines induction =>
      rw [findBlock?]
      by_cases here : Stands block (line :: lines) 0
      · rw [if_pos (stands_zero_iff.1 here)]
        constructor
        · intro same
          cases same
          exact ⟨here, fun earlier none => absurd none (Nat.not_lt_zero earlier)⟩
        · intro found
          cases first with
          | zero => rfl
          | succ first => exact absurd here (found.2 0 (Nat.succ_pos first))
      · rw [if_neg (mt stands_zero_iff.2 here)]
        cases first with
        | zero => simp [here]
        | succ first =>
            rw [Option.map_eq_some_iff, stands_succ_iff]
            simp only [Nat.add_right_cancel_iff, exists_eq_right, induction]
            apply and_congr_right
            intro _
            constructor
            · intro none earlier before
              cases earlier with
              | zero => exact here
              | succ earlier => exact mt stands_succ_iff.1 (none earlier (by omega))
            · intro none earlier before
              exact mt stands_succ_iff.2 (none (earlier + 1) (by omega))

theorem find_block_eq_none_iff : findBlock? block lines = none ↔
    ∀ number, ¬Stands block lines number := by
  rw [Option.eq_none_iff_forall_ne_some]
  constructor
  · intro missing number
    -- the first line at which the block stands would have been found
    induction number using Nat.strongRecOn with
    | ind number induction =>
        intro stands
        exact missing number (find_block_eq_some_iff.2 ⟨stands, induction⟩)
  · intro missing first found
    exact missing first (find_block_eq_some_iff.1 found).1

theorem find_set_eq_findSome (lines : List String) (sets : List (List String)) :
    findSet? lines sets =
      sets.findSome? fun block => (findBlock? block lines).map fun first => (block, first) := by
  induction sets with
  | nil => rfl
  | cons block rest induction =>
      rw [findSet?, List.findSome?_cons, induction]
      cases findBlock? block lines with
      | none => rfl
      | some first => rfl

theorem find_set_eq_none_iff {sets : List (List String)} : findSet? lines sets = none ↔
    ∀ block ∈ sets, ∀ number, ¬Stands block lines number := by
  rw [find_set_eq_findSome, List.findSome?_eq_none_iff]
  simp only [Option.map_eq_none_iff, find_block_eq_none_iff]

theorem find_set_eq_some_iff {sets : List (List String)} :
    findSet? lines sets = some (block, first) ↔
      (∃ earlier later, sets = earlier ++ block :: later ∧
        ∀ other ∈ earlier, ∀ number, ¬Stands other lines number) ∧
      Stands block lines first ∧ ∀ number, number < first → ¬Stands block lines number := by
  rw [find_set_eq_findSome, List.findSome?_eq_some_iff, ← find_block_eq_some_iff]
  simp only [Option.map_eq_none_iff, Option.map_eq_some_iff, Prod.mk.injEq,
    find_block_eq_none_iff]
  constructor
  · rintro ⟨earlier, other, later, split, ⟨found, here, rfl, rfl⟩, missing⟩
    exact ⟨⟨earlier, later, split, missing⟩, here⟩
  · rintro ⟨⟨earlier, later, split, missing⟩, here⟩
    exact ⟨earlier, block, later, split, ⟨first, here, rfl, rfl⟩, missing⟩

end Search

section Numbers

/-- Whether a block stands at a line, read line by line. There is no answer if a line is asked for
that is not there. -/
def standsAt? (lines : List String) : (block : List String) → (number : Nat) → Option Bool
  | [], _ => some true
  | beginning :: block, number =>
      if beginning.isEmpty then standsAt? lines block (number + 1)
      else do
        let line ← lines[number]?
        if Text.startsWith line beginning then standsAt? lines block (number + 1) else some false

def firstOf? (lines block : List String) : (numbers : List Nat) → Option (Option Nat)
  | [] => some none
  | number :: rest => do
      if ← standsAt? lines block number then some (some number) else firstOf? lines block rest

def search? (lines block : List String) : Option (Option Nat) :=
  if block.isEmpty || lines.length < block.length then some none
  else firstOf? lines block (List.range (lines.length - block.length + 1))

variable {lines block : List String}

theorem stands_at_eq {number : Nat} (fits : number + block.length ≤ lines.length) :
    standsAt? lines block number = some (beginsWith block (lines.drop number)) := by
  induction block generalizing number with
  | nil => rfl
  | cons beginning block induction =>
      rw [List.length_cons] at fits
      have inside : number < lines.length := by omega
      have behind := @induction (number + 1) (by omega)
      rw [standsAt?, List.drop_eq_getElem_cons inside, beginsWith, behind]
      cases empty : beginning.isEmpty with
      | true =>
          have every : Text.startsWith lines[number] beginning = true := by
            rw [Text.starts_with_iff, String.isEmpty_iff.1 empty]
            exact List.nil_prefix
          rw [if_pos rfl, every, Bool.true_and]
      | false =>
          rw [if_neg Bool.false_ne_true, List.getElem?_eq_getElem inside, Option.bind_eq_bind,
            Option.bind_some]
          cases Text.startsWith lines[number] beginning with
          | true => rw [if_pos rfl, Bool.true_and]
          | false => rw [if_neg Bool.false_ne_true, Bool.false_and]

theorem first_of_eq {numbers : List Nat}
    (fits : ∀ number ∈ numbers, number + block.length ≤ lines.length) :
    firstOf? lines block numbers =
      some (numbers.find? fun number => beginsWith block (lines.drop number)) := by
  induction numbers with
  | nil => rfl
  | cons number rest induction =>
      rw [firstOf?, stands_at_eq (fits number List.mem_cons_self), List.find?_cons,
        induction fun other member => fits other (List.mem_cons_of_mem _ member)]
      cases beginsWith block (lines.drop number) with
      | true => rfl
      | false => rfl

/-- The search by numbers never asks for a line that is not there. -/
theorem search_eq (lines block : List String) :
    search? lines block = some (findBlock? block lines) := by
  unfold search?
  by_cases few : (block.isEmpty || decide (lines.length < block.length)) = true
  · rw [if_pos few]
    refine congrArg some (find_block_eq_none_iff.2 fun number stands => ?_).symm
    have fits := stands.fits
    rw [Bool.or_eq_true, List.isEmpty_iff, decide_eq_true_iff] at few
    rcases few with empty | short
    · exact stands.1 empty
    · omega
  · rw [if_neg few]
    rw [Bool.or_eq_true, not_or, List.isEmpty_iff, decide_eq_true_iff, Nat.not_lt] at few
    rw [first_of_eq fun number member => by
      rw [List.mem_range] at member
      omega]
    refine congrArg some (Option.ext fun first => ?_)
    rw [List.find?_range_eq_some, find_block_eq_some_iff, stands_iff, List.mem_range]
    constructor
    · rintro ⟨begins, _, earlier⟩
      refine ⟨⟨few.1, begins⟩, fun number before stands => ?_⟩
      have missed := earlier number before
      rw [(stands_iff.1 stands).2] at missed
      cases missed
    · rintro ⟨stands, earlier⟩
      have fits := (stands_iff.2 stands).fits
      refine ⟨stands.2, by omega, fun number before => ?_⟩
      have missed := earlier number before
      rw [stands_iff, not_and] at missed
      simpa using missed few.1

end Numbers

section Fields

variable (parser : Pattern)

theorem add_field_eq (fields : Metadata) (line : String) :
    addField parser fields line =
      match stated? parser line with
      | none => fields
      | some field => fields.insert field.1 field.2 := by
  unfold addField stated?
  cases parser.captures? (Text.trim line) with
  | none => rfl
  | some groups =>
      match groups with
      | [] => rfl
      | [_] => rfl
      | [_, none] => rfl
      | [_, some _] => rfl
      | _ :: none :: _ :: _ => rfl
      | _ :: some _ :: none :: _ => rfl
      | _ :: some name :: some value :: _ =>
          simp only [Option.bind_eq_bind, Option.bind_some, List.getElem?_cons_succ,
            List.getElem?_cons_zero, Option.join_some]
          split
          · rfl
          · rfl

/-- Lines enter the fields that they state, one after the other. -/
theorem fields_of_eq (lines : List String) :
    fieldsOf parser lines = .ofList (lines.filterMap (stated? parser)) := by
  unfold fieldsOf OrderedMap.ofList
  generalize OrderedMap.empty = fields
  induction lines generalizing fields with
  | nil => rfl
  | cons line rest induction =>
      rw [List.foldl_cons, add_field_eq, induction]
      cases stated : stated? parser line with
      | none => rw [List.filterMap_cons_none stated]
      | some field =>
          rw [List.filterMap_cons_some stated]
          rfl

end Fields

/-- What is found in a text: a block, where it stands, its lines, and what is stated behind them. Of
a name that is stated several times the last value counts. -/
structure Locates (parser : Pattern) (sets : List (List String)) (lines block : List String)
    (first : Nat) (found : HeaderMatch) : Prop where
  /-- No set in front of the one that is used stands anywhere. -/
  set : ∃ earlier later, sets = earlier ++ block :: later ∧
    ∀ other ∈ earlier, ∀ number, ¬Stands other lines number
  stands : Stands block lines first
  least : ∀ number, number < first → ¬Stands block lines number
  split : ∃ before behind, lines = before ++ found.headerLines ++ behind ∧
    before.length = first ∧ found.headerLines.length = block.length ∧
    found.fields = .ofList (behind.filterMap (stated? parser)) ∧
    ∀ name, found.fields.get? name = (behind.filterMap (stated? parser)).reverse.lookup name

section Scan

variable {settings : MetadataSettings} {source : String} {parser : Pattern}

theorem scan_of_compiled (given : settings.parser = some source)
    (compiled : Pattern.parse source = .ok parser) (body : String) :
    scan settings body =
      (findSet? (Text.lines body) settings.headers).map fun place =>
        ⟨fieldsOf parser ((Text.lines body).drop (place.2 + place.1.length)),
          ((Text.lines body).drop place.2).take place.1.length⟩ := by
  unfold scan
  rw [given]
  simp only [Option.bind_eq_bind, Option.bind_some, compiled, Except.toOption]
  cases findSet? (Text.lines body) settings.headers with
  | none => rfl
  | some place => rfl

theorem locates_iff {sets : List (List String)} {lines block : List String} {first : Nat}
    {found : HeaderMatch} :
    Locates parser sets lines block first found ↔
      findSet? lines sets = some (block, first) ∧
        found = ⟨fieldsOf parser (lines.drop (first + block.length)),
          (lines.drop first).take block.length⟩ := by
  rw [find_set_eq_some_iff]
  constructor
  · rintro ⟨set, stands, least, before, behind, split, placed, counted, stated, _⟩
    refine ⟨⟨set, stands, least⟩, ?_⟩
    have front : lines.drop first = found.headerLines ++ behind := by
      rw [split, List.append_assoc]
      exact List.drop_left' placed
    rw [← List.drop_drop, front, List.drop_left' counted, List.take_left' counted, fields_of_eq,
      ← stated]
  · rintro ⟨⟨set, stands, least⟩, rfl⟩
    have fits := stands.fits
    have fields := fields_of_eq parser (lines.drop (first + block.length))
    refine ⟨set, stands, least, lines.take first, lines.drop (first + block.length), ?_, ?_, ?_,
      fields, fun name => ?_⟩
    · rw [← List.drop_drop, List.append_assoc, List.take_append_drop, List.take_append_drop]
    · rw [List.length_take]
      omega
    · rw [List.length_take, List.length_drop]
      omega
    · rw [fields, OrderedMap.get?_of_list]

/-- The first set is used whose block stands anywhere, where it stands first, and the lines behind
the block state the fields. Nothing is found only if no block stands anywhere, and no line is asked
for that is not there. -/
theorem header_scan_finds_first_block (given : settings.parser = some source)
    (compiled : Pattern.parse source = .ok parser) (body : String) :
    (scan settings body = none ↔
      ∀ block ∈ settings.headers, ∀ number, ¬Stands block (Text.lines body) number) ∧
    (∀ found, scan settings body = some found ↔
      ∃ block first, Locates parser settings.headers (Text.lines body) block first found) ∧
    ∀ block, search? (Text.lines body) block = some (findBlock? block (Text.lines body)) := by
  rw [scan_of_compiled given compiled]
  refine ⟨?_, fun found => ?_, search_eq _⟩
  · rw [Option.map_eq_none_iff]
    exact find_set_eq_none_iff
  · rw [Option.map_eq_some_iff]
    simp only [locates_iff, Prod.exists, @eq_comm _ _ found]

/-- The second set is the first one whose block stands, and its last line may be any. -/
theorem details_are_found :
    let source := "(ID|[a-z]+): ([a-z]+)"
    let settings : MetadataSettings := ⟨[["+++"], ["---", "#### Details", ""]], [], some source⟩
    let body := "intro\n---\nno details\n---\n#### Details\nanything\nID: abc\n---\nid: abd"
    ∃ parser found, Pattern.parse source = .ok parser ∧ scan settings body = some found ∧
      found.headerLines = ["---", "#### Details", "anything"] ∧
      found.fields.entries = [("id", "abd")] ∧
      ∃ block first, Locates parser settings.headers (Text.lines body) block first found := by
  intro source settings body
  have readable : (Pattern.parse source).toOption.isSome = true := by decide +kernel
  have computed :
      (scan settings body).map (fun found => (found.headerLines, found.fields.entries)) =
        some (["---", "#### Details", "anything"], [("id", "abd")]) := by decide +kernel
  cases compiled : Pattern.parse source with
  | error fault =>
      rw [compiled] at readable
      cases readable
  | ok parser =>
      obtain ⟨found, scanned, told⟩ := Option.map_eq_some_iff.1 computed
      obtain ⟨lines, fields⟩ := Prod.mk.inj told
      have facts := @header_scan_finds_first_block settings source parser rfl compiled body
      exact ⟨parser, found, rfl, scanned, lines, fields, (facts.2.1 found).1 scanned⟩

end Scan

end Headers

end RepoRules
