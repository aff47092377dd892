import RepoRules.Proofs.Pattern.Size
import RepoRules.Proofs.Rules.Variables
import RepoRules.Proofs.Text.Folding

/-!
Substitution as one pass. A template is cut into pieces by the names that are defined, from left to
right, and then every token among the pieces gives way to its value. As the cutting sees no value,
what is put in is not looked at again, and neither it nor the order of the table changes the pieces.
This is about ASCII: beyond it letters that belong together in one comparison are apart in another.
It also needs a pattern to find the tokens, which very long names do not make.
-/

namespace RepoRules

namespace Template

/-- What a template is cut into: characters that stay, and names between dollar signs. -/
inductive Piece where
  | plain (character : Char)
  | token (written : List Char)
deriving Repr, DecidableEq

/-- Cuts a template. At a dollar sign the text up to the next one is looked at: if it is a name in
lower case, both signs and the text are a token; else only the sign is passed. -/
def cut (isName : String → Bool) : List Char → List Piece
  | [] => []
  | character :: rest =>
      let written := rest.takeWhile (· != '$')
      if character = '$' ∧ '$' ∈ rest ∧ isName (Text.lower (String.ofList written)) = true then
        .token written :: cut isName (rest.drop (written.length + 1))
      else .plain character :: cut isName rest
termination_by characters => characters.length
decreasing_by
  all_goals simp only [List.length_drop, List.length_cons]; omega

/-- The second dollar sign is not lost to a token that it opens. -/
example : cut (· == "a") "$x$A$".toList = [.plain '$', .plain 'x', .token ['A']] := by
  decide +kernel

section Cutting

variable {isName : String → Bool} {written rest : List Char}

theorem take_while_behind (apart : '$' ∉ written) (rest : List Char) :
    (written ++ '$' :: rest).takeWhile (· != '$') = written := by
  rw [List.takeWhile_append_of_pos, List.takeWhile_cons_of_neg (by decide), List.append_nil]
  intro character member
  rw [bne_iff_ne]
  rintro rfl
  exact apart member

theorem cut_token (apart : '$' ∉ written) (named : isName (Text.lower (String.ofList written))) :
    cut isName ('$' :: (written ++ '$' :: rest)) = .token written :: cut isName rest := by
  rw [cut, take_while_behind apart, if_pos ⟨rfl, by simp, named⟩, List.drop_length_add_append]
  rfl

theorem cut_unknown (apart : '$' ∉ written)
    (unnamed : isName (Text.lower (String.ofList written)) = false) :
    cut isName ('$' :: (written ++ '$' :: rest)) =
      .plain '$' :: cut isName (written ++ '$' :: rest) := by
  rw [cut, take_while_behind apart, if_neg]
  rintro ⟨_, _, named⟩
  exact Bool.false_ne_true (unnamed.symm.trans named)

theorem cut_last (apart : '$' ∉ rest) :
    cut isName ('$' :: rest) = .plain '$' :: cut isName rest := by
  rw [cut, if_neg fun ⟨_, held, _⟩ => apart held]

theorem cut_other {character : Char} (other : character ≠ '$') :
    cut isName (character :: rest) = .plain character :: cut isName rest := by
  rw [cut, if_neg fun ⟨dollar, _⟩ => other dollar]

theorem cut_plain (apart : '$' ∉ written) (rest : List Char) :
    cut isName (written ++ rest) = written.map .plain ++ cut isName rest := by
  induction written with
  | nil => rfl
  | cons character others induction =>
      rw [List.mem_cons, not_or] at apart
      rw [List.cons_append, cut_other (Ne.symm apart.1), induction apart.2]
      rfl

end Cutting

end Template

namespace VariableTable

section Patterns

open Pattern

theorem spelled_letter (character : Char) : (letterNode character).Spelled := by
  refine .one (CharSet.ordered_of_ranges fun range member => ?_)
  obtain ⟨code, _, rfl⟩ := List.mem_map.1 member
  exact Nat.le_refl code

theorem room_letter (character : Char) : (letterNode character).room ≤ 1032 := by
  have width : CharSet.widthOf ((Text.foldClass character.toNat).map fun code => (code, code)) =
      (Text.foldClass character.toNat).length := by
    simp [CharSet.widthOf, Function.comp_def]
  have joined := CharSet.width_of_ranges
    ((Text.foldClass character.toNat).map fun code => (code, code))
  have few := Text.length_fold_class character.toNat
  rw [letterNode, Node.room, CharSet.ofCodes]
  omega

theorem spelled_name (name : List Char) : (Node.sequence (name.map letterNode)).Spelled :=
  Node.spelled_sequence (List.forall_mem_map.2 fun character _ => spelled_letter character)

theorem room_name {name : List Char} (filled : name ≠ []) :
    (Node.sequence (name.map letterNode)).room ≤ name.length * 1032 := by
  have letters : Node.roomOf (name.map letterNode) ≤ name.length * 1032 := by
    rw [Node.roomOf, List.map_map, ← List.length_map (Node.room ∘ letterNode)]
    refine List.sum_le_card_nsmul _ _ fun room member => ?_
    obtain ⟨character, _, rfl⟩ := List.mem_map.1 member
    exact room_letter character
  refine (Node.room_sequence (mt List.map_eq_nil_iff.1 filled) ?_).trans letters
  exact List.forall_mem_map.2 fun character _ => spelled_letter character

theorem room_names {names : List (List Char)} (filled : ∀ name ∈ names, name ≠ []) :
    Node.roomOf (names.map fun name => .sequence (name.map letterNode)) ≤
      names.flatten.length * 1032 := by
  induction names with
  | nil => exact Nat.le_refl _
  | cons name rest induction =>
      obtain ⟨first, others⟩ := List.forall_mem_cons.1 filled
      rw [List.map_cons, Node.room_of_cons, List.flatten_cons, List.length_append, Nat.add_mul]
      exact Nat.add_le_add (room_name first) (induction others)

theorem few_letters_fit {names : List (List Char)} (filled : ∀ name ∈ names, name ≠ [])
    (few : names.flatten.length ≤ ordinaryLetters) : (tokenPattern names).fits = true := by
  have bound : (Node.alternation (names.map fun name => .sequence (name.map letterNode))).bytesBound ≤
      128 + names.flatten.length * 1032 := by
    by_cases some : names = []
    · subst some
      decide
    · obtain ⟨spelled, room⟩ := Node.room_of_alternation (mt List.map_eq_nil_iff.1 some)
        (List.forall_mem_map.2 fun name (_ : name ∈ names) => spelled_name name)
      have within := spelled.bytes_bound_le
      have letters := room_names filled
      omega
  have dollar := (spelled_letter '$').bytes_bound_le
  have narrow := room_letter '$'
  unfold ordinaryLetters at few
  have whole : (tokenPattern names).bytesBound + 256 ≤ Automaton.sizeLimit := by
    change 4 + (letterNode '$').bytesBound + (4 + (68 +
      (Node.alternation (names.map fun name => .sequence (name.map letterNode))).bytesBound) +
        (letterNode '$').bytesBound) + 256 ≤ 10 * 0x100000
    omega
  rw [Node.fits, decide_eq_true whole, Bool.true_or]

/-- Whether there is a pattern is a matter of its size alone. -/
theorem has_pattern_iff (table : VariableTable) :
    table.hasPattern = true ↔ (tokenPattern table.tokenNames).fits = true := by
  have filled : ∀ name ∈ table.tokenNames, name ≠ [] := by
    intro name member
    have visible := (List.mem_filter.1 member).2
    rintro rfl
    cases visible
  rw [hasPattern, Bool.or_eq_true, decide_eq_true_iff]
  exact or_iff_right_of_imp (few_letters_fit filled)

theorem row_of_name {name : List Char} (filled : name ≠ []) :
    Node.Row name.length (.sequence (name.map letterNode)) := by
  have letters : name.map letterNode =
      (name.map fun character => .ofCodes (Text.foldClass character.toNat)).map .one := by
    rw [List.map_map]
    rfl
  have parts : (name.map letterNode).flatMap Node.parts = name.map letterNode := by
    rw [List.flatMap_map]
    exact List.map_eq_flatMap.symm
  rw [Node.sequence, parts, letters]
  simpa using Node.row_of_parts (mt List.map_eq_nil_iff.1 filled)

/-- A very long name alone makes a pattern that is too large. -/
theorem long_name_does_not_fit {name : List Char} (long : 327680 < name.length) :
    (tokenPattern [name]).fits = false := by
  have row := row_of_name (List.ne_nil_of_length_pos (Nat.zero_lt_of_lt long))
  have whole : Node.Row (1 + (name.length + 1)) (tokenPattern [name]) := by
    have joined : tokenPattern [name] = .both (letterNode '$')
        (.both (.group 1 (.alternation [.sequence (name.map letterNode)])) (letterNode '$')) := rfl
    rw [joined, row.alternation_eq]
    exact .both (.one _) (.both (.group 1 row) (.one _))
  refine whole.fits_eq_false ?_
  unfold Automaton.sizeLimit Automaton.stateBytes
  omega

end Patterns

def defines (table : VariableTable) (name : String) : Bool :=
  name != "" && table.values.contains name

def textOf (table : VariableTable) : Template.Piece → List Char
  | .plain character => [character]
  | .token written => ((table.values.get? (Text.lower (String.ofList written))).getD "").toList

/-- A name that is ASCII and cannot be cut by a dollar sign. -/
structure IsPlain (name : List Char) : Prop where
  ascii : Text.IsAscii name
  undivided : '$' ∉ name

instance decidableIsPlain (name : List Char) : Decidable (IsPlain name) :=
  decidable_of_iff (Text.IsAscii name ∧ '$' ∉ name)
    ⟨fun ⟨ascii, undivided⟩ => ⟨ascii, undivided⟩, fun plain => ⟨plain.ascii, plain.undivided⟩⟩

section Tables

variable {table : VariableTable}

theorem mem_token_names_iff {name : List Char} :
    name ∈ table.tokenNames ↔ table.defines (String.ofList name) = true := by
  have filled : (!name.isEmpty) = true ↔ String.ofList name ≠ "" := by
    rw [ne_eq, ← String.toList_inj, String.toList_ofList]
    cases name with
    | nil => simp
    | cons => simp
  have held : (∃ key ∈ table.values.keys, key.toList = name) ↔
      String.ofList name ∈ table.values.keys := by
    constructor
    · rintro ⟨key, member, rfl⟩
      rwa [String.ofList_toList]
    · exact fun member => ⟨_, member, String.toList_ofList⟩
  rw [tokenNames, List.mem_filter, List.mem_map, defines, Bool.and_eq_true, OrderedMap.contains_iff,
    bne_iff_ne, filled, held, and_comm]

theorem normalize_eq {name : String} (normal : normalize name = name) {written : List Char}
    (ascii : Text.IsAscii written) (lowered : written.map Char.toLower = name.toList) :
    normalize (String.ofList written) = name := by
  have trimmed : Text.Trimmed written := by
    apply Text.trimmed_of_map_to_lower
    rw [lowered, ← normal]
    exact Text.trimmed_lower_trim name
  rw [normalize, Text.trim, String.toList_ofList, Text.trim_chars_of_trimmed trimmed, Text.lower,
    String.toList_ofList, Text.lower_from_of_ascii ascii, lowered, String.ofList_toList]

section Fitting

variable {name after : List Char}

/-- A name fits behind a dollar sign just if it is the text up to the next one, in lower case. -/
theorem closes_iff (plain : IsPlain name) (small : name.map Char.toLower = name)
    (ascii : Text.IsAscii after) :
    closes name after = true ↔
      ∃ written rest, after = written ++ '$' :: rest ∧ '$' ∉ written ∧
        written.map Char.toLower = name := by
  have folded : closes name after = true ↔
      (after.take name.length).map Char.toLower = name ∧ after[name.length]? = some '$' := by
    have front : Text.IsAscii (after.take name.length) :=
      fun character member => ascii character (List.mem_of_mem_take member)
    rw [closes, Bool.and_eq_true, beq_iff_eq, beq_iff_eq, Text.fold_of_ascii front,
      Text.fold_of_ascii plain.ascii, small]
  rw [folded]
  constructor
  · rintro ⟨spelled, closed⟩
    obtain ⟨inside, found⟩ := List.getElem?_eq_some_iff.1 closed
    refine ⟨after.take name.length, after.drop (name.length + 1), ?_, ?_, spelled⟩
    · rw [← found, ← List.drop_eq_getElem_cons inside, List.take_append_drop]
    · intro held
      have lowered := List.mem_map_of_mem (f := Char.toLower) held
      rw [spelled] at lowered
      exact plain.undivided lowered
  · rintro ⟨written, rest, rfl, -, rfl⟩
    rw [List.length_map, List.take_left, List.getElem?_append_right (Nat.le_refl _), Nat.sub_self]
    exact ⟨rfl, rfl⟩

end Fitting

section Scanning

variable (made : Made table) (plain : ∀ name ∈ table.values.keys, IsPlain name.toList)

include made plain

theorem name_of_token {name : List Char} (member : name ∈ table.tokenNames) :
    IsPlain name ∧ name.map Char.toLower = name ∧
      normalize (String.ofList name) = String.ofList name := by
  have held : String.ofList name ∈ table.values.keys := by
    have defined := mem_token_names_iff.1 member
    rw [defines, Bool.and_eq_true, OrderedMap.contains_iff] at defined
    exact defined.2
  have ascii := plain _ held
  have normal := made.valid.normal _ held
  rw [String.toList_ofList] at ascii
  refine ⟨ascii, ?_, normal⟩
  have small : Text.lower (String.ofList name) = String.ofList name := by
    rw [← normal, normalize, Text.lower_lower]
  rwa [Text.lower, String.toList_ofList, Text.lower_from_of_ascii ascii.ascii,
    String.ofList_inj] at small

/-- A name that is found behind a dollar sign makes a token of the text up to the next one. -/
theorem token_of_find {rest name : List Char} (ascii : Text.IsAscii rest)
    (found : (table.tokenNames.find? fun name => closes name rest) = some name) :
    ∃ written behind value, rest = written ++ '$' :: behind ∧ '$' ∉ written ∧
      written.length = name.length ∧ table.defines (Text.lower (String.ofList written)) = true ∧
      table.values.get? (Text.lower (String.ofList written)) = some value ∧
      table.get? (String.ofList written) = some value := by
  have member := List.mem_of_find?_eq_some found
  obtain ⟨whole, small, normal⟩ := name_of_token made plain member
  have closed := List.find?_some found
  obtain ⟨written, behind, rfl, apart, lowered⟩ := (closes_iff whole small ascii).1 closed
  have front : Text.IsAscii written :=
    fun character held => ascii character (List.mem_append_left _ held)
  have lower : Text.lower (String.ofList written) = String.ofList name := by
    rw [Text.lower, String.toList_ofList, Text.lower_from_of_ascii front, lowered]
  have defined := mem_token_names_iff.1 member
  have held := defined
  rw [defines, Bool.and_eq_true] at held
  obtain ⟨value, found⟩ := Option.isSome_iff_exists.1 held.2
  refine ⟨written, behind, value, rfl, apart, ?_, ?_, ?_, ?_⟩
  · rw [← lowered, List.length_map]
  · rw [lower, defined]
  · rw [lower, found]
  · rw [get?, normalize_eq normal front (by rw [String.toList_ofList, lowered]), found]

/-- Where no name is found, the text up to the next dollar sign is none. -/
theorem unnamed_of_missing {written behind : List Char}
    (ascii : Text.IsAscii (written ++ '$' :: behind)) (apart : '$' ∉ written)
    (missing : (table.tokenNames.find? fun name => closes name (written ++ '$' :: behind)) = none) :
    table.defines (Text.lower (String.ofList written)) = false := by
  refine Bool.eq_false_iff.2 fun defined => ?_
  have front : Text.IsAscii written :=
    fun character held => ascii character (List.mem_append_left _ held)
  rw [Text.lower, String.toList_ofList, Text.lower_from_of_ascii front,
    ← mem_token_names_iff] at defined
  obtain ⟨whole, small, -⟩ := name_of_token made plain defined
  exact List.find?_eq_none.1 missing _ defined
    ((closes_iff whole small ascii).2 ⟨written, behind, rfl, apart, rfl⟩)

/-- The characters are cut by the names alone, and then every token gives way to its value. -/
theorem substitute_chars_eq {characters : List Char} (ascii : Text.IsAscii characters) :
    table.substituteChars characters =
      (Template.cut table.defines characters).flatMap table.textOf := by
  fun_induction substituteChars table characters with
  | case1 => rw [Template.cut, List.flatMap_nil]
  | case2 rest name found written replacement induction =>
      have behind : Text.IsAscii rest :=
        fun character held => ascii character (List.mem_cons_of_mem _ held)
      -- as no name holds a dollar sign, the one that is found ends where the cut does
      obtain ⟨text, after, value, rfl, apart, length, defined, held, given⟩ :=
        token_of_find made plain behind found
      have put : replacement = value.toList := by
        simp only [replacement, written, ← length, List.take_left, given]
      have left : (text ++ '$' :: after).drop (name.length + 1) = after := by
        rw [← length, List.drop_length_add_append]
        rfl
      rw [left] at induction ⊢
      rw [put, induction fun character later => behind character (by simp [later]),
        Template.cut_token apart defined, List.flatMap_cons, textOf, held]
      rfl
  | case3 rest missing induction =>
      have behind : Text.IsAscii rest :=
        fun character held => ascii character (List.mem_cons_of_mem _ held)
      have passed : Template.cut table.defines ('$' :: rest) =
          .plain '$' :: Template.cut table.defines rest := by
        by_cases closed : '$' ∈ rest
        · obtain ⟨text, after, rfl, apart⟩ := List.eq_append_cons_of_mem closed
          exact Template.cut_unknown apart (unnamed_of_missing made plain behind apart missing)
        · exact Template.cut_last closed
      rw [passed, List.flatMap_cons, induction behind]
      rfl
  | case4 character rest other induction =>
      have behind : Text.IsAscii rest :=
        fun character held => ascii character (List.mem_cons_of_mem _ held)
      rw [Template.cut_other other, List.flatMap_cons, induction behind]
      rfl

end Scanning

end Tables

/-- What it is to substitute in one pass. -/
structure OnePass (table : VariableTable) (template : String) : Prop where
  /-- The names cut the template, and then every token gives way to its value. -/
  pass : table.hasPattern = true → table.substitute template =
    String.ofList ((Template.cut table.defines template.toList).flatMap table.textOf)
  /-- Where the pattern for the names would be too large, nothing is replaced. -/
  stays : table.hasPattern = false → table.substitute template = template
  /-- Values do not change where the template is cut. -/
  values : ∀ other, Made other → other.hasPattern = true →
    (∀ name, other.defines name = table.defines name) → other.substitute template =
      String.ofList ((Template.cut table.defines template.toList).flatMap other.textOf)
  /-- Of what is no name stays all that is written, and the second dollar sign may open a token. -/
  unknown : ∀ written rest, template = "$" ++ written ++ "$" ++ rest → '$' ∉ written.toList →
    table.defines (Text.lower written) = false →
      table.substitute template = "$" ++ written ++ table.substitute ("$" ++ rest)
  /-- The order in which names were set makes no difference to what is replaced. -/
  order : ∀ other, Made other → other.entries.Perm table.entries →
    other.hasPattern = table.hasPattern → other.substitute template = table.substitute template

section Passes

variable {table other : VariableTable}

theorem plain_of_defines (plain : ∀ name ∈ table.values.keys, IsPlain name.toList)
    (same : ∀ name, other.defines name = table.defines name) :
    ∀ name ∈ other.values.keys, IsPlain name.toList := by
  intro name member
  by_cases empty : name = ""
  · subst empty
    exact ⟨List.forall_mem_nil _, List.not_mem_nil⟩
  · have defined : table.defines name = true := by
      rw [← same, defines, Bool.and_eq_true, OrderedMap.contains_iff]
      exact ⟨bne_iff_ne.2 empty, member⟩
    rw [defines, Bool.and_eq_true, OrderedMap.contains_iff] at defined
    exact plain name defined.2

/-- Of a text between dollar signs that is no name stays all that is written, and the second sign
may open a token. -/
theorem substitute_unknown (made : Made table)
    (plain : ∀ name ∈ table.values.keys, IsPlain name.toList) {written rest : String}
    (ascii : Text.IsAscii ("$" ++ written ++ "$" ++ rest).toList) (apart : '$' ∉ written.toList)
    (unnamed : table.defines (Text.lower written) = false) :
    table.substitute ("$" ++ written ++ "$" ++ rest) =
      "$" ++ written ++ table.substitute ("$" ++ rest) := by
  have listed : ("$" ++ written ++ "$" ++ rest).toList =
      '$' :: (written.toList ++ '$' :: rest.toList) := by
    simp [String.toList_append]
  have opened : ("$" ++ rest).toList = '$' :: rest.toList := by
    rw [String.toList_append]
    rfl
  have behind : Text.IsAscii ('$' :: rest.toList) := by
    intro character member
    refine ascii character ?_
    rw [listed]
    exact List.mem_cons_of_mem _ (List.mem_append_right _ member)
  have kept : (written.toList.map Template.Piece.plain).flatMap table.textOf = written.toList := by
    rw [List.flatMap_map]
    exact List.flatMap_singleton' written.toList
  cases found : table.hasPattern with
  | false =>
      rw [table.substitute_of_no_pattern found, table.substitute_of_no_pattern found]
      simp only [String.append_assoc]
  | true =>
      rw [table.substitute_of_pattern found, table.substitute_of_pattern found,
        substitute_chars_eq made plain ascii, listed,
        Template.cut_unknown apart (by rwa [String.ofList_toList]), Template.cut_plain apart,
        List.flatMap_cons, List.flatMap_append, kept, ← substitute_chars_eq made plain behind,
        opened, ← String.toList_inj]
      simp [textOf, String.toList_append]

/-- Substitution is one pass from left to right, if names and template are ASCII and the names make
a pattern. -/
theorem substitution_is_one_pass (made : Made table)
    (plain : ∀ name ∈ table.values.keys, IsPlain name.toList) {template : String}
    (ascii : Text.IsAscii template.toList) : OnePass table template where
  pass found := by rw [table.substitute_of_pattern found, substitute_chars_eq made plain ascii]
  stays missing := table.substitute_of_no_pattern missing template
  values other others found same := by
    rw [other.substitute_of_pattern found,
      substitute_chars_eq others (plain_of_defines plain same) ascii, funext same]
  unknown written rest split apart unnamed := by
    subst split
    exact substitute_unknown made plain ascii apart unnamed
  order other others same alike := by
    have found := OrderedMap.get?_of_perm made.valid.distinct same
    have defined (name : String) : other.defines name = table.defines name := by
      rw [defines, OrderedMap.contains, found, defines, OrderedMap.contains]
    have put : other.textOf = table.textOf := by
      funext piece
      cases piece with
      | plain character => rfl
      | token written => rw [textOf, found, textOf]
    cases pattern : table.hasPattern with
    | false =>
        rw [table.substitute_of_no_pattern pattern,
          other.substitute_of_no_pattern (alike.trans pattern)]
    | true =>
        rw [table.substitute_of_pattern pattern, other.substitute_of_pattern (alike.trans pattern),
          substitute_chars_eq others (plain_of_defines plain defined) ascii, funext defined, put,
          substitute_chars_eq made plain ascii]

theorem value_is_not_substituted :
    let table := (VariableTable.empty.set "A" "$b$").set "b" "deep"
    Made table ∧ (∀ name ∈ table.values.keys, IsPlain name.toList) ∧
      Text.IsAscii "$x$a$ $B$".toList ∧ OnePass table "$x$a$ $B$" ∧
      table.substitute "$x$a$ $B$" = "$x$b$ deep" := by
  intro table
  have made : Made table := (Made.empty.set "A" "$b$").set "b" "deep"
  have plain : ∀ name ∈ table.values.keys, IsPlain name.toList := by decide +kernel
  have ascii : Text.IsAscii "$x$a$ $B$".toList := by decide
  have scanned := substitution_is_one_pass made plain ascii
  refine ⟨made, plain, ascii, scanned, ?_⟩
  rw [scanned.pass (by decide +kernel)]
  decide +kernel

section LongNames

variable (count : Nat)

theorem ascii_replicate : Text.IsAscii (List.replicate count 'a') := by
  intro character member
  rw [List.eq_of_mem_replicate member]
  decide

theorem lower_replicate : Text.lower (String.ofList (List.replicate count 'a')) =
    String.ofList (List.replicate count 'a') := by
  rw [Text.lower, String.toList_ofList, Text.lower_from_of_ascii (ascii_replicate count),
    List.map_replicate]
  rfl

theorem normalize_replicate : normalize (String.ofList (List.replicate count 'a')) =
    String.ofList (List.replicate count 'a') := by
  have trimmed : Text.Trimmed (List.replicate count 'a') := by
    constructor
    · intro first found
      rw [List.eq_of_mem_replicate (List.mem_of_mem_head? found)]
      decide
    · intro last found
      rw [List.eq_of_mem_replicate (List.mem_of_mem_getLast? found)]
      decide
  rw [normalize, Text.trim, String.toList_ofList, Text.trim_chars_of_trimmed trimmed,
    lower_replicate]

def withLongName : VariableTable :=
  VariableTable.empty.set (String.ofList (List.replicate count 'a')) "docs"

theorem values_with_long_name : (withLongName count).values =
    ⟨[(String.ofList (List.replicate count 'a'), "docs")]⟩ := by
  rw [withLongName, set, normalize_replicate]
  rfl

variable {count}

theorem no_pattern_with_long_name (long : 327680 < count) :
    (withLongName count).hasPattern = false := by
  have names : (withLongName count).tokenNames = [List.replicate count 'a'] := by
    rw [tokenNames, OrderedMap.keys, values_with_long_name, List.map_singleton, List.map_singleton,
      String.toList_ofList, List.filter_cons_of_pos, List.filter_nil]
    rw [List.isEmpty_replicate]
    simpa using Nat.ne_zero_of_lt long
  refine Bool.eq_false_iff.2 fun found => ?_
  rw [has_pattern_iff, names, long_name_does_not_fit] at found
  · cases found
  · rwa [List.length_replicate]

theorem cut_with_long_name (filled : 0 < count) :
    (Template.cut (withLongName count).defines
        ('$' :: (List.replicate count 'a' ++ ['$']))).flatMap (withLongName count).textOf =
      "docs".toList := by
  have apart : '$' ∉ List.replicate count 'a' := by
    intro member
    cases List.eq_of_mem_replicate member
  have held : (withLongName count).values.get? (String.ofList (List.replicate count 'a')) =
      some "docs" := by
    rw [values_with_long_name]
    exact OrderedMap.lookup_cons_self _ _ _
  have named : (withLongName count).defines
      (Text.lower (String.ofList (List.replicate count 'a'))) = true := by
    rw [lower_replicate, defines, OrderedMap.contains, held, Bool.and_eq_true, bne_iff_ne,
      ne_eq, String.ofList_eq_empty_iff, List.replicate_eq_nil_iff]
    exact ⟨Nat.ne_of_gt filled, rfl⟩
  rw [Template.cut_token apart named, Template.cut, List.flatMap_cons, List.flatMap_nil, textOf,
    lower_replicate, held, List.append_nil]
  rfl

end LongNames

/-- Under a name that is too long for a pattern a variable is not found. -/
theorem long_name_is_not_replaced :
    ¬ ∀ table : VariableTable, Made table → (∀ name ∈ table.values.keys, IsPlain name.toList) →
      ∀ template : String, Text.IsAscii template.toList → table.substitute template =
        String.ofList ((Template.cut table.defines template.toList).flatMap table.textOf) := by
  intro replaced
  have written (count : Nat) (long : 327680 < count) : False := by
    have plain : ∀ name ∈ (withLongName count).values.keys, IsPlain name.toList := by
      rw [OrderedMap.keys, values_with_long_name]
      refine List.forall_mem_singleton.2 ⟨?_, ?_⟩
      · rw [String.toList_ofList]
        exact ascii_replicate count
      · rw [String.toList_ofList]
        intro member
        cases List.eq_of_mem_replicate member
    have ascii : Text.IsAscii
        (String.ofList ('$' :: (List.replicate count 'a' ++ ['$']))).toList := by
      rw [String.toList_ofList]
      refine List.forall_mem_cons.2 ⟨by decide, List.forall_mem_append.2 ⟨ascii_replicate count, ?_⟩⟩
      exact List.forall_mem_singleton.2 (by decide)
    have same := replaced (withLongName count) (Made.empty.set _ _) plain _ ascii
    rw [substitute_of_no_pattern _ (no_pattern_with_long_name long), String.toList_ofList,
      cut_with_long_name (Nat.zero_lt_of_lt long), String.ofList_inj] at same
    cases (List.cons.inj same).1
  exact written 400000 (by decide)

end Passes

end VariableTable

end RepoRules
