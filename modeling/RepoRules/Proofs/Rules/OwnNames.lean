import RepoRules.Proofs.Rules.Substitution
import RepoRules.Proofs.Text.Folding

/-!
Variables under their own names. A table keeps names in lower case, and tokens are compared with
them by folding. A variable can be referred to by the name it was set under, whatever else the table
holds, unless a letter of the name has a lower form that folds otherwise; then the token stays as
written.
-/

namespace RepoRules.VariableTable

section Tokens

variable {table : VariableTable} {name other : List Char}

theorem length_of_same_fold (same : other.map Text.foldChar = name.map Text.foldChar) :
    other.length = name.length := by
  have length := congrArg List.length same
  rwa [List.length_map, List.length_map] at length

/-- Names that fit in a template of one token are those that fold as it does. -/
theorem closes_own_iff (undivided : '$' ∉ name) :
    closes other (name ++ ['$']) = true ↔
      other.map Text.foldChar = name.map Text.foldChar := by
  rw [closes, Bool.and_eq_true, beq_iff_eq, beq_iff_eq]
  constructor
  · rintro ⟨spelled, closed⟩
    have length : other.length = name.length := by
      rcases Nat.lt_trichotomy other.length name.length with short | same | long
      · -- inside the name there is no dollar sign
        rw [List.getElem?_append_left short] at closed
        exact absurd (List.mem_of_getElem? closed) undivided
      · exact same
      · have beyond : (name ++ ['$'])[other.length]? = none := by
          rw [List.getElem?_eq_none_iff, List.length_append, List.length_singleton]
          exact long
        rw [beyond] at closed
        cases closed
    rw [length, List.take_left] at spelled
    exact spelled.symm
  · intro same
    rw [length_of_same_fold same, List.take_left, List.getElem?_append_right (Nat.le_refl _),
      Nat.sub_self]
    exact ⟨same.symm, rfl⟩

/-- A name that fits may be another one: the value is looked up under what is written. -/
theorem substitute_chars_of_fitting (undivided : '$' ∉ name) (member : other ∈ table.tokenNames)
    (same : other.map Text.foldChar = name.map Text.foldChar) {value : String}
    (held : table.get? (String.ofList name) = some value) :
    table.substituteChars ('$' :: (name ++ ['$'])) = value.toList := by
  cases found : table.tokenNames.find? fun first => closes first (name ++ ['$']) with
  | none =>
      exact absurd ((closes_own_iff undivided).2 same) (List.find?_eq_none.1 found other member)
  | some first =>
      have fits := List.find?_some found
      have length := length_of_same_fold ((closes_own_iff undivided).1 fits)
      have ended : (name ++ ['$']).drop (name.length + 1) = [] := by
        rw [List.drop_eq_nil_iff, List.length_append, List.length_singleton]
      rw [substituteChars, if_pos rfl, found]
      simp only [length, List.take_left, held, ended]
      rw [substituteChars, List.append_nil]

theorem substitute_chars_of_unfitting (undivided : '$' ∉ name)
    (unfitting : ∀ other ∈ table.tokenNames,
      other.map Text.foldChar ≠ name.map Text.foldChar) :
    table.substituteChars ('$' :: (name ++ ['$'])) = '$' :: (name ++ ['$']) := by
  have missing : (table.tokenNames.find? fun first => closes first (name ++ ['$'])) = none :=
    List.find?_eq_none.2 fun first member fits =>
      unfitting first member ((closes_own_iff undivided).1 fits)
  have last : table.substituteChars ['$'] = ['$'] := by
    have nothing : (table.tokenNames.find? fun first => closes first []) = none := by
      refine List.find?_eq_none.2 fun first _ fits => ?_
      rw [closes, List.getElem?_nil, Bool.and_eq_true] at fits
      cases fits.2
    rw [substituteChars, if_pos rfl, nothing, substituteChars]
  rw [substituteChars, if_pos rfl, missing]
  simp only [table.substitute_chars_plain undivided, last]

end Tokens

section Names

variable {table : VariableTable} {name : String}

/-- Every character of a name that is kept is in lower case. -/
theorem settled_of_token_name (made : Made table) {kept : List Char}
    (member : kept ∈ table.tokenNames) : ∀ character ∈ kept, Text.Settled character := by
  have defined := mem_token_names_iff.1 member
  rw [defines, Bool.and_eq_true, OrderedMap.contains_iff] at defined
  have normal := made.valid.normal _ defined.2
  intro character held
  rw [← String.toList_ofList (l := kept), ← normal, normalize, Text.lower,
    String.toList_ofList] at held
  exact Text.settled_of_mem_lower_from held

theorem token_name_of_set (trimmed : Text.trim name = name) (visible : name ≠ "")
    (value : String) : Text.lowerFrom [] name.toList ∈ (table.set name value).tokenNames := by
  have normal : normalize name = String.ofList (Text.lowerFrom [] name.toList) := by
    rw [normalize, trimmed, Text.lower]
  rw [mem_token_names_iff, defines, Bool.and_eq_true, ← normal]
  refine ⟨bne_iff_ne.2 fun nothing => ?_, ?_⟩
  · rw [normal, String.ofList_eq_empty_iff] at nothing
    cases characters : name.toList with
    | nil => exact visible (String.toList_eq_nil_iff.1 characters)
    | cons character rest =>
        rw [characters, Text.lower_from_cons] at nothing
        exact Text.lower_at_ne_nil _ _ _ (List.append_eq_nil_iff.1 nothing).1
  · have held : (table.set name value).get? name = some value := by
      rw [get?_set, if_pos rfl]
    rw [OrderedMap.contains]
    exact Option.isSome_iff_exists.2 ⟨value, held⟩

/-- After a variable was set, the template that is its name between dollar signs stands for its
value, unless one of a few letters is in the name or the names make no pattern; then the template
stands for itself. -/
theorem own_name_stands_for_value (made : Made table) (trimmed : Text.trim name = name)
    (visible : name ≠ "") (undivided : '$' ∉ name.toList) (value : String) :
    ((table.set name value).hasPattern = true →
      (∀ character ∈ name.toList, ¬Text.IsUnfolded character) →
        (table.set name value).substitute ("$" ++ name ++ "$") = value) ∧
    ((∃ character ∈ name.toList, Text.IsUnfolded character) →
      (table.set name value).substitute ("$" ++ name ++ "$") = "$" ++ name ++ "$") ∧
    ((table.set name value).hasPattern = false →
      (table.set name value).substitute ("$" ++ name ++ "$") = "$" ++ name ++ "$") := by
  have listed : ("$" ++ name ++ "$").toList = '$' :: (name.toList ++ ['$']) := by
    simp [String.toList_append]
  have held : (table.set name value).get? (String.ofList name.toList) = some value := by
    rw [String.ofList_toList, get?_set, if_pos rfl]
  refine ⟨?_, ?_, fun missing => substitute_of_no_pattern _ missing _⟩
  · intro found known
    have folds : (Text.lowerFrom [] name.toList).map Text.foldChar =
        name.toList.map Text.foldChar := Text.fold_lower_from known []
    rw [substitute_of_pattern _ found, listed, substitute_chars_of_fitting undivided (token_name_of_set trimmed visible value) folds held,
      String.ofList_toList]
  · rintro ⟨character, member, unfolded⟩
    have stays : (table.set name value).substituteChars ('$' :: (name.toList ++ ['$'])) =
        '$' :: (name.toList ++ ['$']) := by
      refine substitute_chars_of_unfitting undivided fun kept known same => ?_
      -- the letter would have to be the fold of one in lower case
      have folded := List.mem_map_of_mem (f := Text.foldChar) member
      rw [← same] at folded
      obtain ⟨lowered, inside, alike⟩ := List.mem_map.1 folded
      exact Text.known_of_settled
        (settled_of_token_name (made.set name value) known lowered inside) alike unfolded
    cases found : (table.set name value).hasPattern with
    | false => exact substitute_of_no_pattern _ found _
    | true => rw [substitute_of_pattern _ found, listed, stays, ← listed, String.ofList_toList]

theorem length_token_names (table : VariableTable) :
    table.tokenNames.flatten.length = (table.values.keys.map fun key => key.toList.length).sum := by
  rw [tokenNames]
  induction table.values.keys with
  | nil => rfl
  | cons key rest induction =>
      rw [List.map_cons, List.map_cons, List.sum_cons, ← induction, List.filter_cons]
      split
      · rw [List.flatten_cons, List.length_append]
      · next empty =>
          have nothing : key.toList = [] := by simpa using empty
          rw [nothing, List.length_nil, Nat.zero_add]

theorem length_token_names_set (table : VariableTable) (name value : String) :
    (table.set name value).tokenNames.flatten.length ≤
      table.tokenNames.flatten.length + (normalize name).toList.length := by
  rw [length_token_names, length_token_names, set, OrderedMap.insert]
  simp only [OrderedMap.keys]
  induction table.values.entries with
  | nil => simp [OrderedMap.insertEntry]
  | cons entry rest induction =>
      rw [OrderedMap.insertEntry]
      split
      · next same =>
          simp only [List.map_cons, List.sum_cons, same]
          omega
      · simp only [List.map_cons, List.sum_cons]
        omega

/-- The names `σας` and `σασ` fold alike, and are two. -/
theorem final_sigma_stands_for_value :
    let table := VariableTable.empty.set "σασ" "other"
    Made table ∧ Text.trim "ΣΑΣ" = "ΣΑΣ" ∧ "ΣΑΣ" ≠ "" ∧ '$' ∉ "ΣΑΣ".toList ∧
      (table.set "ΣΑΣ" "own").hasPattern = true ∧
      (∀ character ∈ "ΣΑΣ".toList, ¬Text.IsUnfolded character) ∧
      (table.set "ΣΑΣ" "own").substitute ("$" ++ "ΣΑΣ" ++ "$") = "own" := by
  intro table
  have made : Made table := Made.empty.set "σασ" "other"
  have trimmed : Text.trim "ΣΑΣ" = "ΣΑΣ" := by decide +kernel
  have undivided : '$' ∉ "ΣΑΣ".toList := by decide
  have known : ∀ character ∈ "ΣΑΣ".toList, ¬Text.IsUnfolded character := by
    have listed : "ΣΑΣ".toList = ['Σ', 'Α', 'Σ'] := rfl
    rw [listed, List.forall_mem_cons, List.forall_mem_cons, List.forall_mem_singleton]
    decide
  have found : (table.set "ΣΑΣ" "own").hasPattern = true := by
    have lowered : (normalize "ΣΑΣ").toList.length = 3 := by
      rw [normalize, trimmed, Text.lower, String.toList_ofList]
      exact length_of_same_fold (Text.fold_lower_from known [])
    have letters := length_token_names_set table "ΣΑΣ" "own"
    have others : table.tokenNames.flatten.length ≤ 3 := by decide +kernel
    have few : (table.set "ΣΑΣ" "own").tokenNames.flatten.length ≤ 6 := by omega
    exact has_pattern_of_few _ (few.trans (by decide))
  have stands := own_name_stands_for_value made trimmed (by decide) undivided "own"
  exact ⟨made, trimmed, by decide, undivided, found, known, stands.1 found known⟩

/-- The lower form of the dotted capital has two characters, and a token must have as many as the
name that is kept. -/
theorem dotted_capital_stands_for_itself :
    let table := VariableTable.empty.set "İ" "own"
    Text.trim "İ" = "İ" ∧ "İ" ≠ "" ∧ '$' ∉ "İ".toList ∧ table.get? "İ" = some "own" ∧
      table.substitute "$İ$" = "$İ$" := by
  decide +kernel

end Names

end RepoRules.VariableTable
