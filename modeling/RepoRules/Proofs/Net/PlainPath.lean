import RepoRules.Net.Url
import RepoRules.Proofs.Rules.Reading

/-!
URLs of which the path is only text. Only a scheme that is not of the web can have such a path, and
then it is what follows the colon that decides: with a slash there the path has segments. To a path
that is only text nothing can be added.
-/

namespace RepoRules.Url

/-- Whether the path that a text writes is only text. -/
def isPlain (text : String) : Bool :=
  match splitScheme? (cleaned text) with
  | none => false
  | some (scheme, rest) => !isSpecial scheme && rest.head? != some '/'

section Parsing

variable {scheme text : String} {query fragment : Option (List Char)} {url : Url}

theorem segments_of_hierarchy {rest : List Char}
    (parsed : parseHierarchy scheme rest query fragment = .ok url) :
    ∃ names, url.path = .segments names := by
  obtain ⟨authority, _, read⟩ := bind_eq_ok parsed
  cases read
  exact ⟨_, rfl⟩

theorem segments_of_file {rest : List Char} (parsed : parseFile rest query fragment = .ok url) :
    ∃ names, url.path = .segments names := by
  unfold parseFile at parsed
  dsimp only at parsed
  split at parsed
  · cases parsed
    exact ⟨_, rfl⟩
  · split at parsed
    · cases parsed
      exact ⟨_, rfl⟩
    · obtain ⟨host, _, read⟩ := bind_eq_ok parsed
      cases read
      exact ⟨_, rfl⟩

theorem head_split_after {separator : Char} (other : separator ≠ '/') (characters : List Char) :
    (splitAfter separator characters).1.head? = some '/' ↔ characters.head? = some '/' := by
  cases characters with
  | nil => exact Iff.rfl
  | cons first rest =>
      unfold splitAfter
      rw [Text.splitOnceChars]
      by_cases found : first = separator
      · rw [if_pos found, found]
        simp [other]
      · rw [if_neg found]
        cases Text.splitOnceChars separator rest with
        | none => rfl
        | some parts => rfl

/-- Of a scheme that is not of the web, the path is only text if it does not start with a slash. -/
theorem plain_of_other {front : List Char}
    (parsed : (match front with
      | '/' :: '/' :: rest => parseHierarchy scheme rest query fragment
      | '/' :: _ => .ok (finish scheme none (.segments (segmentsOf false front)) query fragment)
      | _ => .ok (finish scheme none (.plain (Percent.encode Percent.isControl front)) query
          fragment)) = Except.ok url) :
    (∃ plain, url.path = .plain plain) ↔ front.head? ≠ some '/' := by
  split at parsed
  · obtain ⟨names, path⟩ := segments_of_hierarchy parsed
    simp [path]
  · cases parsed
    simp [finish]
  · next other =>
      cases parsed
      refine iff_of_true ⟨_, rfl⟩ fun slash => ?_
      cases front with
      | nil => cases slash
      | cons first rest =>
          cases slash
          exact other rest rfl

/-- The path of a URL that is read is only text just if the text says so. -/
theorem plain_iff_of_parse (parsed : parse text = .ok url) :
    (∃ plain, url.path = .plain plain) ↔ isPlain text = true := by
  unfold parse at parsed
  unfold isPlain
  cases found : splitScheme? (cleaned text) with
  | none =>
      rw [found] at parsed
      cases parsed
  | some parts =>
      obtain ⟨scheme, rest⟩ := parts
      rw [found] at parsed
      dsimp only at parsed ⊢
      split at parsed
      · next file =>
          obtain ⟨names, path⟩ := segments_of_file parsed
          have web : isSpecial scheme = true := by
            rw [file]
            rfl
          simp [path, web]
      · split at parsed
        · next web =>
            obtain ⟨names, path⟩ := segments_of_hierarchy parsed
            simp [path, web]
        · next other =>
            have head := (head_split_after (by decide : '?' ≠ '/') _).trans
              (head_split_after (by decide : '#' ≠ '/') rest)
            rw [plain_of_other parsed, ne_eq, head]
            simp [other]

theorem parse_of_plain (plain : isPlain text = true) : ∃ url, parse text = .ok url := by
  unfold isPlain at plain
  unfold parse
  cases found : splitScheme? (cleaned text) with
  | none =>
      rw [found] at plain
      cases plain
  | some parts =>
      obtain ⟨scheme, rest⟩ := parts
      rw [found] at plain
      dsimp only at plain ⊢
      rw [Bool.and_eq_true, Bool.not_eq_true', bne_iff_ne] at plain
      obtain ⟨other, slash⟩ := plain
      have file : scheme ≠ "file" := by
        rintro rfl
        cases other
      have head := (head_split_after (by decide : '?' ≠ '/') _).trans
        (head_split_after (by decide : '#' ≠ '/') rest)
      rw [if_neg file, other, if_neg Bool.false_ne_true]
      split
      · next front => exact absurd (head.1 (by rw [front]; rfl)) slash
      · exact ⟨_, rfl⟩
      · exact ⟨_, rfl⟩

theorem extend_eq_none_iff (segments : List String) :
    url.extend? segments = none ↔ ∃ plain, url.path = .plain plain := by
  unfold extend?
  cases url.path with
  | plain text => simp
  | segments names => simp

end Parsing

end RepoRules.Url
