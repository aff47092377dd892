import Mathlib.Data.List.Forall2
import RepoRules.Net.Url
import RepoRules.Proofs.Net.Percent

/-!
Segments that are added to a path. A segment is written so that it stays one and is read back, except
that a dot and two dots add nothing, and that tabs and line ends are left out: what is left then may
be dots or nothing. `push_stands_iff` says which segments stand for themselves.
-/

namespace RepoRules.Url

def visible (segment : String) : String :=
  String.ofList (segment.toList.filter (!isBreak ·))

/-- A segment that is no step of a path, and of which nothing is left out. -/
structure IsWritten (segment : String) : Prop where
  dot : segment ≠ "."
  dots : segment ≠ ".."
  whole : ∀ character ∈ segment.toList, isBreak character = false

/-- A segment as it is written for a text: one segment, which is no step, and is read as the text. -/
structure Stands (written text : String) : Prop where
  decoded : Percent.decodeBytes written.toList = Bytes.ofText text
  undivided : ∀ character ∈ written.toList, character ∉ ['/', '\\', '?', '#']
  dot : isDot written = false
  dots : isDoubleDot written = false

section Texts

variable {segment text other written : String}

theorem visible_eq_self_iff :
    visible segment = segment ↔ ∀ character ∈ segment.toList, isBreak character = false := by
  rw [visible, ← String.toList_inj, String.toList_ofList, List.filter_eq_self]
  simp only [Bool.not_eq_true']

instance decidableIsWritten (segment : String) : Decidable (IsWritten segment) :=
  decidable_of_iff (segment ≠ "." ∧ segment ≠ ".." ∧ visible segment = segment)
    ⟨fun ⟨dot, dots, whole⟩ => ⟨dot, dots, visible_eq_self_iff.1 whole⟩,
      fun written => ⟨written.dot, written.dots, visible_eq_self_iff.2 written.whole⟩⟩

theorem IsWritten.visible_eq (whole : IsWritten segment) : visible segment = segment :=
  visible_eq_self_iff.2 whole.whole

theorem decoded_dots : (∀ dot ∈ [".", "%2e", "%2E"],
      Percent.decodeBytes dot.toList = Bytes.ofText ".") ∧
    ∀ dots ∈ ["..", "%2e%2e", "%2e%2E", "%2E%2e", "%2E%2E", "%2e.", "%2E.", ".%2e", ".%2E"],
      Percent.decodeBytes dots.toList = Bytes.ofText ".." := by
  decide +kernel

theorem undivided_of_not_in_segment :
    ∀ character ∈ ['/', '\\', '?', '#'], Percent.inSegment character = true :=
  List.all_eq_true.1 (by decide)

theorem stands_of_encode (dot : text ≠ ".") (dots : text ≠ "..") :
    Stands (Percent.encode Percent.inSegment text.toList) text := by
  have decoded := Percent.decode_encode (by decide : Percent.inSegment '%' = true) text.toList
  rw [String.ofList_toList] at decoded
  refine ⟨decoded, ?_, ?_, ?_⟩
  · intro character member divides
    rcases Percent.written_of_mem_encode member with rfl | digit | kept
    · exact absurd divides (by decide)
    · have apart : ['/', '\\', '?', '#'].all (!·.isAlphanum) = true := by decide
      have other := List.all_eq_true.1 apart character divides
      rw [digit] at other
      cases other
    · rw [undivided_of_not_in_segment character divides] at kept
      cases kept
  · refine Bool.eq_false_iff.2 fun stays => dot (Bytes.of_text_inj.1 ?_)
    rw [← decoded, decoded_dots.1 _ (List.contains_iff_mem.1 stays)]
  · refine Bool.eq_false_iff.2 fun steps => dots (Bytes.of_text_inj.1 ?_)
    rw [← decoded, decoded_dots.2 _ (List.contains_iff_mem.1 steps)]

theorem Stands.eq (stands : Stands written text) (again : Stands written other) : text = other :=
  Bytes.of_text_inj.1 (stands.decoded.symm.trans again.decoded)

theorem Stands.eq_empty (stands : Stands "" text) : text = "" := by
  refine Bytes.of_text_inj.1 (stands.decoded.symm.trans ?_)
  rw [Bytes.of_text_eq]
  rfl

end Texts

section Pushing

variable {names : List String} {segment other : String}

/-- The segments that others come behind. The empty one of a path that is only a slash is none. -/
def front (names : List String) : List String :=
  if names = [""] then [] else names

theorem front_of_filled (filled : names ≠ [""]) : front names = names :=
  if_neg filled

theorem filled_of_last {before : List String} {last : String} (named : last ≠ "") :
    before ++ [last] ≠ [""] := by
  intro single
  have ends := congrArg List.getLast? single
  rw [List.getLast?_concat] at ends
  exact named (Option.some.inj ends)

theorem push_segment_eq (names : List String) (segment : String) :
    pushSegment names segment =
      if segment = "." ∨ segment = ".." then names
      else if visible segment = ".." then (front names).dropLast ++ [""]
      else if visible segment = "." then front names ++ [""]
      else front names ++ [Percent.encode Percent.inSegment (visible segment).toList] := by
  have spelled (text : String) :
      segment.toList.filter (!isBreak ·) = text.toList ↔ visible segment = text := by
    rw [visible, ← String.toList_inj, String.toList_ofList]
  unfold pushSegment
  simp only [spelled]
  rw [visible, String.toList_ofList]
  rfl

/-- A segment that stands for itself comes behind the others. -/
theorem push_written (names : List String) (written : IsWritten segment) :
    ∃ text, pushSegment names segment = front names ++ [text] ∧ Stands text segment := by
  refine ⟨_, ?_, stands_of_encode written.dot written.dots⟩
  rw [push_segment_eq, written.visible_eq, if_neg (not_or.2 ⟨written.dot, written.dots⟩),
    if_neg written.dots, if_neg written.dot]

theorem push_all_written {segments : List String} (written : ∀ segment ∈ segments, IsWritten segment)
    (filled : names ≠ [""]) (some : names ≠ []) :
    ∃ texts, segments.foldl pushSegment names = names ++ texts ∧
      List.Forall₂ Stands texts segments := by
  induction segments generalizing names with
  | nil => exact ⟨[], (List.append_nil _).symm, .nil⟩
  | cons segment others induction =>
      obtain ⟨text, pushed, stands⟩ := push_written names (written segment List.mem_cons_self)
      rw [front_of_filled filled] at pushed
      have longer : names ++ [text] ≠ [] ++ [""] :=
        fun single => some (List.append_inj' single rfl).1
      obtain ⟨texts, all, stand⟩ := induction
        (fun other member => written other (List.mem_cons_of_mem _ member)) longer
        (List.append_ne_nil_of_right_ne_nil names (List.cons_ne_nil text []))
      refine ⟨text :: texts, ?_, .cons stands stand⟩
      rw [List.foldl_cons, pushed, all, List.append_assoc, List.singleton_append]

/-- A segment stands for itself just if it is no step and nothing of it is left out. -/
theorem push_stands_iff (filled : names ≠ [""]) (segment : String) :
    (∃ written, pushSegment names segment = names ++ [written] ∧ Stands written segment) ↔
      IsWritten segment := by
  constructor
  · rintro ⟨written, pushed, stands⟩
    -- behind a segment that is read as nothing there was nothing to write
    have nothing {before : List String} (ends : before ++ [""] = names ++ [written]) :
        visible segment = "" := by
      obtain rfl : "" = written := (List.append_inj' ends rfl).2 |> List.head_eq_of_cons_eq
      rw [stands.eq_empty]
      rfl
    rw [push_segment_eq, front_of_filled filled] at pushed
    split at pushed
    · exact absurd pushed.symm (by simp)
    · next named =>
        rw [not_or] at named
        split at pushed
        · next dots => exact absurd (dots.symm.trans (nothing pushed)) (by decide)
        · next dots =>
            split at pushed
            · next dot => exact absurd (dot.symm.trans (nothing pushed)) (by decide)
            · next dot =>
                obtain rfl := List.singleton_inj.1 (List.append_cancel_left pushed)
                have same := (stands_of_encode dot dots).eq stands
                exact ⟨named.1, named.2, visible_eq_self_iff.1 same⟩
  · intro written
    obtain ⟨text, pushed, stands⟩ := push_written names written
    exact ⟨text, by rw [pushed, front_of_filled filled], stands⟩

theorem push_segment_inj (filled : names ≠ [""]) (written : IsWritten segment)
    (others : IsWritten other) (same : pushSegment names segment = pushSegment names other) :
    segment = other := by
  obtain ⟨first, pushed, stands⟩ := (push_stands_iff filled segment).2 written
  obtain ⟨second, again, stand⟩ := (push_stands_iff filled other).2 others
  rw [pushed, again] at same
  obtain rfl := List.singleton_inj.1 (List.append_cancel_left same)
  exact stands.eq stand

/-- With which segments a path stays where it is, be it with a slash at the end. -/
theorem push_stays_iff {before : List String} {last : String} (named : last ≠ "")
    (segment : String) :
    (pushSegment (before ++ [last]) segment = before ++ [last] ∨
        pushSegment (before ++ [last]) segment = before ++ [last] ++ [""]) ↔
      segment = "." ∨ segment = ".." ∨ visible segment = "" ∨ visible segment = "." := by
  have apart : before ++ [last] ≠ before ++ [""] := by
    intro same
    exact named (List.singleton_inj.1 (List.append_cancel_left same))
  rw [push_segment_eq, front_of_filled (filled_of_last named)]
  by_cases step : segment = "." ∨ segment = ".."
  · rw [if_pos step]
    exact iff_of_true (.inl rfl) (step.elim .inl fun dots => .inr (.inl dots))
  · rw [if_neg step]
    rw [not_or] at step
    by_cases dots : visible segment = ".."
    · -- one segment is gone, and the new end is empty
      rw [if_pos dots, List.dropLast_concat]
      refine iff_of_false (not_or.2 ⟨apart.symm, by simp⟩) ?_
      rw [dots]
      exact not_or.2 ⟨step.1, not_or.2 ⟨step.2, by decide⟩⟩
    · rw [if_neg dots]
      by_cases dot : visible segment = "."
      · rw [if_pos dot]
        exact iff_of_true (.inr rfl) (.inr (.inr (.inr dot)))
      · have nothing : Percent.encode Percent.inSegment (visible segment).toList = "" ↔
            visible segment = "" := by
          constructor
          · intro empty
            have stands := stands_of_encode dot dots
            rw [empty] at stands
            exact stands.eq_empty
          · intro empty
            rw [empty]
            rfl
        rw [if_neg dot, List.append_cancel_left_eq, List.singleton_inj, nothing]
        simp [step, dot]

theorem extend_of_segments {url : Url} (divided : url.path = .segments names)
    (segments : List String) :
    url.extend? segments =
      some { url with path := .segments (segments.foldl pushSegment (withoutFinalSlash names)) } := by
  rw [extend?, divided]

end Pushing

theorem digit_of_mem_natural (number : Nat) (character : Char)
    (member : character ∈ (toString number).toList) : character.isDigit = true := by
  have digits : (toString number).toList = Nat.toDigits 10 number := by
    change (Nat.repr number).toList = _
    rw [Nat.repr, String.toList_ofList]
  rw [digits] at member
  exact Nat.isDigit_of_mem_toDigits (by decide) (by decide) member

theorem written_of_natural (number : Nat) : IsWritten (toString number) := by
  refine ⟨fun dot => ?_, fun dots => ?_, fun character member => ?_⟩
  · have found := digit_of_mem_natural number '.' (by rw [dot]; decide)
    cases found
  · have found := digit_of_mem_natural number '.' (by rw [dots]; decide)
    cases found
  · have found := digit_of_mem_natural number character member
    refine Bool.eq_false_iff.2 fun separates => ?_
    have breaks : character = '\t' ∨ character = '\n' ∨ character = '\r' := by
      simpa [isBreak, or_assoc] using separates
    rcases breaks with rfl | rfl | rfl
    all_goals cases found

end RepoRules.Url
