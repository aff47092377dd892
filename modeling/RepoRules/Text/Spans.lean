import RepoRules.Text.Digit

/-!
Sets of code points given by spans in increasing order, and the reader of their written form.
A set of a few hundred spans is searched by halving, so membership costs a dozen comparisons.
-/

namespace RepoRules.Text

/-- The members are the code points between the two ends, both included, of some span. -/
structure Spans where
  bounds : Array (Nat × Nat)
deriving Repr, DecidableEq

namespace Spans

/-- Looks for `code` among the spans from index `low` up to, but not including, `high`. -/
def containsBetween (bounds : Array (Nat × Nat)) (code low high : Nat) : Bool :=
  if _smaller : low < high then
    let middle := (low + high) / 2
    match bounds[middle]? with
    | none => false
    | some (first, last) =>
        if code < first then containsBetween bounds code low middle
        else if last < code then containsBetween bounds code (middle + 1) high
        else true
  else false
termination_by high - low

def contains (spans : Spans) (code : Nat) : Bool :=
  containsBetween spans.bounds code 0 spans.bounds.size

/-- What has been read of a written set: the finished spans, the first end of an open span, and
the number whose digits are being read. -/
structure Reading where
  done : Array (Nat × Nat)
  first : Option Nat
  current : Nat

def Reading.close (reading : Reading) : Array (Nat × Nat) :=
  reading.done.push (reading.first.getD reading.current, reading.current)

def Reading.take (reading : Reading) (character : Char) : Reading :=
  if character = ' ' then ⟨reading.close, none, 0⟩
  else if character = '-' then { reading with first := some reading.current, current := 0 }
  else { reading with current := 16 * reading.current + (hexValue? character).getD 0 }

def ofLines (lines : List String) : Spans :=
  let text := " ".intercalate lines
  ⟨(text.toList.foldl Reading.take ⟨#[], none, 0⟩).close⟩

end Spans

end RepoRules.Text
