import RepoRules.Query.Operator
import RepoRules.Text.Ascii
import RepoRules.Text.Lower
import RepoRules.Text.Upper

/-!
The functions of the query language. Positions in texts are counted in characters, and negative
ones count from the end. Functions that take a closure are given the way to call it; what fails
inside them is reported as a failure of theirs.
-/

namespace RepoRules.Query

/-- The index of the first occurrence of `piece` at or behind `skipped` characters. -/
def indexFrom (piece : List Char) (skipped : Nat) : List Char → Int
  | [] => if piece.isEmpty then skipped else -1
  | character :: rest =>
      if (Text.afterPrefix? piece (character :: rest)).isSome then skipped
      else indexFrom piece (skipped + 1) rest

/-- Where `piece` first occurs, counted from `start` on; an empty text holds nothing. -/
def indexOfText (text piece : String) (start : Int) : Int :=
  let characters := text.toList
  let size := characters.length
  if characters.isEmpty then -1
  else
    let offset := if start < 0 then size - start.natAbs else start.toNat
    if 0 < offset ∧ size ≤ offset then -1
    else indexFrom piece.toList offset (characters.drop offset)

def subString (text : String) (start count : Int) : String :=
  let characters := text.toList
  let size := characters.length
  if count ≤ 0 ∨ (0 ≤ start ∧ size ≤ start.toNat) then ""
  else
    let offset := if start < 0 then size - start.natAbs else start.toNat
    String.ofList ((characters.drop offset).take count.toNat)

/-- The parts between occurrences of a non-empty piece, at most `limit` of them. -/
def splitAround (piece : List Char) : (limit : Nat) → (reversed characters : List Char) →
    List String
  | _, reversed, [] => [String.ofList reversed.reverse]
  | limit, reversed, character :: rest =>
      if limit ≤ 1 || piece.isEmpty then [String.ofList (reversed.reverse ++ character :: rest)]
      else match piece, Text.afterPrefix? piece (character :: rest) with
        | _ :: others, some _ =>
            String.ofList reversed.reverse :: splitAround piece (limit - 1) [] (rest.drop others.length)
        | _, _ => splitAround piece limit (character :: reversed) rest
termination_by _ _ characters => characters.length
decreasing_by
  · simp only [List.length_drop, List.length_cons]
    omega
  · simp

/-- Splitting at an empty piece separates all characters and leaves empty parts at the ends; behind
`limit` parts the text is left as it is. An empty text is its only part. -/
def splitText (text piece : String) (limit : Nat) : List String :=
  if text.isEmpty then [""]
  else if piece.isEmpty then
    let parts := "" :: text.toList.map Char.toString ++ [""]
    if parts.length ≤ limit then parts
    else parts.take (limit - 1) ++ ["".intercalate (parts.drop (limit - 1))]
  else splitAround piece.toList limit [] text.toList

/-- The longest parts without blanks; an empty text is its only part. -/
def splitBlanks (text : String) : List String :=
  let step := fun (state : List String × List Char) (character : Char) =>
    if Text.isBlank character then
      if state.2.isEmpty then state else (String.ofList state.2.reverse :: state.1, [])
    else (state.1, character :: state.2)
  let (found, last) := text.toList.foldl step ([], [])
  if text.isEmpty then [""]
  else (if last.isEmpty then found else String.ofList last.reverse :: found).reverse

/-- The text before and behind a place; a place that is not positive counts from the end. -/
def splitAt (text : String) (place : Int) : List String :=
  let characters := text.toList
  let size := characters.length
  if place ≤ 0 ∧ size < place.natAbs then ["", text]
  else
    let offset := if place ≤ 0 then size - place.natAbs else place.toNat
    [String.ofList (characters.take offset), String.ofList (characters.drop offset)]

def readInteger (negative : Bool) (radix : Nat) :
    (number : Int) → List Char → Except IntegerFault Int
  | number, [] => .ok number
  | number, character :: rest =>
      match Text.digitValue? radix character with
      | none => .error .invalidDigit
      | some digit =>
          let number := number * radix + if negative then -(digit : Int) else digit
          if fitsInteger number then readInteger negative radix number rest
          else .error (if negative then .tooSmall else .tooLarge)

def splitSign : List Char → Bool × List Char
  | '-' :: rest => (true, rest)
  | '+' :: rest => (false, rest)
  | rest => (false, rest)

def parseInteger (text : String) (radix : Nat) : Except Failure Value :=
  let trimmed := Text.trimChars text.toList
  let (negative, digits) := splitSign trimmed
  let number :=
    if trimmed.isEmpty then .error .empty
    else if digits.isEmpty then .error .invalidDigit
    else readInteger negative radix 0 digits
  (number.map Value.int).mapError fun fault => failure (.notAnInteger text fault)

/-- A double that is written without digits. -/
def namedFloat? (negative : Bool) (letters : List Char) : Option Float :=
  match Text.asciiLower (String.ofList letters) with
  | "inf" | "infinity" => some (if negative then -1.0 / 0.0 else 1.0 / 0.0)
  | "nan" => some (0.0 / 0.0)
  | _ => none

def parseFloat (text : String) : Except Failure Value :=
  let trimmed := Text.trimChars text.toList
  let (negative, rest) := splitSign trimmed
  let lowered := rest.map fun character => if character = 'E' then 'e' else character
  let hasDigit := (lowered.takeWhile (· != 'e')).any Char.isDigit
  let number := if hasDigit then Token.floatOf? negative lowered else namedFloat? negative rest
  match number with
  | some number => .ok (.float number)
  | none => .error (failure (.notAFloat text trimmed.isEmpty))

/-- The text of a large double without an exponent. -/
def plainText (number : Float) : String :=
  if number.isFinite then Value.signed number ((Decimal.shortest number).positional "")
  else Value.specialFloatText number

def toInteger (number : Float) : Except Failure Value :=
  if number > 9223372036854775807.0 || number < -9223372036854775808.0 then
    .error (failure (.conversionOverflow (plainText number)))
  else if number.isNaN then .ok (.int 0)
  else .ok (.int (number.toInt64.toInt))

def strings (texts : List String) : Value :=
  .array (texts.map .string)

def contains? (container item : Value) : Option Bool :=
  match container, item with
  | .array items, item => some (items.any fun other => other.equals item)
  | .map entries, .string name => some (entries.any fun entry => entry.1 == name)
  | .string text, .string piece => some (Text.occursIn piece.toList text.toList)
  | .string text, .char character => some (text.toList.contains character)
  | .range first last inclusive, .int number =>
      some (first ≤ number && if inclusive then number ≤ last else number < last)
  | _, _ => none

/-- An evaluation whose failures are those of the function `name` at `position`. -/
def insideOf (name : String) (position : Position) (evaluation : Evaluation α) : Evaluation α :=
  fun memory =>
    match evaluation memory with
    | .error inner => .error (inner.outOfFunction name position)
    | result => result

/-- Calls a closure on an item: as its receiver, as its argument, or as its first argument with the
index as the second, after the number of its parameters. -/
def applyToItem (apply : Apply) (position : Position) (function item : Value) (place : Nat) :
    Evaluation Value :=
  match function with
  | .closure [] .. => apply position function (some item) []
  | .closure [_, _] .. => apply position function none [item, .int place]
  | _ => apply position function none [item]

def applyToEntry (apply : Apply) (position : Position) (function : Value)
    (entry : String × Value) : Evaluation Value :=
  match function with
  | .closure [_, _] .. => apply position function none [.string entry.1, entry.2]
  | _ => apply position function (some entry.2) [.string entry.1]

def holds : Value → Bool
  | .bool flag => flag
  | _ => false

def mapItems (apply : Apply) (position : Position) (function : Value) (place : Nat) :
    List Value → Evaluation (List Value)
  | [] => pure []
  | item :: rest => do
      let image ← applyToItem apply position function item place
      let images ← mapItems apply position function (place + 1) rest
      pure (image :: images)

def filterItems (apply : Apply) (position : Position) (function : Value) (place : Nat) :
    List Value → Evaluation (List Value)
  | [] => pure []
  | item :: rest => do
      let kept ← applyToItem apply position function item place
      let others ← filterItems apply position function (place + 1) rest
      pure (if holds kept then item :: others else others)

def findItem (apply : Apply) (position : Position) (function : Value) (wanted : Bool)
    (place : Nat) : List Value → Evaluation (Option (Value × Nat))
  | [] => pure none
  | item :: rest => do
      let found ← applyToItem apply position function item place
      if holds found == wanted then pure (some (item, place))
      else findItem apply position function wanted (place + 1) rest

def mapEntries (apply : Apply) (position : Position) (function : Value) :
    List (String × Value) → Evaluation (List (String × Value))
  | [] => pure []
  | entry :: rest => do
      let image ← applyToEntry apply position function entry
      let images ← mapEntries apply position function rest
      pure ((entry.1, image) :: images)

def filterEntries (apply : Apply) (position : Position) (function : Value) :
    List (String × Value) → Evaluation (List (String × Value))
  | [] => pure []
  | entry :: rest => do
      let kept ← applyToEntry apply position function entry
      let others ← filterEntries apply position function rest
      pure (if holds kept then entry :: others else others)

def offset (start : Int) (size : Nat) : Nat :=
  if start < 0 then size - start.natAbs else start.toNat

/-- An index, and -1 for none. -/
def placeOrNone (found : Option Nat) : Value :=
  .int ((found.map fun place => (place : Int)).getD (-1))

/-- The larger or the smaller of two values; the first one if neither is. -/
def extremum (name : String) (comparison : Comparison) (left right : Value) :
    Except Failure Value :=
  match left, right with
  | .int _, .int _ | .string _, .string _ | .char _, .char _ =>
      match comparison.apply left right with
      | .ok (.bool true) => .ok left
      | _ => .ok right
  | _, _ =>
      match left.asFloats? right with
      | some (left, right) => .ok (.float (if comparison.holdsFloat left right then left else right))
      | none => noFunction name [left, right]

/-- A character whose upper or lower form is one character changes to it. -/
def changeCase (form : List Char) (character : Char) : Value :=
  match form with
  | [changed] => .char changed
  | _ => .char character

def textFunction? (text : String) (name : String) (arguments : List Value) :
    Option (Except Failure Value) :=
  match name, arguments with
  | "len", [] => some (.ok (.int text.toList.length))
  | "is_empty", [] => some (.ok (.bool text.isEmpty))
  | "bytes", [] => some (.ok (.int text.utf8ByteSize))
  | "to_upper", [] => some (.ok (.string (Text.upper text)))
  | "to_lower", [] => some (.ok (.string (Text.lower text)))
  | "trim", [] => some (.ok .unit)
  | "starts_with", [.string piece] => some (.ok (.bool (Text.startsWith text piece)))
  | "starts_with", [.char piece] => some (.ok (.bool (Text.startsWith text piece.toString)))
  | "ends_with", [.string piece] =>
      some (.ok (.bool (piece.toList.reverse.isPrefixOf text.toList.reverse)))
  | "ends_with", [.char piece] => some (.ok (.bool (text.toList.getLast? == some piece)))
  | "index_of", [.string piece] => some (.ok (.int (indexOfText text piece 0)))
  | "index_of", [.char piece] => some (.ok (.int (indexOfText text piece.toString 0)))
  | "index_of", [.string piece, .int start] => some (.ok (.int (indexOfText text piece start)))
  | "index_of", [.char piece, .int start] =>
      some (.ok (.int (indexOfText text piece.toString start)))
  | "sub_string", [.int start] =>
      some (.ok (.string (subString text start text.toList.length)))
  | "sub_string", [.int start, .int count] => some (.ok (.string (subString text start count)))
  | "sub_string", [.range first last inclusive] =>
      let start := max first 0
      let stop := max last start
      some (.ok (.string (subString text start (stop - start + if inclusive then 1 else 0))))
  | "split", [] => some (.ok (strings (splitBlanks text)))
  | "split", [.string piece] =>
      some (.ok (strings (splitText text piece (text.toList.length + 2))))
  | "split", [.char piece] =>
      some (.ok (strings (splitText text piece.toString (text.toList.length + 2))))
  | "split", [.string piece, .int limit] =>
      some (.ok (strings (splitText text piece (max limit 1).toNat)))
  | "split", [.char piece, .int limit] =>
      some (.ok (strings (splitText text piece.toString (max limit 1).toNat)))
  | "split", [.int place] => some (.ok (strings (splitAt text place)))
  | "parse_int", [] => some (parseInteger text 10)
  | "parse_int", [.int radix] =>
      if 2 ≤ radix ∧ radix ≤ 36 then some (parseInteger text radix.toNat)
      else some (.error (failure (.invalidRadix radix)))
  | "parse_float", [] => some (parseFloat text)
  | _, _ => none

def arrayFunction? (items : List Value) (name : String) (arguments : List Value) :
    Option (Except Failure Value) :=
  match name, arguments with
  | "len", [] => some (.ok (.int items.length))
  | "is_empty", [] => some (.ok (.bool items.isEmpty))
  | "index_of", [value] => some (.ok (placeOrNone (items.findIdx? fun item => item.equals value)))
  | "index_of", [value, .int start] =>
      let skipped := offset start items.length
      some (.ok (placeOrNone (((items.drop skipped).findIdx? fun item =>
        item.equals value).map (· + skipped))))
  | _, _ => none

def mapFunction? (entries : List (String × Value)) (name : String) (arguments : List Value) :
    Option (Except Failure Value) :=
  match name, arguments with
  | "len", [] => some (.ok (.int entries.length))
  | "is_empty", [] => some (.ok (.bool entries.isEmpty))
  | "keys", [] => some (.ok (strings (entries.map Prod.fst)))
  | "values", [] => some (.ok (.array (entries.map Prod.snd)))
  | "get", [.string key] => some (.ok ((entries.lookup key).getD .unit))
  | _, _ => none

def rangeProperty? (first last : Int) (inclusive : Bool) : (name : String) → Option Value
  | "start" => some (.int first)
  | "end" => some (.int last)
  | "is_inclusive" => some (.bool inclusive)
  | "is_exclusive" => some (.bool !inclusive)
  | "is_empty" => some (.bool (if inclusive then last < first else last ≤ first))
  | _ => none

def iteration? (apply : Apply) (position : Position) (name : String) :
    (arguments : List Value) → Option (Evaluation Value)
  | [.array items, function@(.closure ..)] =>
      let found := fun wanted => findItem apply position function wanted 0 items
      match name with
      | "filter" => some (.array <$> filterItems apply position function 0 items)
      | "map" => some (.array <$> mapItems apply position function 0 items)
      | "some" => some ((fun item => .bool item.isSome) <$> found true)
      | "all" => some ((fun item => .bool item.isNone) <$> found false)
      | "find" => some ((fun item => (item.map Prod.fst).getD .unit) <$> found true)
      | "index_of" => some ((fun item => placeOrNone (item.map Prod.snd)) <$> found true)
      | _ => none
  | [.array items, function@(.closure ..), .int start] =>
      let skipped := offset start items.length
      match name with
      | "index_of" =>
          some ((fun item => placeOrNone (item.map Prod.snd)) <$>
            findItem apply position function true skipped (items.drop skipped))
      | _ => none
  | [.map entries, function@(.closure ..)] =>
      match name with
      | "filter" => some (.map <$> filterEntries apply position function entries)
      | "map" => some (.map <$> mapEntries apply position function entries)
      | _ => none
  | _ => none

def scalarFunction? (name : String) : List Value → Option (Except Failure Value)
  | [.int number] =>
      match name with
      | "abs" =>
          if fitsInteger number.natAbs then some (.ok (.int number.natAbs))
          else some (.error (failure (.absoluteOverflow number)))
      | "to_int" => some (.ok (.int number))
      | "to_float" => some (.ok (.float (Float.ofInt number)))
      | _ => none
  | [.float number] =>
      match name with
      | "abs" => some (.ok (.float number.abs))
      | "to_int" => some (toInteger number)
      | "to_float" => some (.ok (.float number))
      | _ => none
  | [.char character] =>
      match name with
      | "to_int" => some (.ok (.int character.toNat))
      | "to_upper" => some (.ok (changeCase (Text.upperChar character) character))
      | "to_lower" => some (.ok (changeCase (Text.lowerChar character) character))
      | _ => none
  | [left, right] =>
      match name with
      | "max" => some (extremum name .greaterOrEqual left right)
      | "min" => some (extremum name .lessOrEqual left right)
      | _ => none
  | _ => none

def anyFunction? (name : String) : List Value → Option (Except Failure Value)
  | [] => if name = "print" ∨ name = "debug" then some (.ok .unit) else none
  | [value] =>
      match name with
      | "to_string" => some (.ok (.string value.text))
      | "to_debug" => some (.ok (.string value.nestedText))
      | "type_of" => some (.ok (.string value.typeName))
      | "print" | "debug" => some (.ok .unit)
      | "is_shared" => some (.ok (.bool false))
      | _ => (unaryOperator? name).map fun operator => operator value
  | [left, right] =>
      match name with
      | "contains" => (contains? left right).map fun found => .ok (.bool found)
      | "is_def_fn" =>
          match left, right with
          | .string _, .int _ => some (.ok (.bool false))
          | _, _ => none
      | _ => (binaryOperator? name).map fun operator => operator left right
  | _ => none

def plainFunction (name : String) (arguments : List Value) : Except Failure Value :=
  let special := match arguments with
    | .string text :: rest => textFunction? text name rest
    | .array items :: rest => arrayFunction? items name rest
    | .map entries :: rest => mapFunction? entries name rest
    | [.range first last inclusive] => (rangeProperty? first last inclusive name).map .ok
    | _ => none
  match special.orElse fun _ => (scalarFunction? name arguments).orElse fun _ =>
      anyFunction? name arguments with
  | some result => result
  | none => noFunction name arguments

def callFunction (apply : Apply) (name : String) (position : Position) (arguments : List Value) :
    Evaluation Value := do
  match iteration? apply position name arguments with
  | some evaluation =>
      let value ← insideOf name position evaluation
      located position (sized value)
  | none =>
      match name, arguments with
      | "call", function@(.closure ..) :: others => apply position function none others
      | "call", other :: _ => throw ⟨.wrongType other.rawTypeName "Fn", some position⟩
      | "curry", .closure parameters captured body :: first :: others =>
          let given := first :: others
          pure (.closure (parameters.drop given.length) (parameters.zip given ++ captured) body)
      | _, _ => located position (plainFunction name arguments >>= sized)

/-- Calls a method of a value. A function value is called on its receiver by `call`, or by its name
where the receiver is a map that holds it. -/
def callMethod (apply : Apply) (name : String) (position : Position) (receiver : Value)
    (arguments : List Value) : Evaluation Value :=
  match name, receiver, arguments with
  | "call", .closure .., _ => callFunction apply name position (receiver :: arguments)
  | "call", _, function@(.closure ..) :: others =>
      apply position function (some receiver) others
  | _, .map entries, _ =>
      match entries.lookup name with
      | some function@(.closure ..) => apply position function (some receiver) arguments
      | _ => callFunction apply name position (receiver :: arguments)
  | _, _, _ => callFunction apply name position (receiver :: arguments)

def changed? (name : String) : (arguments : List Value) → Option Value
  | [.string text] => if name = "trim" then some (.string (Text.trim text)) else none
  | _ => none

/-- The property of a value. An absent entry of a map is the unit. -/
def property (receiver : Value) (name : String) : Except Failure Value :=
  match receiver, name with
  | .map entries, name => .ok ((entries.lookup name).getD .unit)
  | .string text, "len" => .ok (.int text.toList.length)
  | .string text, "is_empty" => .ok (.bool text.isEmpty)
  | .string text, "bytes" => .ok (.int text.utf8ByteSize)
  | .array items, "len" => .ok (.int items.length)
  | .array items, "is_empty" => .ok (.bool items.isEmpty)
  | value, name =>
      let held := match value with
        | .range first last inclusive => rangeProperty? first last inclusive name
        | _ => none
      match held with
      | some value => .ok value
      | none => .error (failure (.unknownProperty name value.typeName))

/-- The place that an index names in a sequence of `size` items. -/
def place? (subscript : Int) (size : Nat) : Option Nat :=
  if 0 ≤ subscript then (if subscript.toNat < size then some subscript.toNat else none)
  else if subscript.natAbs ≤ size then some (size - subscript.natAbs)
  else none

/-- The characters of a text from `first` to `last`. Negative numbers count from the end; a first
number that lies before the text is out of bounds, and a last one then counts as zero. -/
def textRange (text : String) (first last : Int) (inclusive : Bool) : Except Failure Value :=
  let characters := text.toList
  let size := characters.length
  if first < 0 ∧ size < first.natAbs then .error (failure (.stringIndex first size))
  else
    let start := offset first size
    let stop := offset last size
    let count := if stop ≤ start then 0 else stop - start + if inclusive then 1 else 0
    .ok (.string (String.ofList ((characters.drop start).take count)))

/-- The bits of an integer from `first` to `last`, as a number. With the highest bit among them it is
negative. -/
def bitRange (number first last : Int) (inclusive : Bool) : Except Failure Value :=
  let stop := if inclusive then last + 1 else last
  if first < 0 ∨ 64 ≤ first then .error (failure (.bitIndex first))
  else if last < 0 ∨ 64 < stop then .error (failure (.bitIndex last))
  else if stop ≤ first then .ok (.int 0)
  else
    let unit : Int := (Nat.pow 2 first.toNat : Nat)
    let kept := Nat.pow 2 stop.toNat - Nat.pow 2 first.toNat
    .ok (.int (ofBits (Nat.land (bits number) kept) / unit))

def itemAt (receiver subscript : Value) : Except Failure Value :=
  match receiver, subscript with
  | .array items, .int number =>
      match (place? number items.length).bind fun place => items[place]? with
      | some item => .ok item
      | none => .error (failure (.arrayIndex number items.length))
  | .map entries, .string name => .ok ((entries.lookup name).getD .unit)
  | .map _, other => .error (failure (.wrongType other.rawTypeName "string"))
  | .string text, .int number =>
      let characters := text.toList
      match (place? number characters.length).bind fun place => characters[place]? with
      | some character => .ok (.char character)
      | none => .error (failure (.stringIndex number characters.length))
  | .string text, .range first last inclusive => textRange text first last inclusive
  | .int number, .int bit =>
      match place? bit 64 with
      | some place => .ok (.bool (bits number / Nat.pow 2 place % 2 == 1))
      | none => .error (failure (.bitIndex bit))
  | .int number, .range first last inclusive => bitRange number first last inclusive
  | .array _, other | .string _, other | .int _, other =>
      .error (failure (.wrongType other.rawTypeName "i64"))
  | receiver, other => .error (failure (.noIndexer receiver.typeName other.typeName))

def withItem (receiver subscript item : Value) : Value :=
  match receiver, subscript with
  | .array items, .int number =>
      .array (match place? number items.length with
        | some place => items.set place item
        | none => items)
  | .map entries, .string name => .map (insertByName name item entries)
  | _, _ => receiver

end RepoRules.Query
