import RepoRules.Pattern.Syntax
import RepoRules.Text.Digit

/-!
Reads a pattern. The grammar has alternatives, repetitions, groups with or without names, switches
that hold to the end of the group they stand in, bracketed classes with set operations, and the
usual escapes. There are no references back to a group and no look-around.
-/

namespace RepoRules.Pattern

structure Reader where
  rest : List Char
  flags : Flags
  groups : Nat
  names : List String

abbrev Read := StateT Reader Option

namespace Read

def peek : Read (Option Char) := do
  return (← get).rest.head?

def peekSecond : Read (Option Char) := do
  return ((← get).rest.drop 1).head?

def advance : Read Unit :=
  modify fun reader => { reader with rest := reader.rest.drop 1 }

def flags : Read Flags := do
  return (← get).flags

def setFlags (flags : Flags) : Read Unit :=
  modify fun reader => { reader with flags }

/-- The characters after blanks and comments. -/
def skipComments : List Char → Bool → List Char
  | [], _ => []
  | '\n' :: rest, true => skipComments rest false
  | _ :: rest, true => skipComments rest true
  | character :: rest, false =>
      if Text.isBlank character then skipComments rest false
      else if character = '#' then skipComments rest true
      else character :: rest

def skip : Read Unit :=
  modify fun reader =>
    if reader.flags.extended then { reader with rest := skipComments reader.rest false } else reader

def advanceSkip : Read Unit := do
  advance
  skip

def next : Read Char := do
  match ← peek with
  | some character => pure character
  | none => failure

def expect (character : Char) : Read Unit := do
  if (← peek) = some character then advance else failure

/-- Takes `piece` if it comes next. -/
def take? (piece : String) : Read Bool := do
  let reader ← get
  if piece.toList.isPrefixOf reader.rest then
    set { reader with rest := reader.rest.drop piece.length }
    return true
  else return false

def peekAfterBlanks : Read (Option Char) := do
  let reader ← get
  let behind := reader.rest.drop 1
  return (if reader.flags.extended then skipComments behind false else behind).head?

def dropBlanks : (fuel : Nat) → Read Unit
  | 0 => pure ()
  | fuel + 1 => do
      match ← peek with
      | some character => if Text.isBlank character then advanceSkip; dropBlanks fuel else pure ()
      | none => pure ()

def digits : (fuel : Nat) → Read (List Char)
  | 0 => pure []
  | fuel + 1 => do
      match ← peek with
      | some character =>
          if character.isDigit then
            advanceSkip
            return character :: (← digits fuel)
          else return []
      | none => return []

/-- A count of at most 32 bits, blanks around it allowed; nothing if there is no digit. -/
def count? : Read (Option Nat) := do
  let length := (← get).rest.length
  dropBlanks length
  let digits ← digits length
  dropBlanks length
  if digits.isEmpty then return none
  let number := digits.foldl (fun number digit => 10 * number + (digit.toNat - 48)) 0
  if number < 0x100000000 then return some number else failure

/-- Behind the opening brace of a repetition: the least and the greatest number. -/
def bounds : Read (Nat × Option Nat) := do
  let first ← count?
  match ← next, first with
  | ',', first =>
      advanceSkip
      if (← next) = '}' then
        match first with
        | some least => advanceSkip; return (least, none)
        | none => failure
      else
        match first, ← count? with
        | some least, some most =>
            let _ ← (do if (← next) = '}' then advanceSkip else failure : Read Unit)
            if least ≤ most then return (least, some most) else failure
        | _, _ => failure
  | '}', some times => advanceSkip; return (times, some times)
  | _, _ => failure

def ofCode? (code : Nat) : Option Char :=
  if code.isValidChar then some (Char.ofNat code) else none

def fixedHex : (digits code : Nat) → Read Char
  | 0, code => ofCode? code
  | digits + 1, code => do
      match Text.hexValue? (← next) with
      | some value => advanceSkip; fixedHex digits (16 * code + value)
      | none => failure

def bracedHex : (fuel : Nat) → (code : Nat) → (started : Bool) → Read Char
  | 0, _, _ => failure
  | fuel + 1, code, started => do
      let character ← next
      if character = '}' then
        advanceSkip
        if started then ofCode? code else failure
      else match Text.hexValue? character with
        | some value =>
            advanceSkip
            if code < 0x100000000 then bracedHex fuel (16 * code + value) true else failure
        | none => failure

/-- What an escape or a plain character stands for. A byte written with two digits is kept apart,
since without Unicode it is a byte and no character. -/
inductive Item where
  | character (character : Char)
  | byte (character : Char)
  | set (set : CharSet)
  | look (look : Look)

/-- Every ASCII character may be escaped except letters, digits and angle brackets. -/
def isEscapable (character : Char) : Bool :=
  character.toNat < 128 && !character.isAlphanum && character != '<' && character != '>'

def braced (fuel : Nat) (stop : Char) : Read (List Char) :=
  match fuel with
  | 0 => failure
  | fuel + 1 => do
      let character ← next
      if character = stop then
        advance
        return []
      advanceSkip
      return character :: (← braced fuel stop)

def splitAtPiece? (piece : List Char) : List Char → Option (List Char × List Char)
  | [] => none
  | character :: rest =>
      if piece.isPrefixOf (character :: rest) then
        some ([], (character :: rest).drop piece.length)
      else (splitAtPiece? piece rest).map fun parts => (character :: parts.1, parts.2)

/-- A property between braces: a name, or a name and a value. With `!=` the characters are meant
that do not have the value, which the second component says. -/
def property? (written : List Char) : Option (CharSet × Bool) :=
  let valued (parts : List Char × List Char) :=
    CharSet.ofPropertyValue? (String.ofList parts.1) (String.ofList parts.2)
  match splitAtPiece? ['!', '='] written with
  | some parts => (valued parts).map fun set => (set, true)
  | none =>
      let set :=
        match (splitAtPiece? [':'] written).or (splitAtPiece? ['='] written) with
        | some parts => valued parts
        | none => CharSet.ofPropertyName? (String.ofList written)
      set.map fun set => (set, false)

def property (negated : Bool) : Read Item := do
  let flags ← flags
  let character ← next
  let (set, differs) ←
    if character = '{' then do
      advanceSkip
      let written ← braced ((← get).rest.length + 1) '}'
      property? written
    else do
      if character = '\\' then failure
      advanceSkip
      property? [character]
  if flags.unicode then
    return .set (CharSet.complementIf (negated != differs) (flags.fold set))
  else failure

/-- A class that is closed under change of case; without Unicode its complement holds bytes that
are no characters and is refused. -/
def closedClass (set : Flags → CharSet) (negated : Bool) : Read Item := do
  let flags ← flags
  if negated && !flags.unicode then failure
  return .set (CharSet.complementIf negated (set flags))

def isEdgeNameChar (character : Char) : Bool :=
  character.isAlpha || character == '-'

def edgeName : (fuel : Nat) → Read (List Char)
  | 0 => pure []
  | fuel + 1 => do
      match ← peek with
      | some character =>
          if isEdgeNameChar character then
            advanceSkip
            return character :: (← edgeName fuel)
          else return []
      | none => return []

/-- Behind `\b`: an edge named between braces. Braces that do not start with a letter or a hyphen
are left to be read as a repetition. -/
def namedEdge : Read WordEdge := do
  let before ← get
  if (← peek) ≠ some '{' then return .boundary
  advanceSkip
  if !isEdgeNameChar (← next) then
    set before
    return .boundary
  let name ← edgeName (before.rest.length)
  expect '}'
  match String.ofList name with
  | "start" => return .start
  | "end" => return .finish
  | "start-half" => return .startHalf
  | "end-half" => return .finishHalf
  | _ => failure

def edge (edge : WordEdge) : Read Item := do
  return .look (.word edge (!(← flags).unicode))

def hex (digits : Nat) : Read Item := do
  advanceSkip
  if (← next) = '{' then
    advanceSkip
    return .character (← bracedHex ((← get).rest.length + 1) 0 false)
  else
    let character ← fixedHex digits 0
    return if digits = 2 then .byte character else .character character

/-- Behind a backslash. -/
def escape : Read Item := do
  let character ← next
  match character with
  | 'x' => hex 2
  | 'u' => hex 4
  | 'U' => hex 8
  | 'p' => advanceSkip; property false
  | 'P' => advanceSkip; property true
  | 'd' => advance; closedClass Flags.digit false
  | 'D' => advance; closedClass Flags.digit true
  | 's' => advance; closedClass Flags.blank false
  | 'S' => advance; closedClass Flags.blank true
  | 'w' => advance; closedClass Flags.word false
  | 'W' => advance; closedClass Flags.word true
  | 'a' => advance; return .character '\x07'
  | 'f' => advance; return .character '\x0c'
  | 't' => advance; return .character '\t'
  | 'n' => advance; return .character '\n'
  | 'r' => advance; return .character '\r'
  | 'v' => advance; return .character '\x0b'
  | 'A' => advance; return .look .startOfText
  | 'z' => advance; return .look .endOfText
  | 'b' => advance; edge (← namedEdge)
  | 'B' => advance; edge .inside
  | '<' => advance; edge .start
  | '>' => advance; edge .finish
  | _ =>
      if isEscapable character then
        advance
        return .character character
      else failure

def single (flags : Flags) : Item → Option CharSet
  | .character character => some (flags.fold (CharSet.single character))
  | .byte character =>
      if flags.accepts character.toNat then some (flags.fold (CharSet.single character)) else none
  | _ => none

inductive SetOperator where
  | common
  | without
  | either

def SetOperator.apply : SetOperator → CharSet → CharSet → CharSet
  | .common, left, right => left.common right
  | .without, left, right => left.without right
  | .either, left, right => left.either right

/-- What has been read with how deeply its parts are nested. -/
structure Nested (α : Type) where
  value : α
  depth : Nat

namespace Nested

def flat {α : Type} (value : α) : Nested α := ⟨value, 0⟩

def wrapped {α : Type} (nested : Nested α) : Nested α := { nested with depth := nested.depth + 1 }

/-- Parts side by side nest what they are put into, unless there is one part only. -/
def depthOf {α : Type} : List (Nested α) → Nat
  | [] => 0
  | [part] => part.depth
  | parts => (parts.foldl (fun deepest part => max deepest part.depth) 0) + 1

end Nested

/-- What stands left of a set operator, and the operator. -/
abbrev Pending := Option (SetOperator × Nested CharSet)

def close (flags : Flags) (pending : Pending) (items : List (Nested CharSet)) : Nested CharSet :=
  let set := CharSet.unions (items.map fun item => item.value)
  let depth := Nested.depthOf items
  match pending with
  | none => ⟨set, depth⟩
  | some (operator, left) =>
      ⟨operator.apply (flags.fold left.value) (flags.fold set), max left.depth depth + 1⟩

def setOperator? : Option Char → Option Char → Option SetOperator
  | some '&', some '&' => some .common
  | some '-', some '-' => some .without
  | some '~', some '~' => some .either
  | _, _ => none

/-- A class such as `[:alpha:]`, if one is written here. -/
def asciiClass? : Read (Option CharSet) := do
  let reader ← get
  match reader.rest with
  | '[' :: ':' :: rest =>
      let (negated, rest) := match rest with
        | '^' :: behind => (true, behind)
        | behind => (false, behind)
      let name := rest.takeWhile (· ≠ ':')
      match rest.drop name.length, CharSet.ofAsciiName? (String.ofList name) with
      | ':' :: ']' :: behind, some set =>
          if negated && !reader.flags.unicode then failure
          modify fun reader => { reader with rest := behind }
          return some (CharSet.complementIf negated (reader.flags.fold set))
      | _, _ => return none
  | _ => return none

def setItem : Read Item := do
  let character ← next
  if character = '\\' then
    advance
    escape
  else
    advance
    return .character character

def setCode (flags : Flags) : Item → Option Nat
  | .character character | .byte character =>
      if flags.accepts character.toNat then some character.toNat else none
  | _ => none

/-- A character, an escaped class, or a span of characters. -/
def setRange : Read CharSet := do
  let flags ← flags
  let first ← setItem
  skip
  let hyphen ← next
  let behind ← peekAfterBlanks
  if hyphen ≠ '-' ∨ behind = some ']' ∨ behind = some '-' then
    match first with
    | .set set => return set
    | item =>
        let code ← setCode flags item
        return .span code code
  else
    advanceSkip
    let last ← setItem
    let first ← setCode flags first
    let last ← setCode flags last
    if first ≤ last then return .span first last else failure

def leadingHyphens : (fuel : Nat) → Read (List (Nested CharSet))
  | 0 => pure []
  | fuel + 1 => do
      if (← next) = '-' then
        advanceSkip
        return .flat (CharSet.single '-') :: (← leadingHyphens fuel)
      else return []

def nestingLimit : Nat := 250

mutual

/-- A bracketed class, from its opening bracket on. -/
def bracket : (fuel depth : Nat) → Read (Nested CharSet)
  | 0, _ => failure
  | _, 0 => failure
  | fuel + 1, depth + 1 => do
      advanceSkip
      let flags ← flags
      let negated := (← next) == '^'
      if negated then advanceSkip
      if negated && !flags.unicode then failure
      let items ← leadingHyphens (← get).rest.length
      let items ←
        if items.isEmpty ∧ (← next) = ']' then do
          advanceSkip
          pure [Nested.flat (CharSet.single ']')]
        else pure items
      let set ← setItems fuel depth none items.reverse
      return ⟨CharSet.complementIf negated (flags.fold set.value), set.depth + 1⟩

def setItems : (fuel depth : Nat) → Pending → List (Nested CharSet) → Read (Nested CharSet)
  | 0, _, _, _ => failure
  | fuel + 1, depth, pending, items => do
      skip
      let flags ← flags
      match setOperator? (← peek) (← peekSecond), ← next with
      | some operator, _ =>
          advance
          advance
          setItems fuel depth (some (operator, close flags pending items)) []
      | none, ']' =>
          advance
          return close flags pending items
      | none, '[' =>
          match ← asciiClass? with
          | some set => setItems fuel depth pending (.flat set :: items)
          | none =>
              let set ← bracket fuel depth
              setItems fuel depth pending (set :: items)
      | none, _ =>
          let set ← setRange
          setItems fuel depth pending (.flat set :: items)

end

/-- Switches up to a colon or a closing parenthesis: a letter turns one on, behind a hyphen off. -/
def switches : (fuel : Nat) → (written : List Char) → Flags → Read Flags
  | 0, _, _ => failure
  | fuel + 1, written, flags => do
      let character ← next
      if character = ':' ∨ character = ')' then
        if written.head? = some '-' then failure
        return flags
      if written.contains character then failure
      advance
      if character = '-' then switches fuel (character :: written) flags
      else
        match flags.set? character (!written.contains '-') with
        | some changed => switches fuel (character :: written) changed
        | none => failure

def isNameStart (character : Char) : Bool :=
  character == '_' || Text.isAlphabetic character

def isNameChar (character : Char) : Bool :=
  character == '_' || character == '.' || character == '[' || character == ']' ||
    Text.isAlphabetic character ||
    [Text.Category.decimalNumber, .letterNumber, .otherNumber].any fun category =>
      category.lists character.toNat

def groupName : Read Unit := do
  let reader ← get
  let name := reader.rest.takeWhile (· ≠ '>')
  match name with
  | [] => failure
  | first :: others =>
      if !isNameStart first || !others.all isNameChar then failure
      if (reader.rest.drop name.length).isEmpty then failure
      let name := String.ofList name
      if reader.names.contains name then failure
      set { reader with rest := reader.rest.drop (name.length + 1), names := name :: reader.names }

inductive Opening where
  | capture
  | plain (flags : Flags)
  | switches (flags : Flags)

def opening : Read Opening := do
  if ← take? "?P<" then
    groupName
    return .capture
  else if (← take? "?=") || (← take? "?!") || (← take? "?<=") || (← take? "?<!") then failure
  else if ← take? "?<" then
    groupName
    return .capture
  else if ← take? "?" then
    let before ← get
    let flags ← switches (before.rest.length + 1) [] before.flags
    if (← next) = ')' then
      if (← get).rest.length = before.rest.length then failure
      advance
      return .switches flags
    else
      advance
      return .plain flags
  else return .capture

def repetition? : Read (Option (Nat × Option Nat)) := do
  match ← peek with
  | some '?' => advance; return some (0, some 1)
  | some '*' => advance; return some (0, none)
  | some '+' => advance; return some (1, none)
  | some '{' => advanceSkip; return some (← bounds)
  | _ => return none

def repetitions : (fuel : Nat) → Option (Nested Node) → Read (Option (Nested Node))
  | 0, _ => failure
  | fuel + 1, node => do
      skip
      match ← repetition?, node with
      | none, node => return node
      | some _, none => failure
      | some (least, most), some node =>
          let reluctant := (← peek) == some '?'
          if reluctant then advance
          let greedy := reluctant == (← flags).swapGreed
          let node := ⟨Node.repetition least most greedy node.value, node.depth + 1⟩
          repetitions fuel (some node)

def itemNode (item : Item) : Read Node := do
  match item with
  | .set set => return .one set
  | .look look => return .look look
  | item =>
      let set ← single (← flags) item
      return .one set

def choice (ways : List (Nested Node)) : Nested Node :=
  ⟨Node.alternation (ways.map fun way => way.value), Nested.depthOf ways⟩

mutual

def alternatives : (fuel depth : Nat) → Read (List (Nested Node))
  | 0, _ => failure
  | fuel + 1, depth => do
      let parts ← items fuel depth
      let nodes := parts.filterMap fun part => part.value
      let first := ⟨Node.sequence nodes, Nested.depthOf parts⟩
      if (← peek) = some '|' then
        advance
        return first :: (← alternatives fuel depth)
      else return [first]

def items : (fuel depth : Nat) → Read (List (Nested (Option Node)))
  | 0, _ => failure
  | fuel + 1, depth => do
      skip
      match ← peek with
      | none | some '|' | some ')' => return []
      | some _ =>
          let length := (← get).rest.length
          let node ← atom fuel depth
          let item :=
            match ← repetitions (length + 1) node with
            | some node => ⟨some node.value, node.depth⟩
            | none => .flat none
          return item :: (← items fuel depth)

def atom : (fuel depth : Nat) → Read (Option (Nested Node))
  | 0, _ => failure
  | fuel + 1, depth => do
      let flags ← flags
      match ← next with
      | '(' =>
          advanceSkip
          match ← opening with
          | .switches changed =>
              setFlags changed
              return none
          | .plain changed =>
              setFlags changed
              return some (← closing fuel depth flags).wrapped
          | .capture =>
              let number := (← get).groups + 1
              modify fun reader => { reader with groups := number }
              let body ← closing fuel depth flags
              return some ⟨.group number body.value, body.depth + 1⟩
      | '[' =>
          let set ← bracket ((← get).rest.length + 1) nestingLimit
          return some ⟨.one set.value, set.depth⟩
      | '.' =>
          advance
          match flags.dot? with
          | some set => return some (.flat (.one set))
          | none => failure
      | '^' => advance; return some (.flat (.look flags.lineStart))
      | '$' => advance; return some (.flat (.look flags.lineEnd))
      | '?' | '*' | '+' | '{' => failure
      | '\\' => advance; return some (.flat (← itemNode (← escape)))
      | character => advance; return some (.flat (← itemNode (.character character)))

/-- The rest of a group, after which the switches are what they were before it. -/
def closing : (fuel depth : Nat) → Flags → Read (Nested Node)
  | 0, _, _ => failure
  | _, 0, _ => failure
  | fuel + 1, depth + 1, flags => do
      let ways ← alternatives fuel depth
      expect ')'
      setFlags flags
      return choice ways

end

end Read

namespace Node

def parse? (flags : Flags) (source : String) : Option Node :=
  let characters := source.toList
  let reader := Read.alternatives (4 * characters.length + 4) Read.nestingLimit
  match reader ⟨characters, flags, 0, []⟩ with
  | some (ways, ⟨[], _, _, _⟩) =>
      let node := Read.choice ways
      if node.depth ≤ Read.nestingLimit then some node.value else none
  | _ => none

end Node

end RepoRules.Pattern
