import RepoRules.Pattern.Property

/-!
Patterns as trees, and the switches under which they are read.
-/

namespace RepoRules.Pattern

inductive Fault where
  | malformed
  | tooLarge (limit : Nat)
deriving Repr, DecidableEq

/-- The grammar's own complaints are shortened to one phrase. -/
def Fault.message : Fault → String
  | .malformed => "regex parse error"
  | .tooLarge limit => "Compiled regex exceeds size limit of " ++ toString limit ++ " bytes."

/-- What the characters around a place must be for a word to begin or end there. -/
inductive WordEdge where
  | boundary
  | inside
  | start
  | finish
  | startHalf
  | finishHalf
deriving Repr, DecidableEq

/-- What a place in a text is asked. Where `crlf` is set, a carriage return ends a line too. -/
inductive Look where
  | startOfText
  | endOfText
  | startOfLine (crlf : Bool)
  | endOfLine (crlf : Bool)
  | word (edge : WordEdge) (ascii : Bool)
deriving Repr, DecidableEq

inductive Node where
  | empty
  | one (set : CharSet)
  | look (look : Look)
  | group (number : Nat) (body : Node)
  | both (first second : Node)
  | choice (first second : Node)
  | repeated (least : Nat) (most : Option Nat) (greedy : Bool) (body : Node)
deriving Repr, DecidableEq

namespace Node

def parts : Node → List Node
  | .empty => []
  | .both first second => first.parts ++ second.parts
  | node => [node]

def ofParts : List Node → Node
  | [] => .empty
  | [node] => node
  | node :: rest => .both node (ofParts rest)

def sequence (nodes : List Node) : Node :=
  ofParts (nodes.flatMap parts)

def ways : Node → List Node
  | .choice first second => first.ways ++ second.ways
  | node => [node]

/-- Of no ways there is a set that no character belongs to. -/
def ofWays : List Node → Node
  | [] => .one .nothing
  | [node] => node
  | node :: rest => .choice node (ofWays rest)

def isLetter : Node → Bool
  | .one set => set.only?.isSome
  | _ => false

def isClass : Node → Bool
  | .one set => set.only?.isNone
  | _ => false

/-- The parts of a sequence, a run of letters taken as one part. -/
def runs : List Node → List (List Node)
  | [] => []
  | node :: rest =>
      match runs rest with
      | (next :: more) :: others =>
          if node.isLetter && next.isLetter then (node :: next :: more) :: others
          else [node] :: (next :: more) :: others
      | others => [node] :: others

def sharedStart : List (List Node) → List (List Node) → List (List Node)
  | first :: others, first' :: others' =>
      if first = first' then first :: sharedStart others others' else []
  | _, _ => []

/-- The parts that all sequences start with. A sequence of one part shares nothing. -/
def sharedRuns : List (List (List Node)) → List (List Node)
  | [] => []
  | first :: others =>
      if (first :: others).all fun runs => 2 ≤ runs.length then others.foldl sharedStart first
      else []

def count : Node → Nat
  | .group _ body => body.count + 1
  | .both first second => first.count + second.count + 1
  | .choice first second => first.count + second.count + 1
  | .repeated _ _ _ body => body.count + 1
  | _ => 1

/-- A choice in its simplest form: one set, if every way is a letter or every way is a class, and
otherwise the common start of all ways in front of the choice. -/
def alternationWithin : (fuel : Nat) → List Node → Node
  | 0, nodes => ofWays nodes
  | fuel + 1, nodes =>
      let nodes := nodes.flatMap ways
      if nodes.length < 2 then ofWays nodes
      else if nodes.all isLetter || nodes.all isClass then
        .one (CharSet.unions (nodes.filterMap fun node =>
          match node with
          | .one set => some set
          | _ => none))
      else
        let sequences := nodes.map fun node => runs node.parts
        let shared := sharedRuns sequences
        if shared.isEmpty then ofWays nodes
        else
          let others := sequences.map fun runs => ofParts (runs.drop shared.length).flatten
          sequence (shared.flatten ++ [alternationWithin fuel others])

def alternation (nodes : List Node) : Node :=
  alternationWithin (nodes.foldl (fun total node => total + node.count) 1) nodes

def isNullable : Node → Bool
  | .empty => true
  | .one _ => false
  | .look _ => true
  | .group _ body => body.isNullable
  | .both first second => first.isNullable && second.isNullable
  | .choice first second => first.isNullable || second.isNullable
  | .repeated least _ _ body => least == 0 || body.isNullable

/-- Whether the node never takes a character. -/
def takesNothing : Node → Bool
  | .empty => true
  | .one _ => false
  | .look _ => true
  | .group _ body => body.takesNothing
  | .both first second => first.takesNothing && second.takesNothing
  | .choice first second => first.takesNothing && second.takesNothing
  | .repeated _ most _ body => most == some 0 || body.takesNothing

/-- A repetition in its simplest form: what never takes a character is repeated once at most, no
repetition at all is the empty node, and one repetition is the body. -/
def repetition (least : Nat) (most : Option Nat) (greedy : Bool) (body : Node) : Node :=
  let least := if body.takesNothing then min least 1 else least
  let most := if body.takesNothing then some (min (most.getD 1) 1) else most
  if least = 0 ∧ most = some 0 then .empty
  else if least = 1 ∧ most = some 1 then body
  else .repeated least most greedy body

def asksForWords : Node → Bool
  | .look (.word _ ascii) => !ascii
  | .group _ body => body.asksForWords
  | .both first second => first.asksForWords || second.asksForWords
  | .choice first second => first.asksForWords || second.asksForWords
  | .repeated _ _ _ body => body.asksForWords
  | _ => false

def lastGroup : Node → Nat
  | .group number body => max number body.lastGroup
  | .both first second => max first.lastGroup second.lastGroup
  | .choice first second => max first.lastGroup second.lastGroup
  | .repeated _ _ _ body => body.lastGroup
  | _ => 0

end Node

/-- The switches that a pattern can turn on and off from inside. -/
structure Flags where
  ignoreCase : Bool
  multiLine : Bool
  dotAll : Bool
  swapGreed : Bool
  unicode : Bool
  crlf : Bool
  extended : Bool
deriving Repr, DecidableEq

namespace Flags

def default : Flags :=
  ⟨false, false, false, false, true, false, false⟩

def set? (flags : Flags) (letter : Char) (value : Bool) : Option Flags :=
  match letter with
  | 'i' => some { flags with ignoreCase := value }
  | 'm' => some { flags with multiLine := value }
  | 's' => some { flags with dotAll := value }
  | 'U' => some { flags with swapGreed := value }
  | 'u' => some { flags with unicode := value }
  | 'R' => some { flags with crlf := value }
  | 'x' => some { flags with extended := value }
  | _ => none

/-- A set as it is meant under the flags: without regard to case, if case is to be ignored. -/
def fold (flags : Flags) (set : CharSet) : CharSet :=
  if flags.ignoreCase then (if flags.unicode then set.folded else set.asciiFolded) else set

/-- Without Unicode, sets stay within ASCII. -/
def accepts (flags : Flags) (code : Nat) : Bool :=
  flags.unicode || code < 128

def dot? (flags : Flags) : Option CharSet :=
  if !flags.unicode then none
  else if flags.dotAll then some CharSet.any
  else if flags.crlf then some (CharSet.ofRanges [(0xa, 0xa), (0xd, 0xd)]).complement
  else some (CharSet.span 0xa 0xa).complement

def digit (flags : Flags) : CharSet :=
  if flags.unicode then CharSet.digit else CharSet.asciiDigit

def blank (flags : Flags) : CharSet :=
  if flags.unicode then CharSet.blank else CharSet.asciiBlank

def word (flags : Flags) : CharSet :=
  if flags.unicode then CharSet.word else CharSet.asciiWord

def lineStart (flags : Flags) : Look :=
  if flags.multiLine then .startOfLine flags.crlf else .startOfText

def lineEnd (flags : Flags) : Look :=
  if flags.multiLine then .endOfLine flags.crlf else .endOfText

end Flags

end RepoRules.Pattern
