import RepoRules.Query.Syntax

/-!
From tokens to expressions, by precedence of operators. Nesting is limited: every construct that
encloses another costs some of 64 levels, and so does every operator of a chain. A text that is no
expression gives no result.
-/

namespace RepoRules.Query

def precedence : String → Nat
  | "||" | "|" | "^" => 30
  | "&&" | "&" => 60
  | "==" | "!=" => 90
  | "!in" => 110
  | "<" | "<=" | ">" | ">=" => 130
  | "??" => 135
  | ".." | "..=" => 140
  | "+" | "-" => 150
  | "*" | "/" | "%" => 180
  | "**" => 190
  | "<<" | ">>" => 210
  | _ => 0

namespace Parser

def levelLimit : Nat := 64

def deeper? (level : Nat) : Option Nat :=
  if level < levelLimit then some (level + 1) else none

def operator? : List PlacedToken → Option (String × Nat × Position × List PlacedToken)
  | ⟨.keyword "in", position⟩ :: rest => some ("in", 110, position, rest)
  | ⟨.symbol text, position⟩ :: rest =>
      if precedence text = 0 then none else some (text, precedence text, position, rest)
  | _ => none

/-- Only raising to a power groups to the right. -/
def groupsRight (operator : String) : Bool :=
  operator == "**"

/-- The expression of an operator and its operands. The two connectives refuse operands that are
plainly no conditions; errors of a comparison, `!=` apart, point at its left operand. -/
def combine? (operator : String) (left right : Expr) (position : Position) : Option Expr :=
  match operator with
  | "&&" =>
      if left.isNeverBool || right.isNeverBool then none else some (.both left right position)
  | "||" =>
      if left.isNeverBool || right.isNeverBool then none else some (.either left right position)
  | "??" => some (.fallback left right position)
  | "in" => some (.member left right false left.start)
  | "!in" => some (.member left right true left.start)
  | "==" | "<" | "<=" | ">" | ">=" => some (.call operator [left, right] left.start)
  | _ => some (.call operator [left, right] position)

/-- The negative of an expression: literals are negated at once. -/
def negate (inner : Expr) (position : Position) : Expr :=
  match inner with
  | .literal (.int number) _ =>
      if number = Json.minSigned then .literal (.float (-(Float.ofInt number))) position
      else .literal (.int (-number)) position
  | .literal (.float number) _ => .literal (.float (-number)) position
  | _ => .call "-" [inner] position

/-- The bound of a range that is written out; the unit stands for a missing one. -/
def bound? (missing : Int) : Expr → Option Int
  | .literal (.int number) _ => some number
  | .literal .unit _ => some missing
  | _ => none

/-- The first and the last integer of a range, where a missing bound reaches as far as possible. A
range has at least one bound. -/
def bounds? : (first last : Expr) → Option (Int × Int)
  | .literal .unit _, .literal .unit _ => none
  | first, last => do
      let first ← bound? 0 first
      let last ← bound? Json.maxSigned last
      some (first, last)

def caseLabel? (expression : Expr) : Option CaseLabel :=
  match expression with
  | .call ".." [first, last] _ =>
      (bounds? first last).map fun bounds => .range bounds.1 bounds.2 false
  | .call "..=" [first, last] _ =>
      (bounds? first last).map fun bounds => .range bounds.1 bounds.2 true
  | _ => expression.constant?.map .value

/-- The labels of a case, after `rangeSeen` ranges that hold something. Behind such a range no
label may be a number. -/
def labelsAllowed : (rangeSeen : Bool) → List CaseLabel → Option Bool
  | rangeSeen, [] => some rangeSeen
  | rangeSeen, .range first last inclusive :: rest =>
      labelsAllowed (rangeSeen || first < last || (inclusive && first == last)) rest
  | rangeSeen, .value (.int _) :: rest | rangeSeen, .value (.float _) :: rest =>
      if rangeSeen then none else labelsAllowed rangeSeen rest
  | rangeSeen, _ :: rest => labelsAllowed rangeSeen rest

def makesRange (operator : String) : Bool :=
  operator == ".." || operator == "..="

/-- What stands for the first number of a range that begins with its sign. -/
def missingBound? : List PlacedToken → Option Expr
  | ⟨.symbol sign, position⟩ :: _ => if makesRange sign then some (.literal .unit position) else none
  | _ => none

/-- Whether a range may end in front of these tokens without a last number. -/
def endsRange : List PlacedToken → Bool
  | ⟨.symbol text, _⟩ :: _ => ["]", ",", ")", "\x7d", "\x7b", ";", "=>"].contains text
  | _ => false

/-- An expression with the links behind it. Indexes in parentheses are part of the chain when a dot
follows; any other chain in parentheses is a value of its own. -/
def linked (root : Expr) (links : List Link) : Expr :=
  match root, links with
  | _, [] => root
  | _, .index .. :: _ => .chain root links
  | .chain inner held, _ =>
      if held.all Link.isIndex then .chain inner (held ++ links) else .chain root links
  | _, _ => .chain root links

def distinct (names : List String) : Bool :=
  names.eraseDups.length == names.length

def parameters? : List PlacedToken → Option (List String × List PlacedToken)
  | ⟨.symbol "|", _⟩ :: rest => some ([], rest)
  | ⟨.name name, _⟩ :: ⟨.symbol "|", _⟩ :: rest => some ([name], rest)
  | ⟨.name name, _⟩ :: ⟨.symbol ",", _⟩ :: rest => do
      let (names, rest) ← parameters? rest
      some (name :: names, rest)
  | _ => none

mutual

def expression? : (fuel level : Nat) → List PlacedToken → Option (Expr × List PlacedToken)
  | 0, _, _ => none
  | fuel + 1, level, tokens => do
      let level ← deeper? level
      let (left, rest) ← match missingBound? tokens with
        | some unit => some (unit, tokens)
        | none => unary? fuel level tokens
      binary? fuel level 1 left rest

/-- Extends `left` by operators that bind at least as tightly as `bound`. -/
def binary? : (fuel level bound : Nat) → Expr → List PlacedToken →
    Option (Expr × List PlacedToken)
  | 0, _, _, _, _ => none
  | fuel + 1, level, bound, left, tokens =>
      match operator? tokens with
      | none => some (left, tokens)
      | some (operator, strength, position, rest) =>
          if strength < bound || (strength == bound && !groupsRight operator) then
            some (left, tokens)
          else do
            let (right, rest) ←
              if makesRange operator && endsRange rest then
                some (.literal .unit position, rest)
              else unary? fuel level rest
            let (right, rest) ← match operator? rest with
              | some (_, next, _, _) =>
                  if strength < next || (strength == next && groupsRight operator) then do
                    let inner ← deeper? level
                    binary? fuel inner strength right rest
                  else some (right, rest)
              | none => some (right, rest)
            let level ← deeper? level
            let whole ← combine? operator left right position
            binary? fuel level bound whole rest

def unary? : (fuel level : Nat) → List PlacedToken → Option (Expr × List PlacedToken)
  | 0, _, _ => none
  | fuel + 1, level, tokens => do
      match tokens with
      | ⟨.negate, position⟩ :: rest =>
          let level ← deeper? level
          let (inner, rest) ← unary? fuel level rest
          some (negate inner position, rest)
      | ⟨.symbol "+", position⟩ :: rest =>
          let level ← deeper? level
          let (inner, rest) ← unary? fuel level rest
          match inner with
          | .literal (.int _) _ | .literal (.float _) _ => some (inner, rest)
          | _ => some (.call "+" [inner] position, rest)
      | ⟨.symbol "!", position⟩ :: rest =>
          let level ← deeper? level
          let (inner, rest) ← unary? fuel level rest
          some (.call "!" [inner] position, rest)
      | _ =>
          let (root, rest) ← primary? fuel level tokens
          let (links, rest) ← links? fuel level (some root) rest
          some (linked root links, rest)

def primary? : (fuel level : Nat) → List PlacedToken → Option (Expr × List PlacedToken)
  | 0, _, _ => none
  | fuel + 1, level, tokens => do
      match tokens with
      | ⟨.int number, position⟩ :: rest => some (.literal (.int number) position, rest)
      | ⟨.float number, position⟩ :: rest => some (.literal (.float number) position, rest)
      | ⟨.char character, position⟩ :: rest => some (.literal (.char character) position, rest)
      | ⟨.string text, position⟩ :: rest => some (.literal (.string text) position, rest)
      | ⟨.keyword "true", position⟩ :: rest => some (.literal (.bool true) position, rest)
      | ⟨.keyword "false", position⟩ :: rest => some (.literal (.bool false) position, rest)
      | ⟨.keyword "this", position⟩ :: rest => some (.receiver position, rest)
      | ⟨.innate name, position⟩ :: ⟨.symbol "(", _⟩ :: rest => call? fuel level name position rest
      | ⟨.name name, position⟩ :: ⟨.symbol "(", _⟩ :: rest => call? fuel level name position rest
      | ⟨.name name, position⟩ :: rest => some (.variable name position, rest)
      | ⟨.symbol "(", position⟩ :: ⟨.symbol ")", _⟩ :: rest =>
          some (.literal .unit position, rest)
      | ⟨.symbol "(", _⟩ :: rest =>
          let level ← deeper? level
          match ← expression? fuel level rest with
          | (inner, ⟨.symbol ")", _⟩ :: rest) => some (inner, rest)
          | _ => none
      | ⟨.symbol "[", position⟩ :: rest =>
          let level ← (deeper? level).bind deeper?
          let (items, rest) ← list? fuel level "]" rest
          some (.array items position, rest)
      | ⟨.symbol "#\x7b", position⟩ :: rest =>
          let level ← (deeper? level).bind deeper?
          let (entries, rest) ← entries? fuel level rest
          if distinct (entries.map Prod.fst) then some (.map entries position, rest) else none
      | ⟨.templateOpen, position⟩ :: rest =>
          let level ← (deeper? level).bind deeper?
          let (segments, rest) ← segments? fuel level rest
          some (.template segments position, rest)
      | ⟨.keyword "if", position⟩ :: rest =>
          let level ← deeper? level
          choice? fuel level position rest
      | ⟨.keyword "switch", position⟩ :: rest =>
          let level ← deeper? level
          switch? fuel level position rest
      | ⟨.symbol "||", position⟩ :: rest =>
          let level ← (deeper? level).bind deeper?
          closure? fuel level [] position rest
      | ⟨.symbol "|", position⟩ :: rest =>
          let level ← (deeper? level).bind deeper?
          let (names, rest) ← parameters? rest
          if distinct names then closure? fuel level names position rest else none
      | _ => none

def call? : (fuel level : Nat) → (name : String) → Position → List PlacedToken →
    Option (Expr × List PlacedToken)
  | 0, _, _, _, _ => none
  | fuel + 1, level, name, position, tokens => do
      let level ← deeper? level
      let (arguments, rest) ← list? fuel level ")" tokens
      some (.call name arguments position, rest)

/-- The properties, method calls and indexes behind an expression, `receiver` if that stands
directly in front. Each dot goes one level deeper for all that follows; indexes in a row go deeper
for themselves only. -/
def links? : (fuel level : Nat) → (receiver : Option Expr) → List PlacedToken →
    Option (List Link × List PlacedToken)
  | 0, _, _, _ => none
  | fuel + 1, level, receiver, tokens =>
      match tokens with
      | ⟨.symbol sign, position⟩ :: rest =>
          if sign == "." || sign == "?." then do
            let level ← deeper? level
            let (link, rest) ← member? fuel level (sign == "?.") position rest
            let (links, rest) ← links? fuel level none rest
            some (link :: links, rest)
          else if sign == "[" || sign == "?[" then do
            let (indexes, rest) ← indexes? fuel level tokens
            let rejected := match receiver, indexes with
              | some receiver, .index subscript .. :: _ => receiver.rejectsIndex subscript
              | _, _ => false
            if rejected then none
            let (links, rest) ← links? fuel level none rest
            some (indexes ++ links, rest)
          else some ([], tokens)
      | _ => some ([], tokens)

def member? : (fuel level : Nat) → (optional : Bool) → (dot : Position) → List PlacedToken →
    Option (Link × List PlacedToken)
  | 0, _, _, _, _ => none
  | fuel + 1, level, optional, dot, tokens =>
      match tokens with
      | ⟨.name name, position⟩ :: ⟨.symbol "(", _⟩ :: rest => do
          let level ← deeper? level
          let (arguments, rest) ← list? fuel level ")" rest
          some (.method name arguments optional dot position, rest)
      | ⟨.name name, position⟩ :: rest => some (.property name optional dot position, rest)
      | ⟨.innate name, position⟩ :: ⟨.symbol "(", _⟩ :: rest => do
          if !Token.innateMethods.contains name then none
          let level ← deeper? level
          let (arguments, rest) ← list? fuel level ")" rest
          some (.method name arguments optional dot position, rest)
      | _ => none

def indexes? : (fuel level : Nat) → List PlacedToken → Option (List Link × List PlacedToken)
  | 0, _, _ => none
  | fuel + 1, level, tokens => do
      let level ← deeper? level
      let inner ← deeper? level
      match tokens with
      | ⟨.symbol bracket, position⟩ :: rest =>
          match ← expression? fuel inner rest with
          | (subscript, ⟨.symbol "]", _⟩ :: rest) =>
              let link : Link := .index subscript (bracket == "?[") position
              match rest with
              | ⟨.symbol next, _⟩ :: _ =>
                  if next == "[" || next == "?[" then
                    let (links, rest) ← indexes? fuel level rest
                    some (link :: links, rest)
                  else some ([link], rest)
              | _ => some ([link], rest)
          | _ => none
      | _ => none

def list? : (fuel level : Nat) → (closing : String) → List PlacedToken →
    Option (List Expr × List PlacedToken)
  | 0, _, _, _ => none
  | fuel + 1, level, closing, tokens =>
      match tokens with
      | ⟨.symbol text, _⟩ :: rest =>
          if text == closing then some ([], rest) else item? fuel level closing tokens
      | _ => item? fuel level closing tokens

def item? : (fuel level : Nat) → (closing : String) → List PlacedToken →
    Option (List Expr × List PlacedToken)
  | 0, _, _, _ => none
  | fuel + 1, level, closing, tokens => do
      match ← expression? fuel level tokens with
      | (item, ⟨.symbol text, _⟩ :: rest) =>
          if text == closing then some ([item], rest)
          else if text == "," then
            let (items, rest) ← list? fuel level closing rest
            some (item :: items, rest)
          else none
      | _ => none

def entries? : (fuel level : Nat) → List PlacedToken →
    Option (List (String × Expr) × List PlacedToken)
  | 0, _, _ => none
  | _ + 1, _, ⟨.symbol "\x7d", _⟩ :: rest => some ([], rest)
  | fuel + 1, level, ⟨.name name, _⟩ :: ⟨.symbol ":", _⟩ :: rest => entry? fuel level name rest
  | fuel + 1, level, ⟨.string name, _⟩ :: ⟨.symbol ":", _⟩ :: rest => entry? fuel level name rest
  | _, _, _ => none

def entry? : (fuel level : Nat) → (name : String) → List PlacedToken →
    Option (List (String × Expr) × List PlacedToken)
  | 0, _, _, _ => none
  | fuel + 1, level, name, tokens => do
      match ← expression? fuel level tokens with
      | (value, ⟨.symbol "\x7d", _⟩ :: rest) => some ([(name, value)], rest)
      | (value, ⟨.symbol ",", _⟩ :: rest) =>
          let (entries, rest) ← entries? fuel level rest
          some ((name, value) :: entries, rest)
      | _ => none

def segments? : (fuel level : Nat) → List PlacedToken → Option (List Expr × List PlacedToken)
  | 0, _, _ => none
  | _ + 1, _, ⟨.templateClose, _⟩ :: rest => some ([], rest)
  | fuel + 1, level, ⟨.templateText text, position⟩ :: rest => do
      let (segments, rest) ← segments? fuel level rest
      some (.literal (.string text) position :: segments, rest)
  | fuel + 1, level, ⟨.interpolationOpen, _⟩ :: rest => do
      match ← expression? fuel level rest with
      | (inner, ⟨.interpolationClose, _⟩ :: rest) =>
          let (segments, rest) ← segments? fuel level rest
          some (inner :: segments, rest)
      | _ => none
  | _, _, _ => none

def block? : (fuel level : Nat) → List PlacedToken → Option (Expr × List PlacedToken)
  | 0, _, _ => none
  | fuel + 1, level, ⟨.symbol "\x7b", _⟩ :: rest => do
      let level ← deeper? level
      match ← expression? fuel level rest with
      | (inner, ⟨.symbol "\x7d", _⟩ :: rest) => some (inner, rest)
      | _ => none
  | _, _, _ => none

def choice? : (fuel level : Nat) → Position → List PlacedToken → Option (Expr × List PlacedToken)
  | 0, _, _, _ => none
  | fuel + 1, level, position, tokens => do
      let inner ← deeper? level
      let (condition, rest) ← expression? fuel inner tokens
      if condition.isNeverBool then none
      let (yes, rest) ← block? fuel inner rest
      match rest with
      | ⟨.keyword "else", _⟩ :: ⟨.keyword "if", place⟩ :: rest =>
          let (no, rest) ← choice? fuel inner place rest
          some (.choice condition yes no position, rest)
      | ⟨.keyword "else", _⟩ :: rest =>
          let (no, rest) ← block? fuel inner rest
          some (.choice condition yes no position, rest)
      | rest => some (.choice condition yes (.literal .unit position) position, rest)

def switch? : (fuel level : Nat) → Position → List PlacedToken → Option (Expr × List PlacedToken)
  | 0, _, _, _ => none
  | fuel + 1, level, position, tokens => do
      let level ← deeper? level
      match ← expression? fuel level tokens with
      | (subject, ⟨.symbol "\x7b", _⟩ :: rest) =>
          let (cases, otherwise, rest) ← cases? fuel level false rest
          some (.switch subject cases otherwise position, rest)
      | _ => none

def labels? : (fuel level : Nat) → List PlacedToken → Option (List CaseLabel × List PlacedToken)
  | 0, _, _ => none
  | fuel + 1, level, tokens => do
      let inner ← deeper? level
      let (left, rest) ← match missingBound? tokens with
        | some unit => some (unit, tokens)
        | none => unary? fuel inner tokens
      let (label, rest) ← binary? fuel inner 31 left rest
      let label ← caseLabel? label
      match rest with
      | ⟨.symbol "|", _⟩ :: rest =>
          let (labels, rest) ← labels? fuel level rest
          some (label :: labels, rest)
      | rest => some ([label], rest)

/-- The cases of a switch and what applies otherwise, up to the closing brace. -/
def cases? : (fuel level : Nat) → (rangeSeen : Bool) → List PlacedToken →
    Option (List (List CaseLabel × Expr × Expr) × Expr × List PlacedToken)
  | 0, _, _, _ => none
  | _ + 1, _, _, ⟨.symbol "\x7d", position⟩ :: rest => some ([], .literal .unit position, rest)
  | fuel + 1, level, _, ⟨.symbol "_", _⟩ :: ⟨.symbol "=>", _⟩ :: rest => do
      match ← expression? fuel level rest with
      | (result, ⟨.symbol ",", _⟩ :: ⟨.symbol "\x7d", _⟩ :: rest) => some ([], result, rest)
      | (result, ⟨.symbol "\x7d", _⟩ :: rest) => some ([], result, rest)
      | _ => none
  | fuel + 1, level, rangeSeen, tokens => do
      let (labels, rest) ← labels? fuel level tokens
      let rangeSeen ← labelsAllowed rangeSeen labels
      let (guard, rest) ← match rest with
        | ⟨.keyword "if", _⟩ :: rest =>
            (expression? fuel level rest).bind fun found =>
              if found.1.isNeverBool then none else some found
        | rest => some (.literal (.bool true) .start, rest)
      match rest with
      | ⟨.symbol "=>", _⟩ :: rest =>
          match ← expression? fuel level rest with
          | (result, ⟨.symbol ",", _⟩ :: rest) =>
              let (cases, otherwise, rest) ← cases? fuel level rangeSeen rest
              some ((labels, guard, result) :: cases, otherwise, rest)
          | (result, ⟨.symbol "\x7d", position⟩ :: rest) =>
              some ([(labels, guard, result)], .literal .unit position, rest)
          | _ => none
      | _ => none

/-- A function value behind its parameters. Its body is a block, a choice or a switch that stands
alone, or an expression. -/
def closure? : (fuel level : Nat) → List String → Position → List PlacedToken →
    Option (Expr × List PlacedToken)
  | 0, _, _, _, _ => none
  | fuel + 1, level, parameters, position, tokens => do
      let level ← deeper? level
      let (body, rest) ← match tokens with
        | ⟨.symbol "\x7b", _⟩ :: _ => block? fuel level tokens
        | ⟨.keyword "if", place⟩ :: rest => choice? fuel level place rest
        | ⟨.keyword "switch", place⟩ :: rest => switch? fuel level place rest
        | _ => expression? fuel level tokens
      some (.closure parameters (Expr.captured parameters body) body position, rest)

end

end Parser

def parse? (text : String) : Option Expr := do
  let tokens ← tokens? text
  match ← Parser.expression? (8 * tokens.length + 8) 0 tokens with
  | (expression, []) =>
      if expression.usedNames.any (fun used => used.1 == receiverName) then none
      else some expression
  | _ => none

end RepoRules.Query
