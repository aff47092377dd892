import RepoRules.Query.Token

/-!
Expressions of the query language. Every part that an evaluation error can point at carries its
place in the text.
-/

namespace RepoRules.Query

inductive Literal where
  | unit
  | bool (flag : Bool)
  | int (number : Int)
  | float (number : Float)
  | char (character : Char)
  | string (text : String)
  | array (items : List Literal)
  | map (entries : List (String × Literal))
deriving Inhabited

/-- What a case of a switch compares with. -/
inductive CaseLabel where
  | value (literal : Literal)
  | range (first last : Int) (inclusive : Bool)

mutual

inductive Expr where
  | literal (value : Literal) (position : Position)
  /-- The texts of the segments, joined. -/
  | template (segments : List Expr) (position : Position)
  | array (items : List Expr) (position : Position)
  | map (entries : List (String × Expr)) (position : Position)
  | variable (name : String) (position : Position)
  /-- The value that a function without parameters is called on. -/
  | receiver (position : Position)
  /-- A call of a function or an operator. -/
  | call (name : String) (arguments : List Expr) (position : Position)
  /-- A value and how it is reached from the value of `root`, at least one link of it. -/
  | chain (root : Expr) (links : List Link)
  /-- Membership; the container is evaluated first. -/
  | member (item container : Expr) (negated : Bool) (position : Position)
  | both (left right : Expr) (position : Position)
  | either (left right : Expr) (position : Position)
  /-- The left value unless it is the unit. -/
  | fallback (left right : Expr) (position : Position)
  | choice (condition yes no : Expr) (position : Position)
  /-- Each case has its labels, its guard and its result; one without guard has the guard `true`. -/
  | switch (subject : Expr) (cases : List (List CaseLabel × Expr × Expr)) (otherwise : Expr)
      (position : Position)
  /-- A function value; `captured` names what its body takes from outside. -/
  | closure (parameters : List String) (captured : List (String × Position)) (body : Expr)
      (position : Position)

/-- One step from a value to another. An optional step from the unit ends the whole chain. The
first place is that of the dot or bracket, the second that of the name. -/
inductive Link where
  | property (name : String) (optional : Bool) (dot position : Position)
  | method (name : String) (arguments : List Expr) (optional : Bool) (dot position : Position)
  | index (subscript : Expr) (optional : Bool) (bracket : Position)

end

instance : Inhabited Expr := ⟨.literal .unit .start⟩

def receiverName : String := "this"

def Link.isIndex : Link → Bool
  | .index .. => true
  | _ => false

def Link.sign : Link → Position
  | .property _ _ dot _ | .method _ _ _ dot _ => dot
  | .index _ _ bracket => bracket

def insertByName {α : Type} (name : String) (value : α) : List (String × α) → List (String × α)
  | [] => [(name, value)]
  | (other, held) :: rest =>
      if name = other then (name, value) :: rest
      else if name < other then (name, value) :: (other, held) :: rest
      else (other, held) :: insertByName name value rest

namespace Expr

/-- Where an error about the whole expression points: for a chain the sign of its first link. -/
def position : Expr → Position
  | .literal _ position | .template _ position | .array _ position | .map _ position
  | .variable _ position | .receiver position | .call _ _ position | .member _ _ _ position
  | .both _ _ position | .either _ _ position | .fallback _ _ position
  | .choice _ _ _ position | .switch _ _ _ position | .closure _ _ _ position => position
  | .chain _ (link :: _) => link.sign
  | .chain root [] => root.position

/-- Where the expression begins: a template that opens with an interpolation begins at its brace. -/
def start : Expr → Position
  | .chain root _ => root.start
  | .both left .. | .either left .. | .fallback left .. => left.start
  | .template (.literal (.string "") _ :: _) position =>
      { position with column := position.column + 2 }
  | expression => expression.position

/-- Literals and containers, of which it is plain that they are no condition. -/
def isNeverBool : Expr → Bool
  | .literal (.bool _) _ => false
  | .literal .. | .template .. | .array .. | .map .. => true
  | _ => false

/-- Whether it is plain that an expression is no number. -/
def isNeverInt : Expr → Bool
  | .literal (.int _) _ => false
  | .literal .. | .template .. | .both .. | .either .. => true
  | _ => false

/-- Whether it is plain that an expression is no text. -/
def isNeverString : Expr → Bool
  | .literal (.string _) _ => false
  | .literal .. | .both .. | .either .. => true
  | _ => false

/-- Whether an index of this form cannot apply to a receiver of that form. Only receivers that are
written out are looked at. -/
def rejectsIndex (receiver subscript : Expr) : Bool :=
  match receiver with
  | .map .. => subscript.isNeverString
  | .array .. | .template .. | .literal (.string _) _ | .literal (.int _) _ => subscript.isNeverInt
  | _ => false

mutual

def constant? : Expr → Option Literal
  | .literal value _ => some value
  | .array items _ => (constants? items).map .array
  | .map entries _ => (constantEntries? entries).map .map
  | _ => none

def constants? : List Expr → Option (List Literal)
  | [] => some []
  | item :: rest => do
      let value ← constant? item
      let values ← constants? rest
      some (value :: values)

def constantEntries? : List (String × Expr) → Option (List (String × Literal))
  | [] => some []
  | (name, item) :: rest => do
      let value ← constant? item
      let values ← constantEntries? rest
      some (insertByName name value values)

end

mutual

def usedNames : Expr → List (String × Position)
  | .literal .. => []
  | .receiver position => [(receiverName, position)]
  | .template segments _ => usedNamesOfAll segments
  | .array items _ => usedNamesOfAll items
  | .map entries _ => usedNamesOfEntries entries
  | .variable name position => [(name, position)]
  | .call _ arguments _ => usedNamesOfAll arguments
  | .chain root links => usedNames root ++ usedNamesOfLinks links
  | .member item container _ _ => usedNames item ++ usedNames container
  | .both left right _ => usedNames left ++ usedNames right
  | .either left right _ => usedNames left ++ usedNames right
  | .fallback left right _ => usedNames left ++ usedNames right
  | .choice condition yes no _ => usedNames condition ++ usedNames yes ++ usedNames no
  | .switch subject cases otherwise _ =>
      usedNames subject ++ usedNamesOfCases cases ++ usedNames otherwise
  | .closure _ captured _ _ => captured

def usedNamesOfAll : List Expr → List (String × Position)
  | [] => []
  | expression :: rest => usedNames expression ++ usedNamesOfAll rest

def usedNamesOfEntries : List (String × Expr) → List (String × Position)
  | [] => []
  | (_, expression) :: rest => usedNames expression ++ usedNamesOfEntries rest

def usedNamesOfLink : Link → List (String × Position)
  | .property .. => []
  | .method _ arguments .. => usedNamesOfAll arguments
  | .index subscript .. => usedNames subscript

def usedNamesOfLinks : List Link → List (String × Position)
  | [] => []
  | link :: rest => usedNamesOfLink link ++ usedNamesOfLinks rest

def usedNamesOfCases : List (List CaseLabel × Expr × Expr) → List (String × Position)
  | [] => []
  | (_, guard, result) :: rest => usedNames guard ++ usedNames result ++ usedNamesOfCases rest

end

/-- The variables that a function value takes from outside, each at its first use. Its receiver is
its own. -/
def captured (parameters : List String) (body : Expr) : List (String × Position) :=
  body.usedNames.foldl (fun found used =>
    if parameters.contains used.1 || used.1 == receiverName
        || found.any (fun other => other.1 == used.1) then found
    else found ++ [used]) []

end Expr

end RepoRules.Query
