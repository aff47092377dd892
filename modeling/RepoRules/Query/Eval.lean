import RepoRules.Query.Builtin
import RepoRules.Query.Parser

/-!
Evaluation of expressions. Operands are evaluated from left to right; the two connectives, the
fallback and the choices evaluate only what they need. In a chain of properties, methods and
indexes all arguments and indexes come first and the value at its root last, and a method that
changes its receiver changes the variable at the root. Closures may be called 32 levels deep, and
that number is what the recursion is on.
-/

namespace RepoRules.Query

def expectBool (position : Position) : Value → Evaluation Bool
  | .bool flag => pure flag
  | other => throw ⟨.wrongType other.rawTypeName "bool", some position⟩

def variableAt (name : String) (position : Position) : Evaluation Value := do
  countAt position
  match (← get).scope.lookup name with
  | some value => pure value
  | none => throw ⟨.variableNotFound name, some position⟩

def updateVariable (name : String) (value : Value) : Evaluation Unit :=
  modify fun memory => { memory with scope := memory.scope.update name value }

def CaseLabel.isDenotedBy (subject : Value) : CaseLabel → Bool
  | .value literal => literal.denotes subject
  | .range .. => false

def CaseLabel.holds (subject : Value) : CaseLabel → Bool
  | .value _ => false
  | .range first last inclusive =>
      match subject with
      | .int number => first ≤ number && if inclusive then number ≤ last else number < last
      | .float number =>
          Float.ofInt first ≤ number &&
            if inclusive then number ≤ Float.ofInt last else number < Float.ofInt last
      | _ => false

/-- Which labels of a switch are tried: those that name the subject, and where there are none, those
whose range holds it. -/
def labelTest (subject : Value) (cases : List (List CaseLabel × Expr × Expr)) : CaseLabel → Bool :=
  if cases.any fun entry => entry.1.any (CaseLabel.isDenotedBy subject) then
    CaseLabel.isDenotedBy subject
  else CaseLabel.holds subject

/-- What a closure takes from outside; every name must have a value. -/
def capture : List (String × Position) → Evaluation Scope
  | [] => pure []
  | (name, position) :: rest => do
      match (← get).scope.lookup name with
      | some value =>
          let others ← capture rest
          pure ((name, value) :: others)
      | none => throw ⟨.variableNotFound name, some position⟩

/-- A link whose arguments or index are known. The places of an index are those of its bracket and
of its start. -/
inductive Access where
  | property (name : String) (optional : Bool) (position : Position)
  | method (name : String) (arguments : List Value) (optional : Bool) (position : Position)
  | index (subscript : Value) (optional : Bool) (bracket start : Position)

def Access.isOptional : Access → Bool
  | .property _ optional _ | .method _ _ optional _ | .index _ optional _ _ => optional

/-- The first argument that is a closure over the variable, counted from 1. -/
def sharedArgument? (name : String) (arguments : List Value) : Option Nat :=
  (arguments.findIdx? fun
    | .closure _ captured _ => captured.any fun entry => entry.1 == name
    | _ => false).map (· + 1)

/-- The place of a failed index: that of the bracket if the value has no indexes at all. -/
def atIndex (bracket start : Position) (result : Except Failure Value) : Except Failure Value :=
  match result with
  | .error ⟨.noIndexer receiver subscript, _⟩ =>
      .error ⟨.noIndexer receiver subscript, some bracket⟩
  | result => located start result

/-- The value that is reached from `receiver`, and the receiver itself if that was changed on the
way. No method may be given a closure over `root?`, the variable that the chain begins with. -/
def follow (apply : Apply) (root? : Option String) :
    (receiver : Value) → List Access → Evaluation (Value × Option Value)
  | receiver, [] => pure (receiver, none)
  | receiver, access :: rest =>
      match receiver, access.isOptional with
      | .unit, true => pure (.unit, none)
      | _, _ =>
          match access with
          | .property name _ position => do
              countAt position
              let held ← located position (property receiver name)
              let (value, changed) ← follow apply root? held rest
              pure (value, changed.map fun item => withItem receiver (.string name) item)
          | .index subscript _ bracket start => do
              countAt start
              let held ← atIndex bracket start (itemAt receiver subscript)
              let (value, changed) ← follow apply root? held rest
              pure (value, changed.map fun item => withItem receiver subscript item)
          | .method name arguments _ position => do
              countAt position
              match root?.bind fun root => sharedArgument? root arguments with
              | some place => throw ⟨.sharedArgument place name, none⟩
              | none =>
                  let result ← callMethod apply name position receiver arguments
                  let (value, _) ← follow apply root? result rest
                  pure (value, changed? name (receiver :: arguments))

mutual

def evaluate (apply : Apply) : Expr → Evaluation Value
  | .literal value position => do
      countAt position
      pure (.ofLiteral value)
  | .template segments position => do
      countAt position
      let values ← evaluateAll apply segments
      located position (sized (.string ("".intercalate (values.map Value.text))))
  | .array items position => do
      countAt position
      let values ← evaluateAll apply items
      located position (sized (.array values))
  | .map entries position => do
      countAt position
      let values ← evaluateEntries apply entries
      located position (sized (.map (concatenate [] values)))
  | .variable name position => variableAt name position
  | .receiver position => do
      countAt position
      match (← get).receiver with
      | some value => pure value
      | none => throw ⟨.unboundReceiver, some position⟩
  | .call name arguments position => do
      countAt position
      let values ← evaluateArguments apply name arguments
      match name, values with
      | "is_def_var", [.string wanted] =>
          pure (.bool ((← get).scope.lookup wanted).isSome)
      | _, _ =>
          let value ← callFunction apply name position values
          match arguments, changed? name values with
          | [.variable changed _], some after =>
              updateVariable changed after
              pure value
          | _, _ => pure value
  | .chain root links => do
      let accesses ← evaluateLinks apply links
      match root with
      | .variable name position =>
          let receiver ← variableAt name position
          let (value, changed) ← follow apply (some name) receiver accesses
          match changed with
          | some after =>
              updateVariable name after
              pure value
          | none => pure value
      | root =>
          let receiver ← evaluate apply root
          let (value, _) ← follow apply none receiver accesses
          pure value
  | .member item container negated position => do
      countAt position
      let container ← evaluate apply container
      let item ← evaluate apply item
      match contains? container item with
      | some found => pure (.bool (found != negated))
      | none => located position (noFunction "contains" [container, item])
  | .both left right position => do
      countAt position
      let first ← evaluate apply left
      if ← expectBool left.position first then
        let second ← evaluate apply right
        let flag ← expectBool right.position second
        pure (.bool flag)
      else pure (.bool false)
  | .either left right position => do
      countAt position
      let first ← evaluate apply left
      if ← expectBool left.position first then pure (.bool true)
      else
        let second ← evaluate apply right
        let flag ← expectBool right.position second
        pure (.bool flag)
  | .fallback left right position => do
      countAt position
      match ← evaluate apply left with
      | .unit => evaluate apply right
      | value => pure value
  | .choice condition yes no position => do
      countAt position
      let value ← evaluate apply condition
      if ← expectBool condition.position value then evaluate apply yes
      else evaluate apply no
  | .switch subject cases otherwise position => do
      countAt position
      let value ← evaluate apply subject
      match ← evaluateCases apply (labelTest value cases) cases with
      | some result => pure result
      | none => evaluate apply otherwise
  | .closure parameters captured body position => do
      countAt position
      let held ← capture captured
      pure (.closure parameters held body)

def evaluateAll (apply : Apply) : List Expr → Evaluation (List Value)
  | [] => pure []
  | expression :: rest => do
      let value ← evaluate apply expression
      let values ← evaluateAll apply rest
      pure (value :: values)

def evaluateArguments (apply : Apply) (name : String) : List Expr → Evaluation (List Value)
  | [] => pure []
  | expression :: rest => do
      match expression with
      | .variable held position =>
          if (binaryOperator? name).isSome then
            let value ← variableAt held position
            let values ← evaluateAll apply rest
            pure (value :: values)
          else
            let values ← evaluateAll apply rest
            let value ← variableAt held position
            pure (value :: values)
      | expression =>
          let value ← evaluate apply expression
          let values ← evaluateAll apply rest
          pure (value :: values)

def evaluateEntries (apply : Apply) :
    List (String × Expr) → Evaluation (List (String × Value))
  | [] => pure []
  | (name, expression) :: rest => do
      let value ← evaluate apply expression
      let values ← evaluateEntries apply rest
      pure ((name, value) :: values)

def evaluateLink (apply : Apply) : Link → Evaluation Access
  | .property name optional dot position => do
      countAt dot
      pure (.property name optional position)
  | .method name arguments optional dot position => do
      countAt dot
      let values ← evaluateAll apply arguments
      pure (.method name values optional position)
  | .index subscript optional bracket => do
      countAt bracket
      let value ← evaluate apply subscript
      pure (.index value optional bracket subscript.start)

def evaluateLinks (apply : Apply) : List Link → Evaluation (List Access)
  | [] => pure []
  | link :: rest => do
      let access ← evaluateLink apply link
      let accesses ← evaluateLinks apply rest
      pure (access :: accesses)

/-- The result of the first case with a label that passes the test and whose guard holds. -/
def evaluateCases (apply : Apply) (test : CaseLabel → Bool) :
    List (List CaseLabel × Expr × Expr) → Evaluation (Option Value)
  | [] => pure none
  | (labels, guard, result) :: rest => do
      if labels.any test then
        let condition ← evaluate apply guard
        if ← expectBool guard.position condition then
          let value ← evaluate apply result
          pure (some value)
        else evaluateCases apply test rest
      else evaluateCases apply test rest

end

/-- Calls a closure with `levels` levels of calls left. A failure inside is reported as such. -/
def applyAt : (levels : Nat) → Apply
  | levels, position, .closure parameters captured body, receiver, arguments =>
      match levels with
      | 0 => throw ⟨.callsTooDeep, some position⟩
      | levels + 1 => fun memory =>
          if parameters.length = arguments.length then
            let inner : Memory :=
              { scope := parameters.zip arguments ++ captured, receiver,
                operations := memory.operations }
            let body : Evaluation Value := do
              countAt position
              evaluate (applyAt levels) body
            match body inner with
            | .ok (value, after) => .ok (value, { memory with operations := after.operations })
            | .error failed => .error (failed.outOfClosure position)
          else located position (noFunction "closure" arguments)
  | _, position, _, _, arguments => located position (noFunction "call" arguments)

def callLevels : Nat := 32

def Expr.value (scope : Scope) (expression : Expr) : Except Failure Value :=
  (evaluate (applyAt callLevels) expression ⟨scope, none, 0⟩).map Prod.fst

def compiles (source : String) : Bool :=
  (parse? source).isSome

/-- The variables that a snapshot offers: the fields of an object, and nothing otherwise. -/
def scopeOf : Json → Scope
  | .object fields => Value.ofJsonFields fields
  | _ => []

def run (source : String) (snapshot : Json) : Except Error Json :=
  match parse? source with
  | none => .error .notAnExpression
  | some expression =>
      match expression.value (scopeOf snapshot) with
      | .ok value => .ok value.toJson
      | .error failure => .error (.failed failure)

end RepoRules.Query

namespace RepoRules.Json

/-- Which results count as true: everything but null, false, zero and empty texts, lists and
objects. -/
def isTruthy : Json → Bool
  | .null => false
  | .bool flag => flag
  | .int number => number != 0
  | .float number => number != 0.0
  | .string text => !text.isEmpty
  | .array items => !items.isEmpty
  | .object fields => !fields.isEmpty

end RepoRules.Json
