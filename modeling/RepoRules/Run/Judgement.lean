import RepoRules.Rules.Condition
import RepoRules.Run.Effect

/-!
Whether a condition holds in the state of a run. Parts are judged from left to right and only as
far as needed; a query that fails leaves the whole condition without an answer.
-/

namespace RepoRules

/-- Judging notes the queries that it evaluates. -/
abbrev Judge := ExceptT RuleError (StateM (List String))

namespace Condition

def author (context : Context) : String :=
  match context.comment, context.target with
  | some comment, _ => comment.author
  | none, some item => item.author
  | none, none => ""

def judgeQuery (context : Context) (source : String) : Judge Bool := do
  modify (· ++ [source])
  match context.answer source with
  | .ok value => return value.isTruthy
  | .error error => throw (.query (.evaluation source error))

def holds (context : Context) : Fact → Bool
  | .constant flag => flag
  | .hasLabel labels => context.target.any fun item => labels.all item.hasLabel
  | .missingLabel labels => context.target.all fun item => !labels.any item.hasLabel
  | .titleMatches pattern => context.target.any fun item => pattern.occursIn item.title
  | .bodyMatches pattern => context.target.any fun item => pattern.occursIn item.body
  | .commentMatches pattern => context.comment.any fun comment => pattern.occursIn comment.body
  | .authorIn logins => Text.containsAsciiCase logins (author context)
  | .isPullRequest expected => context.isPullRequest == expected
  | .variableEquals name value =>
      (context.variableTable.get? name).any fun actual =>
        Text.sameAsciiCase (Text.trim actual) (Text.trim value)

mutual

def judge (context : Context) : Condition → Judge Bool
  | .fact seen => return holds context seen
  | .expression source => judgeQuery context source
  | .all parts => judgeAll context parts
  | .any parts => judgeAny context parts
  | .not inner => return !(← judge context inner)

def judgeAll (context : Context) : List Condition → Judge Bool
  | [] => return true
  | part :: rest => do
      if ← judge context part then judgeAll context rest else return false

def judgeAny (context : Context) : List Condition → Judge Bool
  | [] => return false
  | part :: rest => do
      if ← judge context part then return true else judgeAny context rest

end

def evaluate (context : Context) (condition : Condition) : Except RuleError Bool × List String :=
  (judge context condition).run.run []

end Condition

namespace Run

variable {σ : Type}

def judge (condition : Condition) : Run σ (Except RuleError Bool) := do
  let (answer, queries) := condition.evaluate (← context)
  queries.forM fun source => Effects.note (.evaluated source)
  return answer

end Run

end RepoRules
