import RepoRules.Rules.Condition
import RepoRules.Rules.Resolution

/-!
Trees of what a sequence of steps does. A reference to a predefined sequence is replaced by what
that sequence does; a nested list is a node of its own. Every step that cannot be used is reported.
-/

namespace RepoRules

structure Diagnostic where
  step : String
  error : RuleError

namespace Tree

inductive Node where
  /-- Lets its sequence go on if the condition holds; without a condition it never does. -/
  | gate (condition : Option Condition)
  | operation (operation : Operation)
  | files (mode : FileMatch) (source : String) (pattern : Pattern) (body : List Node)
  | sequence (children : List Node)

/-- The predefined sequences that are finished, the names of those being expanded, and what has
been reported so far. -/
structure Builder where
  finished : List (String × List Node)
  expanding : List String
  diagnostics : List Diagnostic

abbrev Build := StateM Builder

abbrev Expand := String → Build (Except RuleError (List Node))

def report (step : String) (error : RuleError) : Build Unit :=
  modify fun builder =>
    { builder with diagnostics := builder.diagnostics ++ [⟨step, error⟩] }

/-- A condition that cannot be read still closes its sequence. -/
def gateOf (group : Json) : Build (List Node) :=
  match Condition.ofGroup group with
  | .ok condition => return [.gate (some condition)]
  | .error error => do
      report "check" error
      return [.gate none]

def actionNodes (expand : Expand) : Action → Build (List Node)
  | .check group => gateOf group
  | .operation operation => return [.operation operation]
  | .predefined name => do
      match ← expand name with
      | .ok nodes => return nodes
      | .error error => do
          report (Action.predefined name).describe error
          return []

mutual

def stepNodes (expand : Expand) : Step → Build (List Node)
  | .action action => actionNodes expand action
  | .group steps => do
      let children ← nodesOf expand steps
      return [.sequence children]
  | .malformed key error => do
      report key error
      return []
  | .files mode source body =>
      match Pattern.parse source with
      | .ok pattern => do
          let children ← nodesOf expand body
          return [.files mode source pattern children]
      | .error fault => do
          report (filesDescription mode source) (.malformedStep (.filePattern source fault))
          return []

def nodesOf (expand : Expand) : List Step → Build (List Node)
  | [] => return []
  | step :: rest => do
      let first ← stepNodes expand step
      let others ← nodesOf expand rest
      return first ++ others

end

/-- What a predefined sequence does. A finished one is used again, and one that is being expanded
must not be referred to. At most `levels` sequences are expanded inside one another. -/
def expand (predefined : OrderedMap (List Step)) : (levels : Nat) → Expand
  | levels, name => do
      let builder ← get
      match builder.finished.lookup name with
      | some nodes => return .ok nodes
      | none =>
          if builder.expanding.contains name then return .error (.predefinedCycle name)
          match predefined.get? name, levels with
          | none, _ => return .error (.missingPredefined name)
          | some _, 0 => return .error (.predefinedCycle name)
          | some steps, levels + 1 =>
              modify fun builder => { builder with expanding := name :: builder.expanding }
              let nodes ← nodesOf (expand predefined levels) steps
              modify fun builder =>
                { builder with
                  expanding := builder.expanding.drop 1
                  finished := (name, nodes) :: builder.finished }
              return .ok nodes

end Tree

/-- What a sequence of steps does, and the steps of it that cannot be used. -/
structure ActionTree where
  children : List Tree.Node
  diagnostics : List Diagnostic

namespace ActionTree

/-- Builds the tree of a sequence. No more sequences than there are can be open at once. -/
def build (document : RuleDocument) (steps : List Step) : ActionTree :=
  let expand := Tree.expand document.predefined document.predefined.size
  let (children, builder) := (Tree.nodesOf expand steps).run ⟨[], [], []⟩
  ⟨children, builder.diagnostics⟩

def isClean (tree : ActionTree) : Bool :=
  tree.diagnostics.isEmpty

end ActionTree

namespace Tree

def indent (depth : Nat) (line : String) : String :=
  String.ofList (List.replicate (2 * depth) ' ') ++ line

def sequenceLine (children : List Node) : String :=
  "runner (" ++ toString children.length ++ " steps)"

mutual

def outlineOf (depth : Nat) : Node → List String
  | .gate (some _) => [indent depth "check"]
  | .gate none => [indent depth "check (invalid, always false)"]
  | .operation operation => [indent depth (operation.describeWith id)]
  | .files mode source _ body =>
      indent depth (filesDescription mode source) :: indent (depth + 1) (sequenceLine body) ::
        outlineOfAll (depth + 2) body
  | .sequence children =>
      indent depth (sequenceLine children) :: outlineOfAll (depth + 1) children

def outlineOfAll (depth : Nat) : List Node → List String
  | [] => []
  | node :: rest => outlineOf depth node ++ outlineOfAll depth rest

end

end Tree

def ActionTree.outline (tree : ActionTree) : List String :=
  Tree.outlineOf 0 (.sequence tree.children)

namespace RuleDocument

def located (location : String) (diagnostic : Diagnostic) : Diagnostic :=
  ⟨location ++ ": " ++ diagnostic.step, diagnostic.error⟩

/-- What is wrong with an entry: with its steps, or with the action it names. -/
def entryDiagnostics (document : RuleDocument) (kind : EventKind) (name : String)
    (entry : ActionEntry) : List Diagnostic :=
  let location := kind.name ++ "." ++ name
  match entry with
  | .sequence steps => (ActionTree.build document steps).diagnostics.map (located location)
  | _ =>
      match resolve (document.actions kind) name with
      | .ok (.resolved _ _ _) => []
      | .ok .undefined => [⟨location, .malformedStep (.aliasTarget name)⟩]
      | .error error => [⟨location, error⟩]

/-- Everything that is wrong with a document: its entries first, then its predefined sequences. -/
def diagnostics (document : RuleDocument) : List Diagnostic :=
  (EventKind.all.flatMap fun kind =>
    (document.actions kind).entries.flatMap fun entry =>
      document.entryDiagnostics kind entry.1 entry.2) ++
  document.predefined.entries.flatMap fun entry =>
    (ActionTree.build document entry.2).diagnostics.map (located ("predefined." ++ entry.1))

end RuleDocument

end RepoRules
