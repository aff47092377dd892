import RepoRules.Query.Token

/-!
What can go wrong when a query is evaluated, and the words for it. A failure names its cause and,
where there is one, the place in the text of the query.
-/

namespace RepoRules.Query

inductive Arithmetic where
  | addition
  | subtraction
  | multiplication
  | division
  | power
deriving Repr, DecidableEq

namespace Arithmetic

def noun : Arithmetic → String
  | .addition => "Addition"
  | .subtraction => "Subtraction"
  | .multiplication => "Multiplication"
  | .division => "Division"
  | .power => "Exponential"

def sign : Arithmetic → String
  | .addition => "+"
  | .subtraction => "-"
  | .multiplication => "*"
  | .division => "/"
  | .power => "**"

end Arithmetic

inductive IntegerFault where
  | empty
  | invalidDigit
  | tooLarge
  | tooSmall
deriving Repr, DecidableEq

def IntegerFault.message : IntegerFault → String
  | .empty => "cannot parse integer from empty string"
  | .invalidDigit => "invalid digit found in string"
  | .tooLarge => "number too large to fit in target type"
  | .tooSmall => "number too small to fit in target type"

inductive Cause where
  | variableNotFound (name : String)
  | unknownProperty (name typeName : String)
  | functionNotFound (name : String) (types : List String)
  | overflow (operation : Arithmetic) (left right : Int)
  | divisionByZero (left right : Int)
  | remainderByZero (left right : Int)
  | negativePower (base exponent : Int)
  | negationOverflow
  | absoluteOverflow (number : Int)
  | conversionOverflow (number : String)
  | arrayIndex (position : Int) (size : Nat)
  | stringIndex (position : Int) (size : Nat)
  | bitIndex (position : Int)
  | wrongType (found expected : String)
  | noIndexer (receiver subscript : String)
  | notAnInteger (text : String) (fault : IntegerFault)
  | notAFloat (text : String) (isEmpty : Bool)
  | invalidRadix (radix : Int)
  | unboundReceiver
  | callsTooDeep
  /-- The texts in a value are larger than allowed. -/
  | tooLong
  | tooManyOperations
  /-- The `place`-th argument of a method takes the variable that the method is called on. -/
  | sharedArgument (place : Nat) (function : String)
  /-- A failure inside a function value, and where. -/
  | insideClosure (cause : Cause) (position : Option Position)
  /-- A failure inside a function that calls function values, and where. -/
  | insideFunction (name : String) (cause : Cause) (position : Option Position)
deriving Repr, DecidableEq

def positionText : Option Position → String
  | some position =>
      " (line " ++ toString position.line ++ ", position " ++ toString position.column ++ ")"
  | none => ""

/-- How many of something there are, as the end of an out-of-bounds message. -/
def sizeText (size : Nat) (empty one many : String) : String :=
  if size = 0 then empty
  else if size = 1 then "only 1 " ++ one
  else "only " ++ toString size ++ " " ++ many

def Cause.message : Cause → String
  | .variableNotFound name => "Variable not found: " ++ name
  | .unknownProperty name typeName =>
      "Unknown property '" ++ name ++ "' - a getter is not registered for type '" ++ typeName ++ "'"
  | .functionNotFound name types =>
      "Function not found: " ++ name ++ " (" ++ ", ".intercalate types ++ ")"
  | .overflow operation left right =>
      operation.noun ++ " overflow: " ++ toString left ++ " " ++ operation.sign ++ " " ++
        toString right
  | .divisionByZero left right =>
      "Division by zero: " ++ toString left ++ " / " ++ toString right
  | .remainderByZero left right =>
      "Modulo division by zero or overflow: " ++ toString left ++ " % " ++ toString right
  | .negativePower base exponent =>
      "Integer raised to a negative power: " ++ toString base ++ " ** " ++ toString exponent
  | .negationOverflow => "integer overflow"
  | .absoluteOverflow number => "Negation overflow: -" ++ toString number
  | .conversionOverflow number => "Integer overflow: to_int(" ++ number ++ ")"
  | .arrayIndex position size =>
      "Array index " ++ toString position ++ " out of bounds: " ++
        sizeText size "array is empty" "element in array" "elements in array"
  | .stringIndex position size =>
      "String index " ++ toString position ++ " out of bounds: " ++
        sizeText size "string is empty" "character in string" "characters in string"
  | .bitIndex position =>
      "Bit-field index " ++ toString position ++ " out of bounds: only 64 bits in bit-field"
  | .wrongType found expected =>
      "Data type incorrect: " ++ found ++ " (expecting " ++ expected ++ ")"
  | .noIndexer receiver subscript =>
      "Indexer unavailable: " ++ receiver ++ " [" ++ subscript ++ "]"
  | .notAnInteger text fault =>
      "Error parsing integer number '" ++ text ++ "': " ++ fault.message
  | .notAFloat text isEmpty =>
      "Error parsing floating-point number '" ++ text ++ "': " ++
        if isEmpty then "cannot parse float from empty string" else "invalid float literal"
  | .invalidRadix radix => "Invalid radix: '" ++ toString radix ++ "'"
  | .unboundReceiver => "'this' not bound"
  | .callsTooDeep => "Stack overflow"
  | .tooLong => "Length of string too large"
  | .tooManyOperations => "Too many operations"
  | .sharedArgument place function =>
      "Data race detected on argument #" ++ toString place ++ " of function '" ++ function ++ "'"
  | .insideClosure cause position =>
      cause.message ++ positionText position ++ "\nin closure call"
  | .insideFunction name cause position =>
      cause.message ++ positionText position ++ "\nin call to function '" ++ name ++ "'"

def Cause.endsRun : Cause → Bool
  | .callsTooDeep | .tooLong | .tooManyOperations => true
  | _ => false

structure Failure where
  cause : Cause
  position : Option Position
deriving Repr, DecidableEq

def Failure.message (failure : Failure) : String :=
  failure.cause.message ++ positionText failure.position

namespace Failure

/-- The failure of a call of a function value at `position`. -/
def outOfClosure (failure : Failure) (position : Position) : Failure :=
  if failure.cause.endsRun then { failure with position := some position }
  else ⟨.insideClosure failure.cause failure.position, some position⟩

/-- The failure of a function at `position` that calls function values. -/
def outOfFunction (failure : Failure) (name : String) (position : Position) : Failure :=
  ⟨.insideFunction name failure.cause failure.position, some position⟩

end Failure

inductive Error where
  | notAnExpression
  | failed (failure : Failure)
deriving Repr, DecidableEq

def Error.message : Error → String
  | .notAnExpression => "Syntax error: <detail>"
  | .failed failure => failure.message

end RepoRules.Query
