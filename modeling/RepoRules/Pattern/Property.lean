import RepoRules.Pattern.CharSet
import RepoRules.Text.Age
import RepoRules.Text.Ascii
import RepoRules.Text.Break
import RepoRules.Text.Property
import RepoRules.Text.Script

/-!
The sets of characters that a pattern calls by the name of a property, or by a property and one of
its values. Patterns know the standard up to version 16: what version 17 assigned is unassigned.
-/

namespace RepoRules.Pattern.CharSet

/-- The part of a table that version 16 knows. -/
def known (spans : Text.Spans) : CharSet :=
  (ofSpans spans).without (ofSpans Text.newestSpans)

def assigned : CharSet :=
  unions (Text.Category.assigned.map fun category => known category.spans)

def ofCategory : Text.Category → CharSet
  | .unassigned => assigned.complement
  | category => known category.spans

def digit : CharSet := ofCategory .decimalNumber

def blank : CharSet :=
  ofCodes ((List.range 0x3001).filter fun code => Text.isBlank (Char.ofNat code))

/-- Word characters: alphabetic ones, marks, decimal digits, connectors and the two joiners. -/
def word : CharSet :=
  unions [known Text.alphabeticSpans, ofCategory .nonspacingMark, ofCategory .spacingMark,
    ofCategory .enclosingMark, digit, ofCategory .connectorPunctuation, span 0x200c 0x200d]

/-- Names of properties are compared without case, blanks, hyphens and underscores, and without a
leading `is`. -/
def looseName (name : String) : String :=
  let characters := (Text.asciiLower name).toList
  let bare := match characters with
    | 'i' :: 's' :: rest => rest
    | other => other
  let kept := bare.filter fun character =>
    character != ' ' && character != '_' && character != '-' && character.toNat < 128
  if kept = ['c'] ∧ bare.length < characters.length then "isc" else String.ofList kept

/-- The categories that a group of categories stands for. -/
def categoryGroup? : String → Option (List Text.Category)
  | "l" | "letter" => some [.uppercaseLetter, .lowercaseLetter, .titlecaseLetter, .modifierLetter,
      .otherLetter]
  | "lc" | "casedletter" => some [.uppercaseLetter, .lowercaseLetter, .titlecaseLetter]
  | "m" | "mark" | "combiningmark" => some [.nonspacingMark, .spacingMark, .enclosingMark]
  | "n" | "number" => some [.decimalNumber, .letterNumber, .otherNumber]
  | "p" | "punctuation" | "punct" => some [.connectorPunctuation, .dashPunctuation,
      .openPunctuation, .closePunctuation, .initialPunctuation, .finalPunctuation,
      .otherPunctuation]
  | "s" | "symbol" => some [.mathSymbol, .currencySymbol, .modifierSymbol, .otherSymbol]
  | "z" | "separator" => some [.spaceSeparator, .lineSeparator, .paragraphSeparator]
  | "c" | "other" => some [.control, .format, .privateUse, .unassigned]
  | "digit" => some [.decimalNumber]
  | "cntrl" => some [.control]
  | _ => none

/-- A category, a group of categories, or one of the three sets that count as such. -/
def ofCategoryName? (name : String) : Option CharSet :=
  match name with
  | "any" => some any
  | "ascii" => some (span 0 0x7f)
  | "assigned" => some assigned
  | _ =>
      match categoryGroup? name with
      | some categories => some (unions (categories.map ofCategory))
      | none =>
          let kinds := Text.Category.unassigned :: Text.Category.assigned
          (kinds.find? fun kind =>
            looseName kind.shortName == name || looseName kind.longName == name).map ofCategory

def findNamed? (table : List (String × String × Text.Spans)) (name : String) :
    Option (String × String × Text.Spans) :=
  table.find? fun entry => looseName entry.1 == name || looseName entry.2.1 == name

def ofTable? (table : List (String × String × Text.Spans)) (name : String) : Option CharSet :=
  (findNamed? table name).map fun entry => ofSpans entry.2.2

/-- Two scripts have a second code. -/
def findScript? (name : String) : Option (String × String × Text.Spans) :=
  findNamed? Text.scripts
    (match name with
    | "qaac" => "copt"
    | "qaai" => "zinh"
    | other => other)

def ofScriptName? (name : String) : Option CharSet :=
  (findScript? name).map fun script => ofSpans script.2.2

/-- The characters of a script and those used with it besides. -/
def ofSharedScriptName? (name : String) : Option CharSet :=
  (findScript? name).map fun script =>
    ofSpans ((Text.sharedScripts.lookup script.2.1).getD script.2.2)

def ofAge? (name : String) : Option CharSet :=
  let isNamed (version : String) :=
    version == name || "v" ++ String.ofList (version.toList.filter (· ≠ '.')) == name
  (Text.ages.findIdx? fun age => isNamed age.1).map fun index =>
    unions ((Text.ages.take (index + 1)).map fun age => ofSpans age.2)

/-- The name of a property that characters have or have not. Three names that are also short for
other properties are left to the categories. -/
def ofBinaryName? (name : String) : Option CharSet :=
  if name = "cf" ∨ name = "sc" ∨ name = "lc" then none
  else if name = "space" then some blank
  else ofTable? Text.properties name

def ofPropertyName? (name : String) : Option CharSet :=
  let name := looseName name
  (ofBinaryName? name).or ((ofCategoryName? name).or (ofScriptName? name))

def ofPropertyValue? (property value : String) : Option CharSet :=
  let value := looseName value
  match looseName property with
  | "gc" | "generalcategory" => ofCategoryName? value
  | "sc" | "script" => ofScriptName? value
  | "scx" | "scriptextensions" => ofSharedScriptName? value
  | "age" => ofAge? value
  | "gcb" | "graphemeclusterbreak" => ofTable? Text.letterBreaks value
  | "wb" | "wordbreak" => ofTable? Text.wordBreaks value
  | "sb" | "sentencebreak" => ofTable? Text.sentenceBreaks value
  | _ => none

end RepoRules.Pattern.CharSet
