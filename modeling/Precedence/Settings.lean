import Precedence.Arithmetic
import Precedence.Toml.Document

/-!
# Settings

A document may set whether a parser is strict, whether output is colored, and which rules the parser has.  The values
are taken as they are; what they have to be is checked where they are used.  A document that cannot be used is refused
with a `SettingsError`.  Some of them are errors of the grammar, which are reported; the others are mistakes in the
types of the values.
-/

namespace Precedence

/-- A rule as a document gives it. -/
structure RuleSettings where
  pattern : Toml.Value
  token : Toml.Value

/-- What a document sets. -/
structure Settings where
  strict : Toml.Value := .boolean true
  color : Toml.Value := .boolean true
  rules : List RuleSettings := []

/-- Why a document cannot be used. -/
inductive SettingsError where
  | malformed (error : Toml.Error)
  /-- A rule, by its number, has no pattern or no token. -/
  | incompleteRule (path : String) (number : Nat)
  /-- A rule names a kind that there is not, among those that there are.  What it names is shown if it can be. -/
  | unknownKind (token? : Option String) (known : List String)
  | badRule (error : RuleError)
  /-- A section is no table. -/
  | sectionType (type : String)
  /-- The rules are nothing that has entries. -/
  | rulesType (type : String)
  /-- The pattern of a rule is no text. -/
  | patternType
  /-- A value that cannot be looked up. -/
  | unhashable (type : String)

/-- What is said about a document that cannot be used. -/
def SettingsError.message : SettingsError → String
  | malformed error => error.message
  | incompleteRule path number => path ++ ": rule #" ++ toString number ++ " needs 'pattern' and 'token'"
  | unknownKind none _ => digitLimitMessage ""
  | unknownKind (some token) known =>
    "unknown token kind " ++ token ++ " (known: " ++ ", ".intercalate known ++ ")"
  | badRule error => error.message
  | sectionType type => "'" ++ type ++ "' object has no attribute 'get'"
  | rulesType type => "'" ++ type ++ "' object is not iterable"
  | patternType => "first argument must be string or compiled pattern"
  | unhashable type => "unhashable type: '" ++ type ++ "'"

/-- The value of a key in a section, or a default if the section or the key is missing. -/
def sectionValue (document : Toml.Table) (heading key : String) (default : Toml.Value) :
    Except SettingsError Toml.Value :=
  match document.lookup heading with
  | none => .ok default
  | some (.table entries) => .ok ((entries.lookup key).getD default)
  | some value => .error (.sectionType value.typeName)

/-- The entries of a value that is gone through one by one: the items of an array, the characters of a text, or the
keys of a table. -/
def Toml.Value.entries : Toml.Value → Except SettingsError (List Toml.Value)
  | array items => .ok items
  | string text => .ok (text.toList.map fun c => .string c.toString)
  | table entries => .ok (entries.map fun (key, _) => .string key)
  | value => .error (.rulesType value.typeName)

/-- The rule that an entry gives. -/
def ruleSettings? : Toml.Value → Option RuleSettings
  | .table entries => do return ⟨← entries.lookup "pattern", ← entries.lookup "token"⟩
  | _ => none

/-- The rules that entries give, the first of them having the given number. -/
def rulesOf (path : String) : Nat → List Toml.Value → Except SettingsError (List RuleSettings)
  | _, [] => .ok []
  | number, entry :: entries =>
    match ruleSettings? entry with
    | none => .error (.incompleteRule path number)
    | some rule => do return rule :: (← rulesOf path (number + 1) entries)

namespace Settings

/-- What a document sets.  The path is what messages call the document. -/
def ofDocument (path : String) (document : Toml.Table) : Except SettingsError Settings := do
  let strict ← sectionValue document "parser" "strict" (.boolean true)
  let color ← sectionValue document "output" "color" (.boolean true)
  let entries ← ((document.lookup "rules").getD (.array [])).entries
  return { strict, color, rules := ← rulesOf path 1 entries }

/-- What the text of a document sets. -/
def ofText [Runtime] (path text : String) : Except SettingsError Settings :=
  match Toml.read text with
  | .error error => .error (.malformed error)
  | .ok document => ofDocument path document

end Settings

/-- The kind that a value names. -/
def kindOf (kinds : KindTable) (token : Toml.Value) : Except SettingsError Kind :=
  match token with
  | .array _ | .table _ => .error (.unhashable token.typeName)
  | .string text =>
    match kinds.find? text with
    | some kind => .ok kind
    | none => .error (.unknownKind token.shown? kinds.sortedKeys)
  | _ => .error (.unknownKind token.shown? kinds.sortedKeys)

/-- The rule with the pattern that a value gives. -/
def ruleOf [Runtime] (pattern : Toml.Value) (kind : Kind) : Except SettingsError Rule :=
  match pattern with
  | .array _ | .table _ => .error (.unhashable pattern.typeName)
  | .string text => (Rule.ofSource text kind).mapError .badRule
  | _ => .error .patternType

namespace Settings

/-- The rules that the settings give, with kinds from the table. -/
def buildRules [Runtime] (settings : Settings) (kinds : KindTable) : Except SettingsError (List Rule) :=
  settings.rules.mapM fun rule => do ruleOf rule.pattern (← kindOf kinds rule.token)

/-- The parser that the settings describe; without rules it is that of the arithmetic grammar. -/
def parser [Runtime] (settings : Settings) (kinds : KindTable) : Except SettingsError Parser := do
  let strict := settings.strict.isTrue
  if settings.rules.isEmpty then return Arithmetic.parser strict
  else return ⟨← settings.buildRules kinds, strict⟩

end Settings

end Precedence
