import Precedence.Proofs.Command.Reporting
import Precedence.Proofs.Settings.Loading

/-!
# Commands with a document

A command reads its settings from the file that is named, or from the one that is found (`Configures`).  If the document
in it describes a parser, the command runs with that parser.  An error of the grammar is reported, and any other error
escapes the command (`Invocation.result_of_error`).  So a command reports whatever is wrong with a document, except for
its unguarded mistakes (`documentParser_or_report`).
-/

namespace Precedence

/-- The settings of a command come from a file with the text, and messages call it by the path. -/
inductive FileSystem.Configures (system : FileSystem) (directory : Path) : Option String → String → String → Prop
  /-- The file is named. -/
  | named {typed text : String} (h : (system.locate? directory typed).bind system.read? = some text) :
    Configures system directory (some typed) (tidied typed) text
  /-- The file is in the directory or the nearest one above it that has such an entry. -/
  | found {path : Path} {text : String} (hfind : system.findSettings? directory = some path)
    (hread : system.read? path = some text) : Configures system directory none path.toText text

/-- A command on one expression, run in a directory where its settings are those of the document. -/
structure Invocation [Runtime] (document : Toml.Table) where
  system : FileSystem
  directory : Path
  arguments : List String
  config? : Option String
  path : String
  text : String
  name : String
  rest : List String
  verb : Verb
  highlight : Bool
  source : String
  configures : system.Configures directory config? path text
  reads : Toml.read text = .ok document
  line : ProgramLine.read? {} arguments = some { config?, rest := name :: rest }
  named : Verb.ofName? name = some verb
  asks : VerbLine.read? verb {} rest = some ⟨highlight, [source]⟩

namespace FileSystem.Configures

variable {system : FileSystem} {directory : Path} {config? : Option String} {path text : String}
  {document : Toml.Table}

theorem hasConfig (h : system.Configures directory config? path text) : system.hasConfig directory config? := by
  cases h with
  | named h => simp only [FileSystem.hasConfig, Option.all_some, h, Option.isSome_some]
  | found => rfl

/-- The settings are those of the document, or the report of its error. -/
theorem settings_eq [Runtime] (h : system.Configures directory config? path text)
    (hreads : Toml.read text = .ok document) :
    system.settings directory config? =
      (Settings.ofDocument path document).mapError fun error => .finished error.report := by
  have hofText : Settings.ofText path text = Settings.ofDocument path document := by
    simp only [Settings.ofText, hreads]
  rw [← hofText]
  cases h with
  | named h =>
    simp only [FileSystem.settings, h]
    cases Settings.ofText _ text <;> rfl
  | found hfind hread =>
    simp only [FileSystem.settings, hfind, hread]
    cases Settings.ofText _ text <;> rfl

end FileSystem.Configures

/-! ### Reports of errors -/

theorem SettingsError.report_of_isGrammarError {error : SettingsError} (h : error.isGrammarError) :
    error.report = ({} : Report).failWith error.message := by
  have hreported : error.isReported := by
    cases error with
    | incompleteRule => rfl
    | unknownKind | badRule => exact h
    | _ => cases h
  simp only [report, hreported, if_true]

/-- Nothing but an error of the grammar is reported once a text has been read as a document. -/
theorem SettingsError.report_of_not_isGrammarError {error : SettingsError} (h : ¬ error.isGrammarError)
    (hdecoded : ∀ problem, error ≠ .malformed problem) :
    error.report = ({} : Report).escape (.settings error) := by
  have hreported : ¬ error.isReported := by
    cases error with
    | malformed problem => exact absurd rfl (hdecoded problem)
    | incompleteRule | unknownKind | badRule => exact h
    | _ => exact Bool.false_ne_true
  simp only [report, hreported]
  rfl

/-! ### Invocations -/

namespace Invocation

variable [Runtime] {document : Toml.Table} (i : Invocation document) (color : Bool)

/-- How the command ends. -/
def result : CommandResult := runCommand i.system i.directory color i.arguments

/-- A command runs with the parser of its document, or it ends with the report of an error. -/
theorem result_eq :
    i.result color = .finished ((match documentParser i.path document with
      | .error error => error.report
      | .ok parser =>
        i.verb.run parser (setting document "output" "color" (.boolean true)).isTrue i.highlight i.source).shown
          color) := by
  simp only [result, runCommand, runProgram, i.line, i.configures.hasConfig, i.named, i.configures.settings_eq i.reads,
    documentParser]
  cases hsettings : Settings.ofDocument i.path document with
  | error error => rfl
  | ok settings =>
    obtain ⟨-, -, -, hcolor⟩ := Settings.ofDocument_eq_ok_iff.mp hsettings
    simp only [Except.mapError, Verb.runWith, i.asks, hcolor]
    rfl

theorem result_of_describes {parser : Parser} (h : Describes document parser) :
    i.result color = .finished ((i.verb.run parser (setting document "output" "color" (.boolean true)).isTrue
      i.highlight i.source).shown color) := by
  simp only [result_eq, documentParser_eq_ok_iff.mpr h]

theorem result_of_error {error : SettingsError} (h : documentParser i.path document = .error error) :
    i.result color = .finished ((if error.isGrammarError then ({} : Report).failWith error.message
      else ({} : Report).escape (.settings error)).shown color) := by
  simp only [result_eq, h]
  by_cases hgrammar : error.isGrammarError
  · rw [if_pos hgrammar, SettingsError.report_of_isGrammarError hgrammar]
  · have hdecoded : ∀ problem, error ≠ .malformed problem := fun problem hproblem =>
      isDecoded_documentParser i.path document problem (hproblem ▸ h)
    rw [if_neg hgrammar, SettingsError.report_of_not_isGrammarError hgrammar hdecoded]

end Invocation

/-- A document with one rule, whose token is an array with a key. -/
def arrayTokenText : String := "[[rules]]\npattern = '\\d+'\ntoken = ['number']\n"

def arrayTokenDocument : Toml.Table :=
  [("rules", .array [.table [("pattern", .string "\\d+"), ("token", .array [.string "number"])]])]

/-- A directory with the document. -/
def arrayTokenSystem : FileSystem := ⟨[([settingsName], arrayTokenText)], []⟩

theorem findSettings?_arrayToken : arrayTokenSystem.findSettings? [] = some [settingsName] := by
  unfold FileSystem.findSettings? FileSystem.searchUp
  decide

/-- The document is read, and the command is asked to parse a number. -/
def arrayTokenInvocation : Invocation arrayTokenDocument where
  system := arrayTokenSystem
  directory := []
  arguments := ["parse", "1"]
  config? := none
  path := Path.toText [settingsName]
  text := arrayTokenText
  name := "parse"
  rest := ["1"]
  verb := .parse
  highlight := false
  source := "1"
  configures := .found findSettings?_arrayToken rfl
  reads := rfl
  line := by simp [ProgramLine.read?, isOption]
  named := rfl
  asks := by simp [VerbLine.read?, isOption]

end Precedence
