import Precedence.Proofs.Except
import Precedence.Settings

/-!
# Parsers from documents

A document describes a parser if its sections are tables and each of its rules makes one of the parser's (`Describes`).
It gives a parser exactly if it describes it (`documentParser_eq_ok_iff`).  All other documents are refused, mostly with
an error of the grammar.  The exceptions are documents with a value of a type that is not expected, if nothing looks at
the type before the value is used, those with a token that is too long to be shown in the message about it, and those
with a pattern whose flags exclude each other or that is out of bounds (`Unguarded`, `escapes_documentParser_iff`).
-/

namespace Precedence

/-- Whether the error is one of the grammar. -/
def SettingsError.isGrammarError : SettingsError → Bool
  | incompleteRule .. => true
  | unknownKind token? _ => token?.isSome
  | badRule error => error.error.isMalformed
  | malformed _ | sectionType _ | rulesType _ | patternType | unhashable _ => false

/-- The parser that a document gives, with the kinds of the arithmetic grammar. -/
def documentParser [Runtime] (path : String) (document : Toml.Table) : Except SettingsError Parser := do
  (← Settings.ofDocument path document).parser .arithmetic

/-! ### What a document describes -/

/-- The heading is missing, or that of a table. -/
def IsSection (document : Toml.Table) (heading : String) : Prop :=
  ∀ value, document.lookup heading = some value → ∃ fields, value = .table fields

/-- The value of a key in a section, or a default if one of them is missing. -/
def setting (document : Toml.Table) (heading key : String) (default : Toml.Value) : Toml.Value :=
  match document.lookup heading with
  | some (.table fields) => (fields.lookup key).getD default
  | _ => default

/-- The value with the rules; without one there is an empty array. -/
def rulesValue (document : Toml.Table) : Toml.Value := (document.lookup "rules").getD (.array [])

namespace Toml.Value

/-- The value is a table with the pattern and the token of a rule. -/
def Gives (value : Value) (rule : RuleSettings) : Prop :=
  ∃ fields, value = .table fields ∧ fields.lookup "pattern" = some rule.pattern ∧
    fields.lookup "token" = some rule.token

/-- The value lists the rules in order.  An empty text or table lists none, just as an empty array. -/
inductive Lists : Value → List RuleSettings → Prop
  | array {items : List Value} {rules : List RuleSettings} (h : List.Forall₂ Gives items rules) :
    Lists (.array items) rules
  | emptyText : Lists (.string "") []
  | emptyTable : Lists (.table []) []

/-- Whether the value has no entries to go through. -/
def isScalar : Value → Bool
  | integer _ | float _ | boolean _ | moment .. => true
  | string _ | array _ | table _ => false

/-- Whether the value can be looked up among keys. -/
def isHashable : Value → Bool
  | array _ | table _ => false
  | _ => true

end Toml.Value

namespace RuleSettings

variable [Runtime]

/-- The settings make the rule: the token is the key of its kind, and the pattern is a text that describes its
pattern. -/
def Makes (settings : RuleSettings) (rule : Rule) : Prop :=
  ∃ source key, settings = ⟨.string source, .string key⟩ ∧ KindTable.arithmetic.find? key = some rule.kind ∧
    Pattern.ofString source = .ok rule.pattern

/-- The settings of the rule have a mistake that nothing checks for. -/
inductive IsMisfit : RuleSettings → Prop
  /-- The token cannot be looked up among the keys. -/
  | token {pattern token : Toml.Value} (h : ¬ token.isHashable) : IsMisfit ⟨pattern, token⟩
  /-- The token is an integer with too many digits to be shown. -/
  | digits {pattern : Toml.Value} {n : Int} (h : Number.tenTo digitLimit ≤ n.natAbs) : IsMisfit ⟨pattern, .integer n⟩
  /-- The pattern is no text. -/
  | pattern {pattern : Toml.Value} {key : String} {kind : Kind} (hkind : KindTable.arithmetic.find? key = some kind)
    (h : ∀ source, pattern ≠ .string source) : IsMisfit ⟨pattern, .string key⟩
  /-- The pattern has flags that exclude each other, or a number or a depth out of bounds. -/
  | bounds {source key : String} {kind : Kind} {error : Pattern.Error}
    (hkind : KindTable.arithmetic.find? key = some kind) (h : Pattern.ofString source = .error error)
    (herror : ¬ error.isMalformed) : IsMisfit ⟨.string source, .string key⟩

/-- There is a misfit, and the settings before it make rules. -/
def FirstMisfit (listed : List RuleSettings) : Prop :=
  ∃ before misfit after, listed = before ++ misfit :: after ∧ (∀ settings ∈ before, ∃ rule, settings.Makes rule) ∧
    misfit.IsMisfit

end RuleSettings

/-- The listed settings make the rules one by one.  If nothing is listed, the rules are those of the arithmetic
grammar. -/
def MakeRules [Runtime] (listed : List RuleSettings) (rules : List Rule) : Prop :=
  if listed = [] then rules = Arithmetic.rules else List.Forall₂ RuleSettings.Makes listed rules

/-- The document describes the parser. -/
structure Describes [Runtime] (document : Toml.Table) (parser : Parser) : Prop where
  sections : IsSection document "parser" ∧ IsSection document "output"
  rules : ∃ listed, (rulesValue document).Lists listed ∧ MakeRules listed parser.rules
  strict : parser.strict = (setting document "parser" "strict" (.boolean true)).isTrue

/-- The document has a mistake that nothing checks for.  It shows only when the value is used, and not as an error of
the grammar. -/
inductive Unguarded [Runtime] (document : Toml.Table) : Prop
  | parserSection (h : ¬ IsSection document "parser")
  | outputSection (h : ¬ IsSection document "output")
  | scalarRules (h : (rulesValue document).isScalar)
  | misfit {listed : List RuleSettings} (hlisted : (rulesValue document).Lists listed)
    (h : RuleSettings.FirstMisfit listed)

/-! ### Errors that are none of the grammar -/

/-- The result is an error, but none of the grammar. -/
def Escapes {α : Type} (result : Except SettingsError α) : Prop :=
  ∃ error, result = .error error ∧ ¬ error.isGrammarError

@[simp] theorem not_escapes_ok {α : Type} (a : α) : ¬ Escapes (.ok a) := by
  rintro ⟨_, ⟨⟩, -⟩

theorem escapes_error_iff {α : Type} {error : SettingsError} :
    Escapes (.error error : Except SettingsError α) ↔ ¬ error.isGrammarError :=
  ⟨by rintro ⟨_, ⟨⟩, h⟩; exact h, fun h => ⟨error, rfl, h⟩⟩

theorem escapes_bind_iff {α β : Type} {result : Except SettingsError α} {next : α → Except SettingsError β} :
    Escapes (result >>= next) ↔ Escapes result ∨ ∃ a, result = .ok a ∧ Escapes (next a) := by
  cases result with
  | error error =>
    have hbind : (.error error >>= next) = .error error := rfl
    rw [hbind, escapes_error_iff, escapes_error_iff]
    exact ⟨.inl, by rintro (h | ⟨_, ⟨⟩, -⟩); exact h⟩
  | ok a => exact ⟨fun h => .inr ⟨a, rfl, h⟩, by rintro (h | ⟨_, ⟨⟩, h⟩); exacts [absurd h (not_escapes_ok a), h]⟩

theorem escapes_mapM_iff {α β : Type} {f : α → Except SettingsError β} {xs : List α} :
    Escapes (xs.mapM f) ↔
      ∃ before x after, xs = before ++ x :: after ∧ (∀ u ∈ before, ∃ y, f u = .ok y) ∧ Escapes (f x) := by
  simp only [Escapes, mapM_eq_error_iff]
  constructor
  · rintro ⟨error, ⟨before, x, after, hxs, hbefore, hx⟩, herror⟩
    exact ⟨before, x, after, hxs, hbefore, error, hx, herror⟩
  · rintro ⟨before, x, after, hxs, hbefore, error, hx, herror⟩
    exact ⟨error, ⟨before, x, after, hxs, hbefore, hx⟩, herror⟩

/-- The result is no error about a text that is no document. -/
def IsDecoded {α : Type} (result : Except SettingsError α) : Prop := ∀ problem, result ≠ .error (.malformed problem)

theorem IsDecoded.bind {α β : Type} {result : Except SettingsError α} {next : α → Except SettingsError β}
    (h : IsDecoded result) (hnext : ∀ a, IsDecoded (next a)) : IsDecoded (result >>= next) := by
  intro problem herror
  rcases bind_eq_error_iff.mp herror with herror | ⟨a, -, herror⟩
  · exact h problem herror
  · exact hnext a problem herror

theorem IsDecoded.mapM {α β : Type} {f : α → Except SettingsError β} (h : ∀ x, IsDecoded (f x)) (xs : List α) :
    IsDecoded (xs.mapM f) := by
  intro problem herror
  obtain ⟨_, x, _, -, -, hx⟩ := mapM_eq_error_iff.mp herror
  exact h x problem hx

/-! ### Sections -/

section

variable {document : Toml.Table} {heading key : String} {default : Toml.Value}

theorem sectionValue_of_isSection (h : IsSection document heading) :
    sectionValue document heading key default = .ok (setting document heading key default) := by
  unfold sectionValue setting
  cases hlookup : document.lookup heading with
  | none => rfl
  | some value =>
    obtain ⟨fields, rfl⟩ := h value hlookup
    rfl

theorem sectionValue_of_not_isSection (h : ¬ IsSection document heading) (key : String) (default : Toml.Value) :
    ∃ type, sectionValue document heading key default = .error (.sectionType type) := by
  unfold IsSection at h
  push Not at h
  obtain ⟨value, hlookup, hvalue⟩ := h
  unfold sectionValue
  rw [hlookup]
  cases value with
  | table fields => exact absurd rfl (hvalue fields)
  | _ => exact ⟨_, rfl⟩

theorem sectionValue_eq_ok_iff {value : Toml.Value} :
    sectionValue document heading key default = .ok value ↔
      IsSection document heading ∧ value = setting document heading key default := by
  by_cases h : IsSection document heading
  · rw [sectionValue_of_isSection h]
    exact ⟨by rintro ⟨⟩; exact ⟨h, rfl⟩, by rintro ⟨-, rfl⟩; rfl⟩
  · obtain ⟨type, herror⟩ := sectionValue_of_not_isSection h key default
    rw [herror]
    exact iff_of_false nofun fun hvalue => h hvalue.1

theorem escapes_sectionValue_iff :
    Escapes (sectionValue document heading key default) ↔ ¬ IsSection document heading := by
  by_cases h : IsSection document heading
  · rw [sectionValue_of_isSection h]
    exact iff_of_false (not_escapes_ok _) (not_not.mpr h)
  · obtain ⟨type, herror⟩ := sectionValue_of_not_isSection h key default
    exact iff_of_true ⟨_, herror, Bool.false_ne_true⟩ h

theorem isDecoded_sectionValue : IsDecoded (sectionValue document heading key default) := by
  intro problem
  unfold sectionValue
  split <;> exact nofun

end

/-! ### Listed rules -/

theorem ruleSettings?_eq_some_iff {entry : Toml.Value} {rule : RuleSettings} :
    ruleSettings? entry = some rule ↔ entry.Gives rule := by
  obtain ⟨pattern, token⟩ := rule
  cases entry with
  | table fields =>
    simp only [ruleSettings?, Toml.Value.Gives, Toml.Value.table.injEq, exists_eq_left']
    cases fields.lookup "pattern" <;> cases fields.lookup "token" <;> simp
  | _ => exact iff_of_false nofun (by rintro ⟨_, ⟨⟩, -⟩)

theorem rulesOf_eq_ok_iff {path : String} {number : Nat} {entries : List Toml.Value} {rules : List RuleSettings} :
    rulesOf path number entries = .ok rules ↔ List.Forall₂ Toml.Value.Gives entries rules := by
  induction entries generalizing number rules with
  | nil =>
    rw [List.forall₂_nil_left_iff]
    exact ⟨by rintro ⟨⟩; rfl, by rintro rfl; rfl⟩
  | cons entry entries ih =>
    rw [List.forall₂_cons_left_iff, rulesOf]
    simp only [← ruleSettings?_eq_some_iff]
    cases ruleSettings? entry with
    | none => simp
    | some rule =>
      simp only [bind_eq_ok_iff, ih]
      constructor
      · rintro ⟨rest, hrest, ⟨⟩⟩
        exact ⟨rule, rest, rfl, hrest, rfl⟩
      · rintro ⟨_, rest, ⟨⟩, hrest, rfl⟩
        exact ⟨rest, hrest, rfl⟩

/-- An incomplete rule is an error of the grammar. -/
theorem not_escapes_rulesOf (path : String) (number : Nat) (entries : List Toml.Value) :
    ¬ Escapes (rulesOf path number entries) := by
  induction entries generalizing number with
  | nil => exact not_escapes_ok []
  | cons entry entries ih =>
    rw [rulesOf]
    cases ruleSettings? entry with
    | none => exact fun h => escapes_error_iff.mp h rfl
    | some rule =>
      rw [escapes_bind_iff]
      rintro (h | ⟨rest, -, h⟩)
      · exact ih (number + 1) h
      · exact not_escapes_ok _ h

/-- The rules that a value lists. -/
def listedRules (path : String) (value : Toml.Value) : Except SettingsError (List RuleSettings) := do
  rulesOf path 1 (← value.entries)

theorem listedRules_eq_ok_iff {path : String} {value : Toml.Value} {rules : List RuleSettings} :
    listedRules path value = .ok rules ↔ value.Lists rules := by
  have htext (c : String) (rule : RuleSettings) : ¬ (Toml.Value.string c).Gives rule := by
    rintro ⟨_, ⟨⟩, -⟩
  unfold listedRules
  simp only [bind_eq_ok_iff, rulesOf_eq_ok_iff]
  constructor
  · rintro ⟨entries, hentries, hrules⟩
    cases value with
    | array items =>
      cases hentries
      exact .array hrules
    | string text =>
      cases hentries
      cases hchars : text.toList with
      | nil =>
        rw [hchars] at hrules
        cases hrules
        obtain rfl : text = "" := String.toList_inj.mp hchars
        exact .emptyText
      | cons c chars =>
        rw [hchars] at hrules
        cases hrules with
        | cons hgives _ => exact absurd hgives (htext _ _)
    | table fields =>
      cases hentries
      cases fields with
      | nil =>
        cases hrules
        exact .emptyTable
      | cons field fields =>
        cases hrules with
        | cons hgives _ => exact absurd hgives (htext _ _)
    | _ => cases hentries
  · rintro (⟨hrules⟩ | _ | _)
    · exact ⟨_, rfl, hrules⟩
    · exact ⟨[], rfl, .nil⟩
    · exact ⟨[], rfl, .nil⟩

theorem escapes_listedRules_iff {path : String} {value : Toml.Value} :
    Escapes (listedRules path value) ↔ value.isScalar := by
  unfold listedRules
  rw [escapes_bind_iff]
  constructor
  · rintro (h | ⟨entries, -, h⟩)
    · cases value with
      | array | string | table => exact absurd h (not_escapes_ok _)
      | _ => rfl
    · exact absurd h (not_escapes_rulesOf path 1 entries)
  · intro h
    cases value with
    | array | string | table => cases h
    | _ => exact .inl ⟨_, rfl, Bool.false_ne_true⟩

theorem isDecoded_rulesOf (path : String) (number : Nat) (entries : List Toml.Value) :
    IsDecoded (rulesOf path number entries) := by
  induction entries generalizing number with
  | nil => exact nofun
  | cons entry entries ih =>
    rw [rulesOf]
    cases ruleSettings? entry with
    | none => exact nofun
    | some rule => exact (ih (number + 1)).bind fun _ => nofun

theorem isDecoded_listedRules (path : String) (value : Toml.Value) : IsDecoded (listedRules path value) := by
  have hentries : IsDecoded value.entries := by
    cases value <;> exact nofun
  exact hentries.bind fun entries => isDecoded_rulesOf path 1 entries

/-! ### Making rules -/

namespace RuleSettings

theorem kindOf_eq_ok_iff {token : Toml.Value} {kind : Kind} :
    kindOf .arithmetic token = .ok kind ↔ ∃ key, token = .string key ∧ KindTable.arithmetic.find? key = some kind := by
  cases token with
  | string key =>
    simp only [kindOf, Toml.Value.string.injEq, exists_eq_left']
    cases KindTable.arithmetic.find? key <;> simp
  | _ => exact iff_of_false nofun (by rintro ⟨_, ⟨⟩, -⟩)

/-- A value is looked up if it can be, and shown if it is not found. -/
theorem escapes_kindOf_iff {token : Toml.Value} : Escapes (kindOf .arithmetic token) ↔
    ¬ token.isHashable ∨ ∃ n, token = .integer n ∧ Number.tenTo digitLimit ≤ n.natAbs := by
  cases token with
  | array | table => exact iff_of_true ⟨_, rfl, Bool.false_ne_true⟩ (.inl Bool.false_ne_true)
  | string key =>
    refine iff_of_false ?_ (by rintro (h | ⟨_, ⟨⟩, -⟩); exact h rfl)
    simp only [kindOf]
    cases KindTable.arithmetic.find? key with
    | none => exact fun h => escapes_error_iff.mp h (by simp [SettingsError.isGrammarError, Toml.Value.shown?])
    | some kind => exact not_escapes_ok kind
  | integer n =>
    have hshown (known : List String) :
        (SettingsError.unknownKind (Toml.Value.integer n).shown? known).isGrammarError ↔
          n.natAbs < Number.tenTo digitLimit := by
      simp only [SettingsError.isGrammarError, Toml.Value.shown?]
      split <;> simp [*]
    have hkind : kindOf .arithmetic (.integer n) = .error (.unknownKind (Toml.Value.integer n).shown? _) := rfl
    rw [hkind, escapes_error_iff, hshown, Nat.not_lt]
    exact ⟨fun h => .inr ⟨n, rfl, h⟩, by rintro (h | ⟨_, ⟨⟩, h⟩); exacts [absurd rfl h, h]⟩
  | _ =>
    refine iff_of_false ?_ (by rintro (h | ⟨_, ⟨⟩, -⟩); exact h rfl)
    exact fun h => escapes_error_iff.mp h (by simp [SettingsError.isGrammarError, Toml.Value.shown?])

variable [Runtime]

/-- The rule that the settings give. -/
def build (settings : RuleSettings) : Except SettingsError Rule := do
  ruleOf settings.pattern (← kindOf .arithmetic settings.token)

theorem ruleOf_eq_ok_iff {pattern : Toml.Value} {kind : Kind} {rule : Rule} :
    ruleOf pattern kind = .ok rule ↔
      rule.kind = kind ∧ ∃ source, pattern = .string source ∧ Pattern.ofString source = .ok rule.pattern := by
  cases pattern with
  | string source =>
    simp only [ruleOf, Rule.ofSource, Toml.Value.string.injEq, exists_eq_left']
    cases Pattern.ofString source with
    | error error => exact iff_of_false nofun (by rintro ⟨-, ⟨⟩⟩)
    | ok pattern => exact ⟨by rintro ⟨⟩; exact ⟨rfl, rfl⟩, by rintro ⟨rfl, ⟨⟩⟩; rfl⟩
  | _ => exact iff_of_false nofun (by rintro ⟨-, _, ⟨⟩, -⟩)

theorem escapes_ruleOf_iff {pattern : Toml.Value} {kind : Kind} :
    Escapes (ruleOf pattern kind) ↔ (∀ source, pattern ≠ .string source) ∨
      ∃ source error, pattern = .string source ∧ Pattern.ofString source = .error error ∧ ¬ error.isMalformed := by
  cases pattern with
  | string source =>
    simp only [ruleOf, Rule.ofSource]
    cases hsource : Pattern.ofString source with
    | ok pattern =>
      refine iff_of_false (not_escapes_ok _) ?_
      rintro (h | ⟨_, error, ⟨⟩, herror, -⟩)
      · exact h source rfl
      · cases hsource.symm.trans herror
    | error error =>
      refine escapes_error_iff.trans ⟨fun h => .inr ⟨source, error, rfl, hsource, h⟩, ?_⟩
      rintro (h | ⟨_, other, ⟨⟩, hother, h⟩)
      · exact absurd rfl (h source)
      · cases hsource.symm.trans hother
        exact h
  | _ => exact iff_of_true ⟨_, rfl, Bool.false_ne_true⟩ (.inl nofun)

theorem build_eq_ok_iff {settings : RuleSettings} {rule : Rule} : settings.build = .ok rule ↔ settings.Makes rule := by
  obtain ⟨pattern, token⟩ := settings
  simp only [build, bind_eq_ok_iff, kindOf_eq_ok_iff, ruleOf_eq_ok_iff]
  constructor
  · rintro ⟨_, ⟨key, rfl, hkind⟩, rfl, source, rfl, hpattern⟩
    exact ⟨source, key, rfl, hkind, hpattern⟩
  · rintro ⟨source, key, ⟨⟩, hkind, hpattern⟩
    exact ⟨_, ⟨key, rfl, hkind⟩, rfl, source, rfl, hpattern⟩

theorem escapes_build_iff {settings : RuleSettings} : Escapes settings.build ↔ settings.IsMisfit := by
  obtain ⟨pattern, token⟩ := settings
  simp only [build, escapes_bind_iff, escapes_kindOf_iff, kindOf_eq_ok_iff, escapes_ruleOf_iff]
  constructor
  · rintro ((h | ⟨n, rfl, h⟩) | ⟨kind, ⟨key, rfl, hkind⟩, h | ⟨source, error, rfl, hpattern, herror⟩⟩)
    · exact .token h
    · exact .digits h
    · exact .pattern hkind h
    · exact .bounds hkind hpattern herror
  · rintro (h | h | ⟨hkind, h⟩ | ⟨hkind, hpattern, herror⟩)
    · exact .inl (.inl h)
    · exact .inl (.inr ⟨_, rfl, h⟩)
    · exact .inr ⟨_, ⟨_, rfl, hkind⟩, .inl h⟩
    · exact .inr ⟨_, ⟨_, rfl, hkind⟩, .inr ⟨_, _, rfl, hpattern, herror⟩⟩

theorem isDecoded_build (settings : RuleSettings) : IsDecoded settings.build := by
  refine IsDecoded.bind ?_ fun kind => ?_
  · unfold kindOf
    split
    · exact nofun
    · exact nofun
    · split <;> exact nofun
    · exact nofun
  · unfold ruleOf
    split
    · exact nofun
    · exact nofun
    · next source _ => cases hrule : Rule.ofSource source kind <;> exact nofun
    · exact nofun

end RuleSettings

/-! ### Parsers -/

section

variable {settings : Settings} {path : String} {document : Toml.Table}

/-- The settings of a document, with its rules as a value that lists them. -/
theorem Settings.ofDocument_eq (path : String) (document : Toml.Table) :
    ofDocument path document = do
      let strict ← sectionValue document "parser" "strict" (.boolean true)
      let color ← sectionValue document "output" "color" (.boolean true)
      let rules ← listedRules path (rulesValue document)
      return { strict, color, rules } := by
  simp only [ofDocument, listedRules, rulesValue, bind_assoc]

theorem Settings.ofDocument_eq_ok_iff :
    ofDocument path document = .ok settings ↔
      (IsSection document "parser" ∧ IsSection document "output") ∧ (rulesValue document).Lists settings.rules ∧
        settings.strict = setting document "parser" "strict" (.boolean true) ∧
        settings.color = setting document "output" "color" (.boolean true) := by
  simp only [ofDocument_eq, bind_eq_ok_iff, sectionValue_eq_ok_iff, listedRules_eq_ok_iff]
  constructor
  · rintro ⟨_, ⟨hparser, rfl⟩, _, ⟨houtput, rfl⟩, rules, hlists, ⟨⟩⟩
    exact ⟨⟨hparser, houtput⟩, hlists, rfl, rfl⟩
  · obtain ⟨strict, color, rules⟩ := settings
    rintro ⟨⟨hparser, houtput⟩, hlists, rfl, rfl⟩
    exact ⟨_, ⟨hparser, rfl⟩, _, ⟨houtput, rfl⟩, rules, hlists, rfl⟩

theorem Settings.escapes_ofDocument_iff :
    Escapes (ofDocument path document) ↔
      ¬ IsSection document "parser" ∨ ¬ IsSection document "output" ∨ (rulesValue document).isScalar := by
  simp only [ofDocument_eq, escapes_bind_iff, escapes_sectionValue_iff, sectionValue_eq_ok_iff,
    escapes_listedRules_iff]
  by_cases hparser : IsSection document "parser"
  · by_cases houtput : IsSection document "output"
    · simp [hparser, houtput, pure, Except.pure]
    · simp [hparser, houtput]
  · simp [hparser]

variable [Runtime] {parser : Parser}

theorem Settings.parser_eq_ok_iff :
    settings.parser .arithmetic = .ok parser ↔
      MakeRules settings.rules parser.rules ∧ parser.strict = settings.strict.isTrue := by
  obtain ⟨rules, strict⟩ := parser
  unfold Settings.parser MakeRules
  by_cases hnone : settings.rules = []
  · simp only [hnone, List.isEmpty_nil, if_true]
    have harithmetic : (pure (Arithmetic.parser settings.strict.isTrue) : Except SettingsError Parser) =
        .ok ⟨Arithmetic.rules, settings.strict.isTrue⟩ := rfl
    rw [harithmetic, Except.ok.injEq, Parser.mk.injEq]
    exact and_congr eq_comm eq_comm
  · have hbuild : settings.buildRules .arithmetic = settings.rules.mapM RuleSettings.build := rfl
    simp only [List.isEmpty_iff, hnone, if_false, hbuild, bind_eq_ok_iff, mapM_eq_ok_iff,
      RuleSettings.build_eq_ok_iff]
    exact ⟨by rintro ⟨_, hrules, ⟨⟩⟩; exact ⟨hrules, rfl⟩, by rintro ⟨hrules, rfl⟩; exact ⟨rules, hrules, rfl⟩⟩

theorem Settings.escapes_parser_iff :
    Escapes (settings.parser .arithmetic) ↔ RuleSettings.FirstMisfit settings.rules := by
  unfold Settings.parser RuleSettings.FirstMisfit
  by_cases hnone : settings.rules = []
  · simp only [hnone, List.isEmpty_nil, if_true]
    exact iff_of_false (not_escapes_ok _) (by simp)
  · have hbuild : settings.buildRules .arithmetic = settings.rules.mapM RuleSettings.build := rfl
    simp only [List.isEmpty_iff, hnone, if_false, hbuild, escapes_bind_iff, escapes_mapM_iff,
      RuleSettings.build_eq_ok_iff, RuleSettings.escapes_build_iff]
    exact or_iff_left (by rintro ⟨_, -, h⟩; exact not_escapes_ok _ h)

theorem Settings.isDecoded_parser (settings : Settings) : IsDecoded (settings.parser .arithmetic) := by
  unfold Settings.parser
  dsimp only
  split
  · exact nofun
  · exact (IsDecoded.mapM RuleSettings.isDecoded_build settings.rules).bind fun _ => nofun

theorem isDecoded_documentParser (path : String) (document : Toml.Table) :
    IsDecoded (documentParser path document) := by
  refine IsDecoded.bind ?_ Settings.isDecoded_parser
  rw [Settings.ofDocument_eq]
  exact isDecoded_sectionValue.bind fun _ => isDecoded_sectionValue.bind fun _ =>
    (isDecoded_listedRules path _).bind fun _ => nofun

/-- A document gives the parser that it describes, and no other. -/
theorem documentParser_eq_ok_iff : documentParser path document = .ok parser ↔ Describes document parser := by
  simp only [documentParser, bind_eq_ok_iff, Settings.ofDocument_eq_ok_iff, Settings.parser_eq_ok_iff]
  constructor
  · rintro ⟨settings, ⟨hsections, hlists, hstrict, -⟩, hrules, hflag⟩
    exact ⟨hsections, ⟨settings.rules, hlists, hrules⟩, hstrict ▸ hflag⟩
  · rintro ⟨hsections, ⟨rules, hlists, hrules⟩, hstrict⟩
    exact ⟨⟨_, _, rules⟩, ⟨hsections, hlists, rfl, rfl⟩, hrules, hstrict⟩

/-- A document is refused with an error that is none of the grammar exactly if it is unguarded. -/
theorem escapes_documentParser_iff : Escapes (documentParser path document) ↔ Unguarded document := by
  simp only [documentParser, escapes_bind_iff, Settings.escapes_ofDocument_iff, Settings.ofDocument_eq_ok_iff,
    Settings.escapes_parser_iff]
  constructor
  · rintro ((h | h | h) | ⟨settings, ⟨-, hlists, -⟩, h⟩)
    · exact .parserSection h
    · exact .outputSection h
    · exact .scalarRules h
    · exact .misfit hlists h
  · rintro (h | h | h | ⟨hlists, h⟩)
    · exact .inl (.inl h)
    · exact .inl (.inr (.inl h))
    · exact .inl (.inr (.inr h))
    · by_cases hparser : IsSection document "parser"
      · by_cases houtput : IsSection document "output"
        · exact .inr ⟨⟨_, _, _⟩, ⟨⟨hparser, houtput⟩, hlists, rfl, rfl⟩, h⟩
        · exact .inl (.inr (.inl houtput))
      · exact .inl (.inl hparser)

end

end Precedence
