import Precedence.Kind.Arithmetic

/-!
# Tables of kinds

A table names kinds by keys.  A declaration adds a variant of a kind that is in the table already and inherits from it
all that it does not set itself.  It may use a key that is in the table; then a new kind takes the key, and the kinds
that were made before stay as they are.

Denotations may wait for kinds that are declared later.  What tells the kinds apart and what they are called does not
depend on their denotations, so a draft of the table gives the delimiters for the final one.
-/

namespace Precedence

/-- Kinds by their keys, in the order in which they were declared. -/
abbrev KindTable := List (String × Kind)

/-- What is declared about a new kind.  Of the delimiters in its denotations only the keys count. -/
structure KindDeclaration where
  key : String
  base : String
  name? : Option String
  bindingPower? : Option Int
  scope? : Option Scope
  null? : Option NullDenotation
  left? : Option LeftDenotation

/-- A delimiter of which only the key is known yet. -/
def Delimiter.ofKey (key : String) : Delimiter := ⟨⟨key, 0⟩, key⟩

namespace KindTable

/-- The kinds of the arithmetic grammar by their keys. -/
def arithmetic : KindTable := Kind.arithmetic.map fun kind => (kind.id.key, kind)

/-- The kinds that declarations may build on. -/
def builtin : KindTable := arithmetic ++ [(Kind.base.id.key, .base), (Kind.endOfInput.id.key, .endOfInput)]

/-- The kind that has the key. -/
def find? (table : KindTable) (key : String) : Option Kind := table.lookup key

/-- The keys in alphabetical order. -/
def sortedKeys (table : KindTable) : List String :=
  (table.map (·.1)).mergeSort fun a b => decide (a ≤ b)

/-- What tells a new kind with the key from those that are in the table. -/
def newId (table : KindTable) (key : String) : KindId :=
  match table.find? key with
  | some kind => ⟨key, kind.id.version + 1⟩
  | none => ⟨key, 0⟩

/-- Add the declared kind.  It is a variant of the kind that has the key of its base, which may be its own key. -/
def declare (table : KindTable) (d : KindDeclaration) : KindTable :=
  let base := (table.find? d.base).getD .base
  let kind : Kind :=
    { id := table.newId d.key
      ancestors := base.lineage
      label := d.key
      name := d.name?.getD base.name
      bindingPower := d.bindingPower?.getD base.bindingPower
      scope? := d.scope?.or base.scope?
      null := d.null?.getD base.null
      left := d.left?.getD base.left }
  (d.key, kind) :: table.filter (·.1 != d.key)

/-- The kind that has the delimiter's key, as something to wait for. -/
def resolve (table : KindTable) (d : Delimiter) : Delimiter :=
  match table.find? d.id.key with
  | some kind => kind.delimiter
  | none => d

/-- The denotation with the delimiters of the table. -/
def resolveNull (table : KindTable) : NullDenotation → NullDenotation
  | .group close note => .group (table.resolve close) note
  | .list label separator close => .list label (table.resolve separator) (table.resolve close)
  | denotation => denotation

/-- The denotation with the delimiters of the table. -/
def resolveLeft (table : KindTable) : LeftDenotation → LeftDenotation
  | .ternary label separator power => .ternary label (table.resolve separator) power
  | .index label close note => .index label (table.resolve close) note
  | denotation => denotation

/-- The declaration with the delimiters of the table. -/
def resolveDeclaration (table : KindTable) (d : KindDeclaration) : KindDeclaration :=
  { d with null? := d.null?.map table.resolveNull, left? := d.left?.map table.resolveLeft }

/-- The builtin kinds and the declared ones. -/
def ofDeclarations (declarations : List KindDeclaration) : KindTable :=
  let draft := declarations.foldl declare builtin
  (declarations.map draft.resolveDeclaration).foldl declare builtin

end KindTable

end Precedence
