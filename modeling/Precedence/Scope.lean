/-!
# Scopes

A scope says what a piece of text is, for the purpose of coloring it: a path from the general to the particular, such as
`Keyword.Type`.  The empty path says nothing.
-/

namespace Precedence

/-- What a piece of text is. -/
structure Scope where
  path : List String
  deriving DecidableEq

namespace Scope

/-- Text of no particular kind. -/
def text : Scope := ⟨["Text"]⟩

/-- Text that no rule accepts. -/
def error : Scope := ⟨["Error"]⟩

def name : Scope := ⟨["Name"]⟩

def operator : Scope := ⟨["Operator"]⟩

def punctuation : Scope := ⟨["Punctuation"]⟩

def integer : Scope := ⟨["Literal", "Number", "Integer"]⟩

/-- The path with its first names written out.  `Token` at the start names the root itself.  Strings and numbers are
literals, so their paths may leave that out. -/
def expanded : List String → List String
  | "Token" :: rest => expanded rest
  | "String" :: rest => "Literal" :: "String" :: rest
  | "Number" :: rest => "Literal" :: "Number" :: rest
  | path => path

/-- The scope of a dotted path. -/
def ofPath (dotted : String) : Scope := ⟨expanded ((dotted.splitToList (· == '.')).filter (· != ""))⟩

end Scope

end Precedence
