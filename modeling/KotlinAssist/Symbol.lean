import KotlinAssist.Declaration
import KotlinAssist.Text.Case

/-!
# Symbols

The outline of a document is the flat list of its declarations.  A registry holds symbols of several
documents and finds them by any part of their names, upper and lower case taken together.

## Main definitions

* `DocumentSymbol.outline` — the outline of a document
* `SymbolRegistry.register` — adds a symbol
* `SymbolRegistry.search` — finds symbols
-/

namespace KotlinAssist

open Text

namespace DeclarationKind

/-- The number of a kind of symbol on the wire. -/
def symbolCode : DeclarationKind → Nat
  | .plainClass => 5
  | .property => 7
  | .enumClass => 10
  | .interface => 11
  | .function => 12
  | .object => 19

end DeclarationKind

/-- An entry of an outline. -/
structure DocumentSymbol where
  name : String
  detail : String
  kind : DeclarationKind
  range : Range
  selection : Range
  deriving DecidableEq

namespace DocumentSymbol

/-- The entry of a declaration. -/
def ofDeclaration (declaration : Declaration) : DocumentSymbol where
  name := declaration.name
  detail := declaration.render
  kind := declaration.kind
  range := declaration.range
  selection := declaration.selection

/-- The outline of a document. -/
def outline (lines : List Line) : List DocumentSymbol :=
  (Declaration.ofLines lines).map ofDeclaration

end DocumentSymbol

/-- A symbol and the place where it is declared. -/
structure SymbolInformation where
  name : String
  kind : DeclarationKind
  location : Location
  deriving DecidableEq

/-- The registered symbols, in the order of registration. -/
structure SymbolRegistry where
  symbols : List SymbolInformation := []

namespace SymbolRegistry

/-- Adds a symbol. -/
def register (registry : SymbolRegistry) (symbol : SymbolInformation) : SymbolRegistry :=
  ⟨registry.symbols ++ [symbol]⟩

/-- The symbols whose names contain a text, upper and lower case taken together. -/
def search (registry : SymbolRegistry) (query : String) : List SymbolInformation :=
  let query := lower query.toList
  registry.symbols.filter fun symbol => occursIn query (lower symbol.name.toList)

end SymbolRegistry

end KotlinAssist
