import KotlinAssist.Proofs.Text.Lowercase
import KotlinAssist.Proofs.Text.Search
import KotlinAssist.Symbol

/-!
# Symbols found by parts of their names

The registry compares lowercase forms: a symbol is found if that of the query stands in that of the
name.  For a query that is a part of the name this holds wherever the part keeps its lowercase form
in the name, so a query finds all symbols with it in their names exactly if it decides the form of
each of its capital sigmas.  A query without capital sigmas always does.

## Main definitions

* `SymbolRegistry.registered` — the registry of given symbols

## Main statements

* `SymbolRegistry.search_registered` — what is found, in the order of registration
* `SymbolRegistry.search_finds_parts_iff` — the queries that find symbols by parts of their names
-/

namespace KotlinAssist

open Text

theorem occursIn_iff_infix (needle text : List Char) :
    occursIn needle text = true ↔ needle <:+: text := by
  by_cases empty : needle = []
  · subst empty
    refine iff_of_true ?_ List.nil_infix
    cases text <;> rfl
  · exact occursIn_iff empty text

namespace SymbolRegistry

/-- The registry in which symbols were registered one after the other. -/
def registered (symbols : List SymbolInformation) : SymbolRegistry :=
  symbols.foldl register {}

theorem symbols_foldl_register (registry : SymbolRegistry) (symbols : List SymbolInformation) :
    (symbols.foldl register registry).symbols = registry.symbols ++ symbols := by
  induction symbols generalizing registry with
  | nil => exact (List.append_nil _).symm
  | cons symbol symbols ih =>
    rw [List.foldl_cons, ih, register, List.append_assoc]
    rfl

/-- A search goes through the symbols in the order of registration. -/
theorem search_registered (symbols : List SymbolInformation) (query : String) :
    (registered symbols).search query =
      symbols.filter fun symbol => lower query.toList <:+: lower symbol.name.toList := by
  rw [search, registered, symbols_foldl_register, List.nil_append]
  refine List.filter_congr fun symbol _ => ?_
  rw [Bool.eq_iff_iff, occursIn_iff_infix, decide_eq_true_iff]

theorem mem_search_iff {symbols : List SymbolInformation} {symbol : SymbolInformation}
    (member : symbol ∈ symbols) (query : String) :
    symbol ∈ (registered symbols).search query ↔
      lower query.toList <:+: lower symbol.name.toList := by
  rw [search_registered, List.mem_filter, decide_eq_true_iff]
  exact and_iff_right member

/-- **A query finds symbols by any part of their names exactly if it decides the form of its capital
sigmas.**  What is found are the registered symbols in the order of registration, each as often as
it was registered, whose names have the query in them when both are put into lowercase.  Every
symbol with the query in its name is among them if and only if the query itself decides the
lowercase form of each capital sigma in it; a query without capital sigmas does so. -/
theorem search_finds_parts_iff (query : String) :
    (∀ symbols, (registered symbols).search query =
      symbols.filter fun symbol => lower query.toList <:+: lower symbol.name.toList) ∧
    ((∀ symbols, ∀ symbol ∈ symbols, query.toList <:+: symbol.name.toList →
        symbol ∈ (registered symbols).search query) ↔ SettlesSigmas query.toList) ∧
    ('Σ' ∉ query.toList → SettlesSigmas query.toList) := by
  refine ⟨fun symbols => search_registered symbols query, ?_, ?_⟩
  · rw [← lower_infix_iff]
    constructor
    · intro found text part
      -- a symbol with the text as its name
      let symbol : SymbolInformation := ⟨.ofList text, .plainClass, ⟨"file:///a.kt", .zero⟩⟩
      have member : symbol ∈ [symbol] := List.mem_singleton_self symbol
      have named : symbol.name.toList = text := String.toList_ofList
      have inside := (mem_search_iff member query).mp (found _ symbol member (by rwa [named]))
      rwa [named] at inside
    · intro found symbols symbol member part
      exact (mem_search_iff member query).mpr (found _ part)
  · rintro absent front back whole
    refine absurd ?_ absent
    rw [whole]
    exact List.mem_append_right front List.mem_cons_self

/-- A sigma at the end of a word becomes another letter than the same sigma inside of a word. -/
theorem part_of_name_not_found :
    "ΟΣ".toList <:+: "ΟΣΑ".toList ∧
      (registered [⟨"ΟΣΑ", .plainClass, ⟨"file:///t.kt", .zero⟩⟩]).search "ΟΣ" = [] := by
  decide +kernel

/-- A letter behind a sigma decides its form. -/
example : (registered [⟨"ΟΣΑ", .plainClass, ⟨"file:///t.kt", .zero⟩⟩]).search "ΣΑ" =
    [⟨"ΟΣΑ", .plainClass, ⟨"file:///t.kt", .zero⟩⟩] := by
  decide +kernel

end SymbolRegistry

end KotlinAssist
