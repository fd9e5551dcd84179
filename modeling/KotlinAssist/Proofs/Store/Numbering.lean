import KotlinAssist.Proofs.Store.Lookup
import Mathlib.Data.List.Induction
import Mathlib.Data.List.ReduceOption

/-!
# Versions of a document

A document that is put into the store has the version that its text came with, or version 1 when it
came with none.  Every later text takes over its own version if that is above the stored one, and
else counts the stored one up.  A client that only ever sends greater versions is therefore followed
exactly by the texts that come with a version, and every text that comes without one puts the store
ahead of the client by at most one more.

## Main definitions

* `Document.numbered` — the version after a list of texts, from the versions that came with them

## Main statements

* `Document.numbered_bounds` — how far the version of a document can be ahead of its client
-/

namespace KotlinAssist

namespace Document

/-- The version of a document that gets a text, from the version that is stored, if it is open, and
the one that is supplied. -/
def renumbered (stored supplied : Option Int) : Int :=
  match stored with
  | some current => nextVersion current supplied
  | none => supplied.getD 1

/-- The version of a document after a list of texts, the first of which put it into the store, from
the versions that came with them. -/
def numbered (supplied : List (Option Int)) : Option Int :=
  supplied.foldl (fun stored next => some (renumbered stored next)) none

@[simp] theorem numbered_nil : numbered [] = none := rfl

@[simp] theorem numbered_concat (supplied : List (Option Int)) (next : Option Int) :
    numbered (supplied ++ [next]) = some (renumbered (numbered supplied) next) := by
  simp [numbered]

end Document

theorem Store.versionAfter_eq_renumbered (store : Store) (uri : Uri) (supplied : Option Int) :
    store.versionAfter uri supplied =
      Document.renumbered ((store.find? uri).map (·.version)) supplied := by
  unfold versionAfter Document.renumbered
  cases store.find? uri <;> rfl

namespace Document

/-! ## A client that counts up -/

/-- A text without a version takes the stored version one step away from that of the client. -/
theorem nextVersion_none_bounds {client current : Int} {ahead : Nat}
    (small : client ≤ maxVersion) (lower : client ≤ current) (upper : current ≤ client + ahead) :
    client ≤ nextVersion current none ∧ nextVersion current none ≤ client + (ahead + 1 : Nat) := by
  simp only [nextVersion]
  omega

/-- A greater version of the client leaves the stored one no further ahead. -/
theorem nextVersion_some_bounds {client greater current : Int} {ahead : Nat}
    (counted : client < greater) (small : greater ≤ maxVersion)
    (upper : current ≤ client + ahead) :
    greater ≤ nextVersion current (some greater) ∧
      nextVersion current (some greater) ≤ greater + ahead := by
  simp only [nextVersion]
  split <;> omega

/-- The first text came with a version, and the versions of the client increase. -/
theorem numbered_cons_bounds (first : Int) (rest : List (Option Int))
    (increasing : (some first :: rest).reduceOption.Pairwise (· < ·))
    (small : ∀ version ∈ (some first :: rest).reduceOption, version ≤ maxVersion) :
    ∃ version client, numbered (some first :: rest) = some version ∧
      (some first :: rest).reduceOption.getLast? = some client ∧
      client ≤ version ∧ version ≤ client + rest.count none := by
  induction rest using List.reverseRecOn with
  | nil => exact ⟨first, first, rfl, rfl, Int.le_refl first, by simp⟩
  | append_singleton rest next ih =>
    rw [← List.cons_append, List.reduceOption_append] at increasing small ⊢
    obtain ⟨increasingBefore, -, above⟩ := List.pairwise_append.mp increasing
    obtain ⟨version, client, numberedBefore, last, lower, upper⟩ := ih increasingBefore
      fun version sent => small version (List.mem_append_left _ sent)
    have sent := List.mem_of_getLast? last
    rw [numbered_concat, numberedBefore]
    cases next with
    | none =>
      have bounds := nextVersion_none_bounds (small client (List.mem_append_left _ sent)) lower upper
      exact ⟨_, client, rfl, by simpa using last, by simpa [renumbered] using bounds⟩
    | some greater =>
      have counted : client < greater := above client sent greater (by simp)
      have bounds := nextVersion_some_bounds counted (small greater (by simp)) upper
      exact ⟨_, greater, rfl, List.getLast?_concat, by simpa [renumbered] using bounds⟩

/-- **How far the version of a document is ahead of its client**, when a text with a version put it
into the store and the versions of the client increase: at most by the number of texts that came
without a version. -/
theorem numbered_bounds {supplied : List (Option Int)} {version : Int}
    (isVersion : numbered supplied = some version) (first : supplied.head? ≠ some none)
    (increasing : supplied.reduceOption.Pairwise (· < ·))
    (small : ∀ sent ∈ supplied.reduceOption, sent ≤ maxVersion) :
    ∃ client, supplied.reduceOption.getLast? = some client ∧
      client ≤ version ∧ version ≤ client + supplied.count none := by
  match supplied with
  | [] => cases isVersion
  | none :: _ => exact absurd rfl first
  | some earliest :: rest =>
    obtain ⟨other, client, same, last, bounds⟩ :=
      numbered_cons_bounds earliest rest increasing small
    rw [isVersion] at same
    cases same
    exact ⟨client, last, by simpa using bounds⟩

end Document

end KotlinAssist
