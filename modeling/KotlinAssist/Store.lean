import KotlinAssist.Position

/-!
# The documents of a server

A store holds the text of every open document, the one touched least recently first.  Opening,
updating and reading a document touches it.  When a new document would exceed the number of
documents allowed, the one touched least recently gives way.  A text that is too large is refused
and changes nothing.

Versions only grow: a version that is not above the stored one is replaced by the stored one plus
one, and the largest number of 32 bits stays.

## Main definitions

* `Document` — an open document
* `Store` — the documents, limits and counters
* `Store.openDocument` — and `Store.update` give a document a text
* `Store.snapshot` — reads a document
* `Store.remove` — closes a document
* `Document.nextVersion` — the rule for versions
-/

namespace KotlinAssist

/-- An open document. -/
structure Document where
  uri : Uri
  text : String
  version : Int
  language : String
  deriving DecidableEq

namespace Document

/-- The largest version. -/
def maxVersion : Int :=
  0x7FFFFFFF

/-- The version after a change, given the stored version and the one supplied. -/
def nextVersion (current : Int) (supplied : Option Int) : Int :=
  match supplied with
  | some version => if current < version then version else min (current + 1) maxVersion
  | none => min (current + 1) maxVersion

end Document

/-- The documents of a server, its limits and what it has counted. -/
structure Store where
  /-- The open documents, the one touched least recently first. -/
  documents : List Document := []
  /-- The number of documents allowed. -/
  maxDocuments : Nat := 1000
  /-- The number of bytes allowed in a document. -/
  maxBytes : Nat := 50 * 1024 * 1024
  /-- How often a document was read. -/
  hits : Nat := 0
  /-- How often a document that is not open was to be read. -/
  misses : Nat := 0
  /-- How many documents had to give way. -/
  evictions : Nat := 0
  deriving DecidableEq

/-- A document that is too large. -/
structure TooLarge where
  uri : Uri
  size : Nat
  max : Nat
  deriving DecidableEq

namespace TooLarge

/-- The message about a document that is too large. -/
def message (error : TooLarge) : String :=
  s!"Document '{error.uri}' is too large ({error.size} bytes). " ++
    s!"Maximum allowed: {error.max} bytes"

end TooLarge

namespace Store

/-- The language of a document that a change brings in. -/
def defaultLanguage : String :=
  "kotlin"

/-- The document of a given name. -/
def find? (store : Store) (uri : Uri) : Option Document :=
  store.documents.find? (·.uri == uri)

/-- Whether a document is open. -/
def contains (store : Store) (uri : Uri) : Bool :=
  (store.find? uri).isSome

/-- The names of the open documents. -/
def uris (store : Store) : List Uri :=
  store.documents.map (·.uri)

/-- The number of open documents. -/
def size (store : Store) : Nat :=
  store.documents.length

/-- The store with a document as the one touched last, in place of the one of that name. -/
def touch (store : Store) (document : Document) : Store :=
  { store with documents := store.documents.filter (·.uri != document.uri) ++ [document] }

/-- The store without the document touched least recently. -/
def evict (store : Store) : Store :=
  match store.documents with
  | [] => store
  | _ :: rest => { store with documents := rest, evictions := store.evictions + 1 }

/-- The store with a document that was not open. -/
def insert (store : Store) (document : Document) : Store :=
  let store := if store.maxDocuments ≤ store.size then store.evict else store
  { store with documents := store.documents ++ [document] }

/-- Refuses a text that is too large. -/
def checkSize (store : Store) (uri : Uri) (text : String) : Except TooLarge Unit :=
  if store.maxBytes < text.utf8ByteSize then .error ⟨uri, text.utf8ByteSize, store.maxBytes⟩
  else .ok ()

/-- Opens a document.  One that is open already gets the new text and language. -/
def openDocument (store : Store) (uri : Uri) (text : String) (version : Int)
    (language : String) : Except TooLarge Store := do
  store.checkSize uri text
  match store.find? uri with
  | some document =>
    let version := Document.nextVersion document.version (some version)
    return store.touch ⟨uri, text, version, language⟩
  | none => return store.insert ⟨uri, text, version, language⟩

/-- Gives a document a new text.  One that is not open is opened, with version 1 if none is
supplied.  The version then stored is returned. -/
def update (store : Store) (uri : Uri) (text : String) (version : Option Int) :
    Except TooLarge (Store × Int) := do
  store.checkSize uri text
  match store.find? uri with
  | some document =>
    let version := Document.nextVersion document.version version
    return (store.touch { document with text := text, version := version }, version)
  | none =>
    let version := version.getD 1
    return (store.insert ⟨uri, text, version, defaultLanguage⟩, version)

/-- Reads a document, and counts whether it is open. -/
def snapshot (store : Store) (uri : Uri) : Store × Option Document :=
  match store.find? uri with
  | some document =>
    ({ store.touch document with hits := store.hits + 1 }, some document)
  | none => ({ store with misses := store.misses + 1 }, none)

/-- Closes a document. -/
def remove (store : Store) (uri : Uri) : Store :=
  { store with documents := store.documents.filter (·.uri != uri) }

/-- Closes all documents and starts counting anew. -/
def clear (store : Store) : Store :=
  { store with documents := [], hits := 0, misses := 0, evictions := 0 }

/-- The store with another number of documents allowed. -/
def setMaxDocuments (store : Store) (limit : Nat) : Store :=
  { store with maxDocuments := limit }

/-- The store with another number of bytes allowed. -/
def setMaxBytes (store : Store) (limit : Nat) : Store :=
  { store with maxBytes := limit }

end Store

end KotlinAssist
