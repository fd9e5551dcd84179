import KotlinAssist.Protocol.Shape

/-!
# Shapes of positions, edits, diagnostics and completion items

The values that a client sends inside the parameters of several methods.  The fields of a record are
listed in the order in which an array holds them.

Numbers that stand for a kind, such as a severity, are not limited to the kinds that the protocol
names.
-/

namespace KotlinAssist.Schema

open RecordField Shape

/-- A place in a document. -/
def position : Shape :=
  record [required "line" nat32, required "character" nat32]

/-- A range of a document. -/
def range : Shape :=
  record [required "start" position, required "end" position]

/-- A range of a given document. -/
def location : Shape :=
  record [required "uri" uri, required "range" range]

/-- The document that a message is about. -/
def document : Shape :=
  record [required "uri" uri]

/-- A document with its version. -/
def versionedDocument : Shape :=
  record [required "uri" uri, required "version" int32]

/-- A document that has been opened. -/
def openedDocument : Shape :=
  record
    [required "uri" uri, required "languageId" text, required "version" int32,
     required "text" text]

/-- A replacement of a range. -/
def textEdit : Shape :=
  record [required "range" range, required "newText" text]

/-- A text to insert at one of two ranges. -/
def insertOrReplace : Shape :=
  record [required "newText" text, required "insert" range, required "replace" range]

/-- A command with its arguments. -/
def command : Shape :=
  record [required "title" text, required "command" text, optional "arguments" (list anything)]

/-- A number or a text. -/
def numberOrText : Shape :=
  either int32 text

/-- How a text is shown. -/
def markupKind : Shape :=
  word ["plaintext", "markdown"]

/-- A text that is shown as it is, or as its kind says. -/
def markup : Shape :=
  either text (record [required "kind" markupKind, required "value" text])

/-- A place that has to do with a diagnostic. -/
def relatedInformation : Shape :=
  record [required "location" location, required "message" text]

/-- A diagnostic. -/
def diagnostic : Shape :=
  record
    [required "range" range, optional "severity" int32, optional "code" numberOrText,
     optional "codeDescription" (record [required "href" uri]), optional "source" text,
     required "message" text, optional "relatedInformation" (list relatedInformation),
     optional "tags" (list int32), optional "data" anything]

/-- What is shown beside the label of a completion item. -/
def labelDetails : Shape :=
  record [optional "detail" text, optional "description" text]

/-- A completion item. -/
def completionItem : Shape :=
  record
    [required "label" text, optional "labelDetails" labelDetails, optional "kind" int32,
     optional "detail" text, optional "documentation" markup, optional "deprecated" bool,
     optional "preselect" bool, optional "sortText" text, optional "filterText" text,
     optional "insertText" text, optional "insertTextFormat" int32,
     optional "insertTextMode" int32, optional "textEdit" (either textEdit insertOrReplace),
     optional "additionalTextEdits" (list textEdit), optional "command" command,
     optional "commitCharacters" (list text), optional "data" anything,
     optional "tags" (list int32)]

end KotlinAssist.Schema
