import KotlinAssist.Protocol.Schema.Value

/-!
# Parameters of the methods

The shapes of the parameters of the requests that the server answers and of the notifications that
it follows.  Requests take over the fields by which a client follows a long piece of work, so they
are sent as objects; what those fields hold has no effect, but it has to fit.
-/

namespace KotlinAssist.Schema

open RecordField Shape

/-! ### Fields of several methods -/

/-- The document. -/
def documentField : RecordField :=
  required "textDocument" document

/-- The document and a place in it. -/
def placeFields : List RecordField :=
  [documentField, required "position" position]

/-- The range of the document. -/
def rangeField : RecordField :=
  required "range" range

/-- The name under which a client follows the work. -/
def progress : RecordField :=
  optional "workDoneToken" numberOrText

/-- The names under which a client follows the work and takes results bit by bit. -/
def progressAndPartial : List RecordField :=
  [progress, optional "partialResultToken" numberOrText]

/-- The parameters of a method about a place whose results come at once. -/
def placeAtOnce : Shape :=
  joined (placeFields ++ [progress])

/-- The parameters of a method about a place. -/
def place : Shape :=
  joined (placeFields ++ progressAndPartial)

/-- The parameters of a method about a whole document. -/
def wholeDocument : Shape :=
  joined (documentField :: progressAndPartial)

/-! ### Requests -/

/-- The circumstances of a completion. -/
def completionContext : Shape :=
  record [required "triggerKind" int32, optional "triggerCharacter" text]

/-- The parameters of completion. -/
def completion : Shape :=
  joined (placeFields ++ progressAndPartial ++ [optional "context" completionContext])

/-- The parameters of the search for references. -/
def references : Shape :=
  joined (placeFields ++ progressAndPartial ++
    [required "context" (record [required "includeDeclaration" bool])])

/-- The circumstances of code actions. -/
def codeActionContext : Shape :=
  record
    [required "diagnostics" (list diagnostic), optional "only" (list text),
     optional "triggerKind" int32]

/-- The parameters of code actions. -/
def codeAction : Shape :=
  joined ([documentField, rangeField, required "context" codeActionContext] ++
    progressAndPartial)

/-- The options of formatting.  A client may add options of its own. -/
def formattingOptions : Shape :=
  withOthers
    [required "tabSize" nat32, required "insertSpaces" bool,
     optional "trimTrailingWhitespace" bool, optional "insertFinalNewline" bool,
     optional "trimFinalNewlines" bool]
    (either bool numberOrText)

/-- The parameters of formatting. -/
def formatting : Shape :=
  joined [documentField, required "options" formattingOptions, progress]

/-- The parameters of the question whether a word can be renamed. -/
def prepareRename : Shape :=
  record placeFields

/-- The parameters of renaming. -/
def rename : Shape :=
  joined (placeFields ++ [required "newName" text, progress])

/-- The parameters of the tokens of a range. -/
def tokensIn : Shape :=
  joined (documentField :: rangeField :: progressAndPartial)

/-- The parameters of the search for symbols. -/
def symbols : Shape :=
  joined (required "query" text :: progressAndPartial)

/-- The parameters of running a command. -/
def runCommand : Shape :=
  joined
    [required "command" text, (required "arguments" (list anything)).withDefault, progress]

/-- The parameters around saving a document. -/
def willSave : Shape :=
  record [documentField, required "reason" int32]

/-! ### Notifications -/

/-- No parameters, but still a record. -/
def empty : Shape :=
  record []

/-- The parameters of an opened document. -/
def opened : Shape :=
  record [required "textDocument" openedDocument]

/-- A change of a document.  Only its text has an effect. -/
def change : Shape :=
  record [optional "range" range, optional "rangeLength" nat32, required "text" text]

/-- The parameters of a changed document. -/
def changed : Shape :=
  record [required "textDocument" versionedDocument, required "contentChanges" (list change)]

/-- The parameters of a saved document. -/
def saved : Shape :=
  record [documentField, optional "text" text]

/-- The parameters of a closed document. -/
def closed : Shape :=
  record [documentField]

end KotlinAssist.Schema
