import KotlinAssist.Protocol.Schema.Params

/-!
# Parameters of methods that are not offered

The protocol knows more requests than the server answers.  Such a request is refused, and whether
its parameters fit decides for which reason.
-/

namespace KotlinAssist.Schema

open RecordField Shape

/-- A field with tags. -/
def tagsField : RecordField :=
  optional "tags" (list int32)

/-- A field with data that the server has given. -/
def dataField : RecordField :=
  optional "data" anything

/-! ### Hierarchies -/

/-- An item of a hierarchy, given the shape of its tags. -/
def hierarchyItem (tags : Shape) : Shape :=
  record
    [required "name" text, required "kind" int32, optional "tags" tags, optional "detail" text,
     required "uri" uri, rangeField, required "selectionRange" range, dataField]

/-- The parameters of a step in the hierarchy of calls. -/
def callStep : Shape :=
  joined (required "item" (hierarchyItem (list int32)) :: progressAndPartial)

/-- The parameters of a step in the hierarchy of types, whose items have one tag at most. -/
def typeStep : Shape :=
  joined (required "item" (hierarchyItem int32) :: progressAndPartial)

/-! ### Links, lenses and hints -/

/-- A link in a document. -/
def link : Shape :=
  record [rangeField, optional "target" uri, optional "tooltip" text, dataField]

/-- A command shown between the lines. -/
def lens : Shape :=
  record [rangeField, optional "command" command, dataField]

/-- A part of the label of a hint. -/
def hintPart : Shape :=
  record
    [required "value" text, optional "tooltip" markup, optional "location" location,
     optional "command" command]

/-- A hint shown inside a line. -/
def hint : Shape :=
  record
    [required "position" position, required "label" (either text (list hintPart)),
     optional "kind" int32, optional "textEdits" (list textEdit), optional "tooltip" markup,
     optional "paddingLeft" bool, optional "paddingRight" bool, dataField]

/-- The parameters of hints in a range. -/
def hintsIn : Shape :=
  joined [progress, documentField, rangeField]

/-- The parameters of values shown while a program is stopped. -/
def valuesIn : Shape :=
  joined
    [progress, documentField, rangeField,
     required "context" (record [required "frameId" int32, required "stoppedLocation" range])]

/-! ### Signatures -/

/-- A parameter of a signature. -/
def parameter : Shape :=
  record [required "label" (either text (pair nat32)), optional "documentation" markup]

/-- A signature. -/
def signature : Shape :=
  record
    [required "label" text, optional "documentation" markup,
     optional "parameters" (list parameter), optional "activeParameter" nat32]

/-- The signatures shown already. -/
def shownSignatures : Shape :=
  record
    [required "signatures" (list signature), optional "activeSignature" nat32,
     optional "activeParameter" nat32]

/-- The parameters of help on signatures. -/
def signatureHelp : Shape :=
  joined
    ([optional "context" (record
       [required "triggerKind" int32, optional "triggerCharacter" text,
        required "isRetrigger" bool, optional "activeSignatureHelp" shownSignatures])] ++
     placeFields ++ [progress])

/-! ### Code actions -/

/-- The optional truth values of an operation on a file. -/
def fileOptions (names : List String) : RecordField :=
  optional "options" (record (names.map (optional · bool)))

/-- The name of the explanation of a change. -/
def explanation : RecordField :=
  optional "annotationId" text

/-- An operation on a file of a given kind. -/
def fileOperation (kind : String) (fields : List RecordField) : Shape :=
  joined (required "kind" (word [kind]) :: fields)

/-- The edits of one document. -/
def documentEdit : Shape :=
  record
    [required "textDocument" (record [required "uri" uri, optional "version" int32]),
     required "edits" (list textEdit)]

/-- An operation on a file, or the edits of a document. -/
def documentChange : Shape :=
  either
    (fileOperation "create"
      [required "uri" uri, fileOptions ["overwrite", "ignoreIfExists"], explanation])
    (either
      (fileOperation "rename"
        [required "oldUri" uri, required "newUri" uri,
         fileOptions ["overwrite", "ignoreIfExists"], explanation])
      (either
        (fileOperation "delete"
          [required "uri" uri, fileOptions ["recursive", "ignoreIfNotExists"]])
        documentEdit))

/-- The edits of a workspace. -/
def workspaceEdit : Shape :=
  record
    [(optional "changes" (dictionary uri (list textEdit))).withDefault,
     optional "documentChanges" (list documentChange),
     optional "changeAnnotations" (dictionary text (record
       [required "label" text, optional "needsConfirmation" bool,
        optional "description" text]))]

/-- A code action. -/
def offeredAction : Shape :=
  record
    [required "title" text, optional "kind" text, optional "diagnostics" (list diagnostic),
     optional "edit" workspaceEdit, optional "command" command, optional "isPreferred" bool,
     optional "disabled" (record [required "reason" text]), dataField]

/-! ### Other methods -/

/-- The parameters of ranges to select. -/
def selections : Shape :=
  joined (documentField :: required "positions" (list position) :: progressAndPartial)

/-- The parameters of the tokens that have changed. -/
def changedTokens : Shape :=
  joined (documentField :: required "previousResultId" text :: progressAndPartial)

/-- The parameters of the diagnostics of a document. -/
def documentDiagnostics : Shape :=
  joined (documentField :: optional "identifier" text :: optional "previousResultId" text ::
    progressAndPartial)

/-- The parameters of the diagnostics of a workspace. -/
def workspaceDiagnostics : Shape :=
  joined (optional "identifier" text ::
    required "previousResultIds" (list (record [required "uri" uri, required "value" text])) ::
    progressAndPartial)

/-- A colour. -/
def colour : Shape :=
  record (["red", "green", "blue", "alpha"].map (required · number))

/-- The parameters of ways to write a colour. -/
def colourTexts : Shape :=
  joined (documentField :: required "color" colour :: rangeField :: progressAndPartial)

/-- The parameters of formatting a range. -/
def rangeFormatting : Shape :=
  joined [documentField, rangeField, required "options" formattingOptions, progress]

/-- The parameters of formatting while typing. -/
def typeFormatting : Shape :=
  joined (placeFields ++ [required "ch" text, required "options" formattingOptions])

/-- A symbol of the workspace, whose range may be missing. -/
def workspaceSymbol : Shape :=
  record
    [required "name" text, required "kind" int32, tagsField, optional "containerName" text,
     required "location" (either location document), dataField]

/-- The parameters of a change of files, given the fields that name a file. -/
def fileChanges (names : List String) : Shape :=
  record [required "files" (list (record (names.map (required · text))))]

/-- The parameters of each request that the protocol knows and the server does not answer. -/
def unoffered : List (String × Shape) :=
  [("textDocument/declaration", place),
   ("textDocument/typeDefinition", place),
   ("textDocument/implementation", place),
   ("textDocument/prepareCallHierarchy", placeAtOnce),
   ("callHierarchy/incomingCalls", callStep),
   ("callHierarchy/outgoingCalls", callStep),
   ("textDocument/prepareTypeHierarchy", placeAtOnce),
   ("typeHierarchy/supertypes", typeStep),
   ("typeHierarchy/subtypes", typeStep),
   ("textDocument/documentHighlight", place),
   ("textDocument/documentLink", wholeDocument),
   ("documentLink/resolve", link),
   ("textDocument/codeLens", wholeDocument),
   ("codeLens/resolve", lens),
   ("textDocument/selectionRange", selections),
   ("textDocument/semanticTokens/full/delta", changedTokens),
   ("textDocument/inlineValue", valuesIn),
   ("textDocument/inlayHint", hintsIn),
   ("inlayHint/resolve", hint),
   ("textDocument/moniker", place),
   ("textDocument/diagnostic", documentDiagnostics),
   ("workspace/diagnostic", workspaceDiagnostics),
   ("textDocument/signatureHelp", signatureHelp),
   ("codeAction/resolve", offeredAction),
   ("textDocument/documentColor", wholeDocument),
   ("textDocument/colorPresentation", colourTexts),
   ("textDocument/rangeFormatting", rangeFormatting),
   ("textDocument/onTypeFormatting", typeFormatting),
   ("textDocument/linkedEditingRange", placeAtOnce),
   ("workspaceSymbol/resolve", workspaceSymbol),
   ("workspace/willCreateFiles", fileChanges ["uri"]),
   ("workspace/willRenameFiles", fileChanges ["oldUri", "newUri"]),
   ("workspace/willDeleteFiles", fileChanges ["uri"])]

end KotlinAssist.Schema
