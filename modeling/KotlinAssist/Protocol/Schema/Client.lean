import KotlinAssist.Protocol.Schema.Value

/-!
# What a client tells about itself

The parameters with which a client starts the server.  Most of them describe what the client can do
and have no effect, but a server that cannot read them does not start.
-/

namespace KotlinAssist.Schema

open RecordField Shape

/-! ### Parts of several descriptions -/

/-- Optional truth values. -/
def flags (names : List String) : List RecordField :=
  names.map (optional · bool)

/-- Whether a method can be registered later. -/
def registration : List RecordField :=
  flags ["dynamicRegistration"]

/-- A description that says no more than that. -/
def registrable : Shape :=
  record registration

/-- Whether a client can be asked to fetch something again. -/
def refreshable : Shape :=
  record (flags ["refreshSupport"])

/-- The kinds that a client knows, if it lists them. -/
def knownKinds (kind : Shape) : Shape :=
  record [optional "valueSet" (list kind)]

/-- The tags that a client knows; older clients send a truth value. -/
def knownTags : Shape :=
  either bool (record [required "valueSet" (list int32)])

/-- The field for the tags that a client knows. -/
def tagSupport : RecordField :=
  (optional "tagSupport" knownTags).withDefault

/-- The properties that can be fetched later. -/
def laterProperties : Shape :=
  record [required "properties" (list text)]

/-- A name with a version. -/
def versioned (name : String) : List RecordField :=
  [required name text, optional "version" text]

/-! ### The workspace -/

/-- How a client applies edits. -/
def editing : Shape :=
  record
    [optional "documentChanges" bool,
     optional "resourceOperations" (list (word ["create", "rename", "delete"])),
     optional "failureHandling"
       (word ["abort", "transactional", "textOnlyTransactional", "undo"]),
     optional "normalizesLineEndings" bool,
     optional "changeAnnotationSupport" (record (flags ["groupsOnLabel"]))]

/-- How a client searches for symbols. -/
def symbolSearch : Shape :=
  record (registration ++
    [optional "symbolKind" (knownKinds int32), tagSupport,
     optional "resolveSupport" laterProperties])

/-- What a client can do with a workspace. -/
def workspace : Shape :=
  record
    [optional "applyEdit" bool,
     optional "workspaceEdit" editing,
     optional "didChangeConfiguration" registrable,
     optional "didChangeWatchedFiles" (record (registration ++ flags ["relativePatternSupport"])),
     optional "symbol" symbolSearch,
     optional "executeCommand" registrable,
     optional "workspaceFolders" bool,
     optional "configuration" bool,
     optional "semanticTokens" refreshable,
     optional "codeLens" refreshable,
     optional "fileOperations" (record (registration ++
       flags ["didCreate", "willCreate", "didRename", "willRename", "didDelete", "willDelete"])),
     optional "inlineValue" refreshable,
     optional "inlayHint" refreshable,
     optional "diagnostic" refreshable]

/-! ### Documents -/

/-- How a client shows completion items. -/
def itemDisplay : Shape :=
  record
    [optional "snippetSupport" bool, optional "commitCharactersSupport" bool,
     optional "documentationFormat" (list markupKind), optional "deprecatedSupport" bool,
     optional "preselectSupport" bool, tagSupport, optional "insertReplaceSupport" bool,
     optional "resolveSupport" laterProperties,
     optional "insertTextModeSupport" (record [required "valueSet" (list int32)]),
     optional "labelDetailsSupport" bool]

/-- How a client completes. -/
def completing : Shape :=
  record (registration ++
    [optional "completionItem" itemDisplay, optional "completionItemKind" (knownKinds int32),
     optional "contextSupport" bool, optional "insertTextMode" int32,
     optional "completionList" (record [optional "itemDefaults" (list text)])])

/-- How a client shows signatures. -/
def signatures : Shape :=
  record (registration ++
    [optional "signatureInformation" (record
       [optional "documentationFormat" (list markupKind),
        optional "parameterInformation" (record (flags ["labelOffsetSupport"])),
        optional "activeParameterSupport" bool]),
     optional "contextSupport" bool])

/-- How a client shows an outline. -/
def outlining : Shape :=
  record (registration ++
    [optional "symbolKind" (knownKinds int32), optional "hierarchicalDocumentSymbolSupport" bool,
     tagSupport])

/-- How a client goes to a place. -/
def going : Shape :=
  record (registration ++ flags ["linkSupport"])

/-- How a client offers code actions. -/
def acting : Shape :=
  record (registration ++
    [optional "codeActionLiteralSupport" (record
       [required "codeActionKind" (record [required "valueSet" (list text)])])] ++
    flags ["isPreferredSupport", "disabledSupport", "dataSupport"] ++
    [optional "resolveSupport" laterProperties, optional "honorsChangeAnnotations" bool])

/-- How a client renames. -/
def givingNames : Shape :=
  record (registration ++
    [optional "prepareSupport" bool, optional "prepareSupportDefaultBehavior" int32,
     optional "honorsChangeAnnotations" bool])

/-- How a client shows diagnostics. -/
def diagnosing : Shape :=
  record
    [optional "relatedInformation" bool, tagSupport, optional "versionSupport" bool,
     optional "codeDescriptionSupport" bool, optional "dataSupport" bool]

/-- How a client folds. -/
def folding : Shape :=
  record (registration ++
    [optional "rangeLimit" nat32, optional "lineFoldingOnly" bool,
     optional "foldingRangeKind" (knownKinds (word ["comment", "imports", "region"])),
     optional "foldingRange" (record (flags ["collapsedText"]))])

/-- How a client highlights. -/
def highlighting : Shape :=
  record (registration ++
    [required "requests" (record
       [optional "range" bool, optional "full" (either bool (joined (flags ["delta"])))]),
     required "tokenTypes" (list text), required "tokenModifiers" (list text),
     required "formats" (list text)] ++
    flags ["overlappingTokenSupport", "multilineTokenSupport", "serverCancelSupport",
      "augmentsSyntaxTokens"])

/-- What a client can do with documents. -/
def textDocument : Shape :=
  record
    [optional "synchronization" (record (registration ++
       flags ["willSave", "willSaveWaitUntil", "didSave"])),
     optional "completion" completing,
     optional "hover" (record (registration ++
       [optional "contentFormat" (list markupKind)])),
     optional "signatureHelp" signatures,
     optional "references" registrable,
     optional "documentHighlight" registrable,
     optional "documentSymbol" outlining,
     optional "formatting" registrable,
     optional "rangeFormatting" registrable,
     optional "onTypeFormatting" registrable,
     optional "declaration" going,
     optional "definition" going,
     optional "typeDefinition" going,
     optional "implementation" going,
     optional "codeAction" acting,
     optional "codeLens" registrable,
     optional "documentLink" (record (registration ++ flags ["tooltipSupport"])),
     optional "colorProvider" registrable,
     optional "rename" givingNames,
     optional "publishDiagnostics" diagnosing,
     optional "foldingRange" folding,
     optional "selectionRange" registrable,
     optional "linkedEditingRange" registrable,
     optional "callHierarchy" registrable,
     optional "semanticTokens" highlighting,
     optional "moniker" registrable,
     optional "typeHierarchy" registrable,
     optional "inlineValue" registrable,
     optional "inlayHint" (record (registration ++
       [optional "resolveSupport" laterProperties])),
     optional "diagnostic" (record (registration ++ flags ["relatedDocumentSupport"]))]

/-! ### The whole client -/

/-- What a client can do with its windows. -/
def window : Shape :=
  record
    [optional "workDoneProgress" bool,
     optional "showMessage" (record
       [optional "messageActionItem" (record (flags ["additionalPropertiesSupport"]))]),
     optional "showDocument" (record [required "support" bool])]

/-- What holds for all methods. -/
def general : Shape :=
  record
    [optional "regularExpressions" (record (versioned "engine")),
     optional "markdown" (record (versioned "parser" ++ [optional "allowedTags" (list text)])),
     optional "staleRequestSupport" (record
       [required "cancel" bool, required "retryOnContentModified" (list text)]),
     optional "positionEncodings" (list text)]

/-- What a client can do. -/
def capabilities : Shape :=
  record
    [optional "workspace" workspace, optional "textDocument" textDocument,
     optional "window" window, optional "general" general, optional "experimental" anything]

/-- The parameters with which a client starts the server. -/
def start : Shape :=
  record
    [optional "processId" nat32,
     optional "rootPath" text,
     (optional "rootUri" uri).withDefault,
     optional "initializationOptions" anything,
     required "capabilities" capabilities,
     (optional "trace" (word ["off", "messages", "verbose"])).withDefault,
     optional "workspaceFolders" (list (record [required "uri" uri, required "name" text])),
     optional "clientInfo" (record (versioned "name")),
     optional "locale" text]

end KotlinAssist.Schema
