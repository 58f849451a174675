import LanguageBridge.Protocol.Shape

set_option autoImplicit false

/-! # What a server can do

A server answers the request that opens a conversation with what it can do and perhaps with its
name. The capabilities are checked against the protocol's shapes and not used otherwise; the
name and the version are kept for the log (`ServerInfo.ofResult?`).
-/

namespace LanguageBridge

/-- What a server says about itself. -/
structure ServerInfo where
  name : Option String
  version : Option String
deriving DecidableEq, Repr

namespace Protocol

open Shape

/-! ## Parts of capabilities -/

/-- A list of texts. -/
def texts : Shape := list text

/-- Which documents something is registered for. -/
def documentSelector : Shape :=
  list (record "DocumentFilter"
    [field? "language" text, field? "scheme" text, field? "pattern" text])

/-- The fields that say whether progress is reported. -/
def progressFields : List Field := [field? "workDoneProgress" flag]

/-- A registration of its own. -/
def registration : Shape :=
  record "StaticTextDocumentRegistrationOptions"
    [field? "documentSelector" documentSelector, field? "id" text]

/-- A capability that is only there or not, or comes with options. -/
def switchOr (name : String) (options : List Shape) : Shape := oneOf name (flag :: options)

/-- A capability that is there or not, or says whether progress is reported. -/
def switchOrProgress (name : String) : Shape :=
  switchOr name [openRecord "WorkDoneProgressOptions" [] progressFields]

/-- A capability that is there or not, or comes with a registration of its own. -/
def switchOrRegistration (name : String) : Shape := switchOr name [registration]

/-- A capability that is there or not, or comes with any options or a registration of its own. -/
def switchOrAny (name : String) : Shape := switchOr name [record "Options" [], registration]

/-- The options of how documents are kept in step. -/
def syncOptions : Shape :=
  record "TextDocumentSyncOptions"
    [field? "openClose" flag, field? "change" int32, field? "willSave" flag,
      field? "willSaveWaitUntil" flag,
      field? "save" (oneOf "TextDocumentSyncSaveOptions"
        [flag, record "SaveOptions" [field? "includeText" flag]])]

/-- The options of completion. -/
def completionOptions : Shape :=
  openRecord "CompletionOptions"
    [field? "resolveProvider" flag, field? "triggerCharacters" texts,
      field? "allCommitCharacters" texts,
      field? "completionItem" (record "CompletionOptionsCompletionItem"
        [field? "labelDetailsSupport" flag])]
    progressFields

/-- The options of signature help. -/
def signatureHelpOptions : Shape :=
  openRecord "SignatureHelpOptions"
    [field? "triggerCharacters" texts, field? "retriggerCharacters" texts] progressFields

/-- The options of code actions. -/
def codeActionOptions : Shape :=
  openRecord "CodeActionOptions"
    [field? "codeActionKinds" texts, field? "resolveProvider" flag] progressFields

/-- The options of formatting while typing. -/
def typingOptions : Shape :=
  record "DocumentOnTypeFormattingOptions"
    [required "firstTriggerCharacter" text, field? "moreTriggerCharacter" texts]

/-- The names of kinds of tokens. -/
def tokenLegend : Shape :=
  record "SemanticTokensLegend" [required "tokenTypes" texts, required "tokenModifiers" texts]

/-- The options of semantic tokens. -/
def tokenOptions : Shape :=
  openRecord "SemanticTokensOptions"
    [required "legend" tokenLegend, field? "range" flag,
      field? "full" (oneOf "SemanticTokensFullOptions"
        [flag, record "Delta" [field? "delta" flag]])]
    progressFields

/-- The options of diagnostics that are asked for. -/
def diagnosticOptions : Shape :=
  openRecord "DiagnosticOptions"
    [field? "identifier" text, required "interFileDependencies" flag,
      required "workspaceDiagnostics" flag]
    progressFields

/-- Which files an operation is about. -/
def fileFilters : Shape :=
  record "FileOperationRegistrationOptions"
    [required "filters" (list (record "FileOperationFilter"
      [field? "scheme" text,
        required "pattern" (record "FileOperationPattern"
          [required "glob" text, field? "matches" (word ["file", "folder"]),
            field? "options" (record "FileOperationPatternOptions"
              [field? "ignoreCase" flag])])]))]

/-- The capabilities that are about the workspace. -/
def workspaceCapabilities : Shape :=
  record "WorkspaceServerCapabilities"
    [field? "workspaceFolders" (record "WorkspaceFoldersServerCapabilities"
        [field? "supported" flag, field? "changeNotifications" (oneOf "OneOf" [flag, text])]),
      field? "fileOperations" (record "WorkspaceFileOperationsServerCapabilities"
        (["didCreate", "willCreate", "didRename", "willRename", "didDelete", "willDelete"].map
          fun name => field? name fileFilters))]

/-! ## The answer -/

/-- What a server can do. -/
def serverCapabilities : Shape :=
  record "ServerCapabilities"
    [field? "positionEncoding" text,
      field? "textDocumentSync" (oneOf "TextDocumentSyncCapability" [int32, syncOptions]),
      field? "selectionRangeProvider" (switchOrProgress "SelectionRangeProviderCapability"),
      field? "hoverProvider" (switchOrProgress "HoverProviderCapability"),
      field? "completionProvider" completionOptions,
      field? "signatureHelpProvider" signatureHelpOptions,
      field? "definitionProvider" (switchOrProgress "OneOf"),
      field? "typeDefinitionProvider" (switchOrRegistration "TypeDefinitionProviderCapability"),
      field? "implementationProvider" (switchOrRegistration "ImplementationProviderCapability"),
      field? "referencesProvider" (switchOrProgress "OneOf"),
      field? "documentHighlightProvider" (switchOrProgress "OneOf"),
      field? "documentSymbolProvider"
        (switchOr "OneOf"
          [openRecord "DocumentSymbolOptions" [field? "label" text] progressFields]),
      field? "workspaceSymbolProvider"
        (switchOr "OneOf"
          [openRecord "WorkspaceSymbolOptions" [field? "resolveProvider" flag] progressFields]),
      field? "codeActionProvider" (switchOr "CodeActionProviderCapability" [codeActionOptions]),
      field? "codeLensProvider" (record "CodeLensOptions" [field? "resolveProvider" flag]),
      field? "documentFormattingProvider" (switchOrProgress "OneOf"),
      field? "documentRangeFormattingProvider" (switchOrProgress "OneOf"),
      field? "documentOnTypeFormattingProvider" typingOptions,
      field? "renameProvider"
        (switchOr "OneOf"
          [openRecord "RenameOptions" [field? "prepareProvider" flag] progressFields]),
      field? "documentLinkProvider"
        (openRecord "DocumentLinkOptions" [field? "resolveProvider" flag] progressFields),
      field? "colorProvider" (switchOrAny "ColorProviderCapability"),
      field? "foldingRangeProvider" (switchOrAny "FoldingRangeProviderCapability"),
      field? "declarationProvider" (switchOrProgress "DeclarationCapability"),
      field? "executeCommandProvider"
        (openRecord "ExecuteCommandOptions" [required "commands" texts] progressFields),
      field? "workspace" workspaceCapabilities,
      field? "callHierarchyProvider" (switchOrProgress "CallHierarchyServerCapability"),
      field? "semanticTokensProvider" (oneOf "SemanticTokensServerCapabilities" [tokenOptions]),
      field? "monikerProvider" (switchOrProgress "OneOf"),
      field? "linkedEditingRangeProvider"
        (switchOrProgress "LinkedEditingRangeServerCapabilities"),
      field? "inlineValueProvider" (switchOrProgress "OneOf"),
      field? "inlayHintProvider"
        (switchOr "OneOf"
          [openRecord "InlayHintOptions" [field? "resolveProvider" flag] progressFields]),
      field? "diagnosticProvider" (oneOf "DiagnosticServerCapabilities" [diagnosticOptions]),
      field? "experimental" any]

/-- The answer to the request that opens a conversation. -/
def openingResult : Shape :=
  record "InitializeResult"
    [required "capabilities" serverCapabilities,
      field? "serverInfo" (record "ServerInfo" [required "name" text, field? "version" text])]

end Protocol

/-- What a server says about itself in a well-formed answer. -/
def ServerInfo.ofResult (result : Json) : ServerInfo :=
  let info := match result with
    | .array (_ :: info :: _) => info
    | result => (result.member? "serverInfo").getD .null
  match info with
  | .array (name :: version :: _) => ⟨name.asString?, version.asString?⟩
  | info =>
    ⟨(info.member? "name").bind Json.asString?, (info.member? "version").bind Json.asString?⟩

end LanguageBridge
