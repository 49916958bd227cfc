/-!
# Codes of diagnostics

Every event carries a code. The registry says of each known code what it is about, how grave it
is and what to do; an unknown code has the answers of a moderate, recoverable problem.
-/

namespace LexisFront

/-- How grave a problem is. -/
inductive Severity where
  | critical
  | high
  | medium
  | low
deriving DecidableEq, Repr

namespace Severity

/-- The name of a severity. -/
def name : Severity → String
  | critical => "Critical"
  | high => "High"
  | medium => "Medium"
  | low => "Low"

end Severity

/-- A code of a diagnostic. -/
abbrev Code := String

/-- What the registry says of a code. -/
structure CodeInfo where
  /-- The code itself. -/
  code : Code
  /-- The part of the front end that it belongs to. -/
  category : String
  /-- How grave it is. -/
  severity : Severity
  /-- Whether work can go on after it. -/
  recoverable : Bool
  /-- Whether work must stop. -/
  requiresHalt : Bool
  /-- What it means. -/
  description : String
  /-- What to do about it. -/
  action : String
deriving DecidableEq, Repr

namespace Code

/-- A failure of the front end itself. -/
def internalError : Code := "ERR001"

/-- Logging or settings could not be set up. -/
def setupFailure : Code := "ERR002"

/-- There is no file at a path. -/
def fileNotFound : Code := "E005"

/-- A file does not have the extension of source files. -/
def invalidExtension : Code := "E006"

/-- A file has too many bytes. -/
def fileTooLarge : Code := "E007"

/-- A file is not UTF-8 text. -/
def invalidEncoding : Code := "E010"

/-- A file could not be read. -/
def readFailure : Code := "E011"

/-- A path does not lead to a regular file. -/
def invalidPath : Code := "E012"

/-- A fragment is no token. -/
def unrecognizedToken : Code := "E020"

/-- An operator has characters after its glyph. -/
def malformedOperator : Code := "E021"

/-- A fragment has too many characters. -/
def fragmentTooLong : Code := "E023"

/-- A source has too many tokens. -/
def tooManyTokens : Code := "E027"

/-- The characters after the glyph of an operator were dropped. -/
def operatorTruncated : Code := "W020"

/-- The terminator is missing or not the last token. -/
def missingEof : Code := "E040"

/-- There are no tokens at all. -/
def emptyTokenStream : Code := "E041"

/-- A token has no place in a chain. -/
def unsupportedToken : Code := "E042"

/-- The tokens end inside a statement. -/
def unexpectedEnd : Code := "E043"

/-- A token cannot stand where it stands. -/
def unexpectedToken : Code := "E050"

/-- A chain has too many operands. -/
def chainTooLong : Code := "E087"

/-- A program has too many statements. -/
def tooManyStatements : Code := "E088"

/-- A part of the front end is set up. -/
def setupComplete : Code := "I004"

/-- A file was read. -/
def fileRead : Code := "I006"

/-- A source was lexed. -/
def lexingComplete : Code := "I020"

/-- A program was parsed. -/
def parsingComplete : Code := "I040"

/-- A source went through every stage. -/
def pipelineComplete : Code := "I090"

/-- The code of an event that only informs. -/
def plainInfo : Code := "I000"

/-- The code of an event for debugging. -/
def plainDebug : Code := "D000"

/-- Everything that is known about codes. -/
def registry : List CodeInfo := [
  ⟨internalError, "System", .critical, false, true,
    "Critical internal error",
    "File a bug report with the input that triggered it"⟩,
  ⟨setupFailure, "System", .critical, false, true,
    "Logging or configuration initialization failed",
    "Check LEXIS_* environment variables"⟩,
  ⟨fileNotFound, "FileProcessing", .medium, false, true,
    "File not found at specified path",
    "Check file path and ensure file exists"⟩,
  ⟨invalidExtension, "FileProcessing", .low, true, false,
    "File does not have the .lx extension",
    "Rename the file or unset LEXIS_REQUIRE_LX_EXTENSION"⟩,
  ⟨fileTooLarge, "FileProcessing", .medium, false, true,
    "File exceeds maximum size limit",
    "Split the source or build with a larger max_file_size"⟩,
  ⟨invalidEncoding, "FileProcessing", .medium, false, true,
    "File is not valid UTF-8",
    "Re-save the file as UTF-8"⟩,
  ⟨readFailure, "FileProcessing", .high, false, true,
    "I/O error while reading file",
    "Check permissions and disk state"⟩,
  ⟨invalidPath, "FileProcessing", .medium, false, true,
    "Path is not a regular file",
    "Pass a path to a source file"⟩,
  ⟨unrecognizedToken, "Lexical", .high, false, true,
    "Fragment is not an operator, number or word",
    "Separate every token with a single space; only integers and ASCII words are allowed"⟩,
  ⟨malformedOperator, "Lexical", .high, false, true,
    "Operator glyph followed by other characters",
    "Put a space after the operator"⟩,
  ⟨fragmentTooLong, "Lexical", .medium, false, true,
    "Fragment exceeds maximum length",
    "Shorten the identifier or number"⟩,
  ⟨tooManyTokens, "Lexical", .high, false, true,
    "Too many tokens in a single source",
    "Split the source into smaller files"⟩,
  ⟨operatorTruncated, "Lexical", .low, true, false,
    "Operator fragment truncated to its first character",
    "Put a space after the operator"⟩,
  ⟨missingEof, "Syntax", .high, false, true,
    "Token sequence does not end with EOF",
    "Build token sequences through the tokenizer"⟩,
  ⟨emptyTokenStream, "Syntax", .high, false, true,
    "Token sequence is empty",
    "Build token sequences through the tokenizer"⟩,
  ⟨unsupportedToken, "Syntax", .medium, false, true,
    "Token kind is not supported by the expression chain grammar",
    "Remove parentheses; chains are evaluated left to right"⟩,
  ⟨unexpectedEnd, "Syntax", .medium, false, true,
    "Input ended in the middle of a statement",
    "Complete the expression"⟩,
  ⟨unexpectedToken, "Syntax", .medium, false, true,
    "Unexpected token",
    "Check statement structure"⟩,
  ⟨chainTooLong, "Syntax", .high, false, true,
    "Expression chain exceeds maximum length",
    "Break the expression into several statements"⟩,
  ⟨tooManyStatements, "Syntax", .high, false, true,
    "Program exceeds maximum statement count",
    "Split the source into smaller files"⟩,
  ⟨setupComplete, "System", .low, true, false,
    "Logging initialized",
    "None"⟩,
  ⟨fileRead, "FileProcessing", .low, true, false,
    "File read and validated",
    "Continue to tokenization"⟩,
  ⟨lexingComplete, "Lexical", .low, true, false,
    "Tokenization complete",
    "Continue to parsing"⟩,
  ⟨parsingComplete, "Syntax", .low, true, false,
    "AST construction complete",
    "Continue to printing"⟩,
  ⟨pipelineComplete, "Pipeline", .low, true, false,
    "Pipeline completed",
    "None"⟩]

/-- What the registry says of a code. -/
def info? (code : Code) : Option CodeInfo :=
  registry.find? (·.code == code)

/-- How grave a code is. -/
def severity (code : Code) : Severity :=
  (info? code).elim .medium (·.severity)

/-- Whether work can go on after a code. -/
def isRecoverable (code : Code) : Bool :=
  (info? code).elim true (·.recoverable)

/-- Whether work must stop at a code. -/
def requiresHalt (code : Code) : Bool :=
  (info? code).elim false (·.requiresHalt)

/-- What a code means. -/
def description (code : Code) : String :=
  (info? code).elim "Unknown error" (·.description)

/-- What to do about a code. -/
def action (code : Code) : String :=
  (info? code).elim "No specific action available" (·.action)

/-- The part of the front end that a code belongs to. -/
def category (code : Code) : String :=
  (info? code).elim "Unknown" (·.category)

end Code

end LexisFront
