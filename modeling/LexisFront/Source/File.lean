import LexisFront.Diagnostic.Event
import LexisFront.Settings
import LexisFront.Source.Excerpt
import LexisFront.Text.Quoted
import LexisFront.Text.Size

/-!
# Source files

A path leads to nothing, to a directory, or to a regular file with its bytes. Loading a path
checks what it leads to, then the size and the extension of the file, and only then decodes the
bytes, so an early fault hides a later one.
-/

namespace LexisFront

/-- Why a path gives no source. -/
inductive FileError where
  /-- There is nothing at the path. -/
  | notFound (path : String)
  /-- The file does not have the extension of source files. -/
  | invalidExtension (extension : Option String)
  /-- The file has more bytes than allowed. -/
  | tooLarge (size max : Nat)
  /-- The file may not be read. -/
  | permissionDenied (path : String)
  /-- The bytes are no UTF-8 text. -/
  | invalidEncoding (path : String)
  /-- Reading failed in some other way. -/
  | readFailure (message : String)
  /-- The path is empty or does not lead to a regular file. -/
  | invalidPath (path : String)
deriving DecidableEq, Repr

namespace FileError

/-- The code of an error. -/
def code : FileError → Code
  | notFound _ => .fileNotFound
  | invalidExtension _ => .invalidExtension
  | tooLarge .. => .fileTooLarge
  | invalidEncoding _ => .invalidEncoding
  | permissionDenied _ | readFailure _ => .readFailure
  | invalidPath _ => .invalidPath

/-- An error in words. -/
def message : FileError → String
  | notFound path => s!"File not found: {path}"
  | invalidExtension extension =>
    s!"Invalid file extension: expected .lx, found {Text.quotedOption extension}"
  | tooLarge size max => s!"File too large: {size} bytes (max: {max})"
  | permissionDenied path => s!"Permission denied: {path}"
  | invalidEncoding path => s!"Invalid UTF-8 encoding in file: {path}"
  | readFailure message => s!"I/O error reading file: {message}"
  | invalidPath path => s!"Invalid file path: {path}"

end FileError

/-- What a path leads to. -/
inductive Entry where
  /-- Nothing. -/
  | missing
  /-- Something that is no regular file. -/
  | directory
  /-- A regular file, with its full path and its bytes. -/
  | file (path : String) (bytes : ByteArray)

/-- What is known of a file. -/
structure FileInfo where
  /-- The full path of the file. -/
  path : String
  /-- The number of bytes. -/
  size : Nat
  /-- The extension in lower case. -/
  extension : Option String
  /-- The number of lines. -/
  lines : Nat
deriving DecidableEq, Repr

namespace FileInfo

/-- The extension of source files. -/
def sourceExtension : String := "lx"

/-- Whether the file has the extension of source files. -/
def isSource (info : FileInfo) : Bool :=
  info.extension == some sourceExtension

/-- Whether a number of bytes makes a file large. -/
def isLargeSize (size : Nat) : Bool :=
  Limits.largeFileThreshold < size

/-- Whether the file is large. -/
def isLarge (info : FileInfo) : Bool :=
  isLargeSize info.size

/-- The extension in words. -/
def extensionWord (info : FileInfo) : String :=
  info.extension.getD "none"

end FileInfo

namespace Source

/-- The last component of a path. -/
def fileName (path : String) : List Char :=
  (path.toList.reverse.takeWhile (· != '/')).reverse

/-- What follows the last dot of a file name, unless that dot opens the name. -/
def extension? (path : String) : Option String :=
  match (fileName path).reverse.span (· != '.') with
  | (_, []) => none
  | (_, [_]) => none
  | (reversed, _ :: _ :: _) => some (String.ofList reversed.reverse)

end Source

/-- A decoded file. -/
structure SourceFile where
  /-- The text of the file. -/
  source : String
  /-- What is known of the file. -/
  info : FileInfo
deriving DecidableEq, Repr

namespace SourceFile

/-- The number of characters. -/
def charCount (file : SourceFile) : Nat :=
  file.source.length

/-- Whether the file holds white space only. -/
def isBlank (file : SourceFile) : Bool :=
  Text.isBlank file.source.toList

end SourceFile

/-- What came of loading a path. -/
structure Loading where
  /-- The file, or why there is none. -/
  result : Except FileError SourceFile
  /-- The emitted events in order. -/
  events : List Event

namespace Loading

/-- What is known of a file before its text is decoded. -/
def collect (path : String) (bytes : ByteArray) : FileInfo :=
  ⟨path, bytes.size, (Source.extension? path).map Text.lowercase, 0⟩

/-- The event that tells what is known of a file. -/
def infoEvent (info : FileInfo) : Event :=
  (Event.debug "File metadata collected").withDetails
    [("size_bytes", toString info.size), ("extension", info.extensionWord),
      ("is_lx", toString info.isSource)]

/-- The event of a file that was read. -/
def successEvent (settings : FileSettings) (path : String) (file : SourceFile) : Event :=
  let event := (Event.success .fileRead "File processed successfully").withDetail "file" path
  if settings.reportPerformance then
    event.withDetails
      [("size_bytes", toString file.info.size),
        ("size_human", Text.humanSize file.info.size),
        ("lines", toString file.info.lines),
        ("chars", toString file.charCount),
        ("is_large_file", toString file.info.isLarge)]
  else
    event

/-- A failed loading with the event of its error. -/
def fail (before : List Event) (error : FileError) (message : String)
    (details : List (String × String)) : Loading :=
  ⟨.error error, before ++ [(Event.error error.code message).withDetails details]⟩

/-- Decodes a file that passed the checks. -/
def decode (settings : FileSettings) (path : String) (before : List Event) (info : FileInfo)
    (bytes : ByteArray) : Loading :=
  match String.fromUTF8? bytes with
  | none =>
    fail before (.invalidEncoding info.path) "Failed to read file contents"
      [("file", path), ("io_error", "stream did not contain valid UTF-8")]
  | some source =>
    let file : SourceFile := ⟨source, { info with lines := Source.countLines source }⟩
    ⟨.ok file, before ++ [successEvent settings path file]⟩

/-- Checks the size and the extension of a file, and decodes it. -/
def inspect (settings : FileSettings) (path : String) (before : List Event) (info : FileInfo)
    (bytes : ByteArray) : Loading :=
  if Limits.maxFileSize < info.size then
    fail before (.tooLarge info.size Limits.maxFileSize)
      "File exceeds compile-time maximum size limit"
      [("file", path), ("size_human", Text.humanSize info.size),
        ("limit_human", Text.humanSize Limits.maxFileSize)]
  else if settings.requireExtension && !info.isSource then
    fail before (.invalidExtension info.extension) "File does not have required .lx extension"
      [("file", path), ("extension", info.extensionWord)]
  else
    decode settings path before info bytes

/-- Loads a path that leads to an entry. -/
def ofEntry (settings : FileSettings) (path : String) (entry : Entry) : Loading :=
  let before := [(Event.debug "Starting file processing").withDetail "file" path]
  if path.isEmpty then
    fail before (.invalidPath path) "Empty file path provided" []
  else
    match entry with
    | .missing => fail before (.notFound path) "File not found" [("path", path)]
    | .directory => fail before (.invalidPath path) "Path is not a file" [("path", path)]
    | .file fullPath bytes =>
      let info := collect fullPath bytes
      inspect settings path (before ++ [infoEvent info]) info bytes

end Loading

end LexisFront
