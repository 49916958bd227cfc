import LexisFront.Source.File

/-!
# Faults of a path

A path can have several faults at once: a file may be too large, badly named and no text. Loading
it reports one of them. `Loading.Fault` says of each fault, by itself and without regard to the
others, when it is present, with its place in the order of priority and its error. Loading reports
the fault that comes first in that order, and gives the text of the file when there is none.
-/

namespace LexisFront.Loading

/-- The extension of a full path in lower case. -/
def extensionOf (fullPath : String) : Option String :=
  (Source.extension? fullPath).map Text.lowercase

/-- A fault of a path that leads to an entry, with its priority, of which the least comes first,
and its error. -/
inductive Fault (settings : FileSettings) (path : String) : Entry → Nat → FileError → Prop
  /-- The path is empty. -/
  | emptyPath {entry : Entry} (empty : path = "") : Fault settings path entry 0 (.invalidPath path)
  /-- There is nothing at the path. -/
  | missing : Fault settings path .missing 1 (.notFound path)
  /-- The path does not lead to a regular file. -/
  | irregular : Fault settings path .directory 2 (.invalidPath path)
  /-- The file has too many bytes. -/
  | oversize {fullPath : String} {bytes : ByteArray} (large : Limits.maxFileSize < bytes.size) :
      Fault settings path (.file fullPath bytes) 3 (.tooLarge bytes.size Limits.maxFileSize)
  /-- The file needs the extension of source files and has another one, or none. -/
  | misnamed {fullPath : String} {bytes : ByteArray} (required : settings.requireExtension = true)
      (other : extensionOf fullPath ≠ some "lx") :
      Fault settings path (.file fullPath bytes) 4 (.invalidExtension (extensionOf fullPath))
  /-- The bytes are no text. -/
  | undecodable {fullPath : String} {bytes : ByteArray} (invalid : ¬bytes.IsValidUTF8) :
      Fault settings path (.file fullPath bytes) 5 (.invalidEncoding fullPath)

/-- An error is that of the fault which comes before all others. -/
def FirstFault (settings : FileSettings) (path : String) (entry : Entry) (error : FileError) :
    Prop :=
  ∃ priority, Fault settings path entry priority error ∧
    ∀ later other, Fault settings path entry later other → priority ≤ later

variable {settings : FileSettings} {path fullPath : String} {bytes : ByteArray}

/-- What loading a file gives, apart from its events. -/
theorem result_ofEntry_file (settings : FileSettings) (named : path ≠ "") (fullPath : String)
    (bytes : ByteArray) :
    (ofEntry settings path (.file fullPath bytes)).result =
      if Limits.maxFileSize < bytes.size then
        .error (.tooLarge bytes.size Limits.maxFileSize)
      else if settings.requireExtension = true ∧ extensionOf fullPath ≠ some "lx" then
        .error (.invalidExtension (extensionOf fullPath))
      else if valid : bytes.IsValidUTF8 then
        .ok ⟨.fromUTF8 bytes valid, ⟨fullPath, bytes.size, extensionOf fullPath,
          Source.countLines (.fromUTF8 bytes valid)⟩⟩
      else
        .error (.invalidEncoding fullPath) := by
  have present : path.isEmpty = false := by simpa using named
  have refused : (settings.requireExtension && !(collect fullPath bytes).isSource) = true ↔
      settings.requireExtension = true ∧ extensionOf fullPath ≠ some "lx" := by
    simp [FileInfo.isSource, FileInfo.sourceExtension, collect, extensionOf]
  simp only [ofEntry, present, Bool.false_eq_true, ↓reduceIte, inspect, refused]
  by_cases large : Limits.maxFileSize < bytes.size
  · rw [if_pos large, if_pos (show Limits.maxFileSize < (collect fullPath bytes).size from large)]
    rfl
  · rw [if_neg large, if_neg (show ¬Limits.maxFileSize < (collect fullPath bytes).size from large)]
    by_cases misnamed : settings.requireExtension = true ∧ extensionOf fullPath ≠ some "lx"
    · rw [if_pos misnamed, if_pos misnamed]
      rfl
    · rw [if_neg misnamed, if_neg misnamed, decode, String.fromUTF8?]
      by_cases valid : bytes.IsValidUTF8
      · rw [dif_pos valid, dif_pos valid]
        rfl
      · rw [dif_neg valid, dif_neg valid]
        rfl

/-- Loading a file reports the first of its faults, or gives its text and size. -/
theorem result_file_cases (settings : FileSettings) (named : path ≠ "") (fullPath : String)
    (bytes : ByteArray) :
    (∃ error, (ofEntry settings path (.file fullPath bytes)).result = .error error ∧
        FirstFault settings path (.file fullPath bytes) error) ∨
      ∃ source info, bytes = source.toUTF8 ∧
        (ofEntry settings path (.file fullPath bytes)).result = .ok ⟨source, info⟩ ∧
        info.size = source.utf8ByteSize ∧ source.utf8ByteSize ≤ Limits.maxFileSize ∧
        ∀ priority error, ¬Fault settings path (.file fullPath bytes) priority error := by
  rw [result_ofEntry_file settings named]
  -- A check is reached when the faults before it are absent; the later ones may be there as well.
  by_cases large : Limits.maxFileSize < bytes.size
  · refine .inl ⟨_, if_pos large, 3, .oversize large, ?_⟩
    intro later other fault
    cases fault with
    | emptyPath empty => exact absurd empty named
    | oversize | misnamed | undecodable => omega
  · rw [if_neg large]
    by_cases misnamed : settings.requireExtension = true ∧ extensionOf fullPath ≠ some "lx"
    · refine .inl ⟨_, if_pos misnamed, 4, .misnamed misnamed.1 misnamed.2, ?_⟩
      intro later other fault
      cases fault with
      | emptyPath empty => exact absurd empty named
      | oversize tooLarge => exact absurd tooLarge large
      | misnamed | undecodable => omega
    · rw [if_neg misnamed]
      by_cases valid : bytes.IsValidUTF8
      · refine .inr ⟨.fromUTF8 bytes valid, _, rfl, dif_pos valid, rfl, Nat.le_of_not_lt large, ?_⟩
        intro priority error fault
        cases fault with
        | emptyPath empty => exact named empty
        | oversize tooLarge => exact large tooLarge
        | misnamed required other => exact misnamed ⟨required, other⟩
        | undecodable invalid => exact invalid valid
      · refine .inl ⟨_, dif_neg valid, 5, .undecodable valid, ?_⟩
        intro later other fault
        cases fault with
        | emptyPath empty => exact absurd empty named
        | oversize tooLarge => exact absurd tooLarge large
        | misnamed required other => exact absurd ⟨required, other⟩ misnamed
        | undecodable => omega

/-- Loading a path reports its first fault, or gives the text and size of a file without any. -/
theorem result_cases (settings : FileSettings) (path : String) (entry : Entry) :
    (∃ error, (ofEntry settings path entry).result = .error error ∧
        FirstFault settings path entry error) ∨
      ∃ fullPath source info, entry = .file fullPath source.toUTF8 ∧
        (ofEntry settings path entry).result = .ok ⟨source, info⟩ ∧
        info.size = source.utf8ByteSize ∧ source.utf8ByteSize ≤ Limits.maxFileSize ∧
        ∀ priority error, ¬Fault settings path entry priority error := by
  by_cases empty : path = ""
  · refine .inl ⟨.invalidPath path, ?_, 0, .emptyPath empty, fun later _ _ => Nat.zero_le later⟩
    simp [ofEntry, empty, fail]
  · have present : path.isEmpty = false := by simpa using empty
    cases entry with
    | missing =>
      refine .inl ⟨.notFound path, by simp [ofEntry, present, fail], 1, .missing, ?_⟩
      intro later other fault
      cases fault with
      | emptyPath blank => exact absurd blank empty
      | missing => exact Nat.le_refl 1
    | directory =>
      refine .inl ⟨.invalidPath path, by simp [ofEntry, present, fail], 2, .irregular, ?_⟩
      intro later other fault
      cases fault with
      | emptyPath blank => exact absurd blank empty
      | irregular => exact Nat.le_refl 2
    | file fullPath bytes =>
      rcases result_file_cases settings empty fullPath bytes with failed |
        ⟨source, info, rfl, loaded⟩
      · exact .inl failed
      · exact .inr ⟨fullPath, source, info, rfl, loaded⟩

/-- The name of this file is wrong and its byte is no text; its name comes first. -/
example : (ofEntry ⟨true, true⟩ "a.TXT" (.file "/a.TXT" ⟨#[255]⟩)).result =
    .error (.invalidExtension (some "txt")) := rfl

end LexisFront.Loading
