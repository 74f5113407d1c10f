import RunLog.Cursors.Snapshot
import RunLog.Error
import RunLog.Json.Writer
import RunLog.Text.Utf8

/-!
Sessions that outlive the program: the cursor cache of each named session is kept in a file of its
own. A file that holds no snapshot stands for a session without cursors.
-/

namespace RunLog

/-- The directory that holds the files of sessions. -/
structure SessionStore where
  /-- What the files hold, by file name. -/
  files : List (String × List UInt8) := []
  /-- Whether the directory is there. The first save makes it. -/
  directory : Bool := true
  /-- The most bytes that the name of a file can have. -/
  nameLimit : Nat := 255
  /-- There are files only in a directory that is there, and all of them have possible names. -/
  sound : ∀ e ∈ files, directory = true ∧ e.1.utf8ByteSize ≤ nameLimit := by
    exact List.forall_mem_nil _

namespace SessionStore

def isNameChar (c : Char) : Bool := c.isAlphanum || c = '-' || c = '_' || c = '.'

/-- Names of sessions name no other directory and no hidden file. -/
def isName (name : String) : Bool :=
  match name.toList with
  | [] => false
  | c :: rest => c ≠ '.' && (c :: rest).all isNameChar

/-- The name of the file of a session. -/
def fileName (name : String) : Except TransferError String :=
  if isName name then .ok (name ++ ".json")
  else .error (.failure .invalidInput ("invalid session name '" ++ name ++ "'"))

def nameTooLong : TransferError := .failure .invalidFilename "File name too long (os error 36)"

def file? (store : SessionStore) (file : String) : Option (List UInt8) := store.files.lookup file

/-- Looks for a file. Only in a directory that is there a name can be too long. -/
def find? (store : SessionStore) (file : String) : Except TransferError (Option (List UInt8)) :=
  if store.directory && store.nameLimit < file.utf8ByteSize then .error nameTooLong
  else .ok (store.file? file)

/-- The store once its directory is there. -/
def made (store : SessionStore) : SessionStore :=
  { store with
    directory := true
    sound := fun e he => ⟨rfl, (store.sound e he).2⟩ }

/-- Puts content into a file, unless its name is too long. -/
def write (store : SessionStore) (file : String) (content : List UInt8) : SessionStore :=
  if hfits : file.utf8ByteSize ≤ store.nameLimit then
    { store with
      files := (file, content) :: store.files.filter fun e => e.1 ≠ file
      directory := true
      sound := by
        intro e he
        rcases List.mem_cons.mp he with rfl | he
        · exact ⟨rfl, hfits⟩
        · exact ⟨rfl, (store.sound e (List.mem_filter.mp he).1).2⟩ }
  else store

def erase (store : SessionStore) (file : String) : SessionStore :=
  { store with
    files := store.files.filter fun e => e.1 ≠ file
    sound := fun e he => store.sound e (List.mem_filter.mp he).1 }

/-- The cursors that the content of a file describes; bytes that are no text cannot be read. -/
def cursorsOf (content : List UInt8) : Except TransferError CursorCache :=
  match Text.decode? content with
  | none => .error (.failure .invalidData "stream did not contain valid UTF-8")
  | some text => .ok (((CursorSnapshot.parse? text.toList).map CursorCache.ofSnapshot).getD .empty)

/-- The cursors of a session; a session without a file has none. -/
def load (store : SessionStore) (name : String) : Except TransferError CursorCache := do
  match ← store.find? (← fileName name) with
  | some content => cursorsOf content
  | none => return .empty

def save (store : SessionStore) (name : String) (cursors : CursorCache) :
    Except TransferError SessionStore := do
  let file ← fileName name
  if store.nameLimit < file.utf8ByteSize then throw nameTooLong
  return store.write file (Text.encode cursors.snapshot.toJson.toPretty)

/-- What a save leaves behind that fails: before it can, it has made the directory, unless already the
name was refused. -/
def unsaved (store : SessionStore) (name : String) : SessionStore :=
  if isName name then store.made else store

def clear (store : SessionStore) (name : String) : Except TransferError (Bool × SessionStore) := do
  let file ← fileName name
  return ((← store.find? file).isSome, store.erase file)

end SessionStore

end RunLog
