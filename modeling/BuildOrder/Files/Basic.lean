/-!
# Files

What a run may ask of the files it can see: the bytes behind a path, and the nearest file of a given name at or
above the working directory. Nothing is ever written to them.

Bytes come as a `ByteStream`, piece by piece, and may break off with a fault. Bytes that are to be text must be
UTF-8.
-/

namespace BuildOrder

/-- Why bytes could not be read, or are no text. -/
inductive ReadFault where
  | notFound
  | notDirectory
  | isDirectory
  | notText
  /-- The source of the bytes failed, for a reason of its own. -/
  | broken (reason : String)
deriving DecidableEq

def ReadFault.message : ReadFault → String
  | .notFound => "No such file or directory (os error 2)"
  | .notDirectory => "Not a directory (os error 20)"
  | .isDirectory => "Is a directory (os error 21)"
  | .notText => "stream did not contain valid UTF-8"
  | .broken reason => reason

def textOfBytes (bytes : ByteArray) : Except ReadFault String :=
  match String.fromUTF8? bytes with
  | some text => .ok text
  | none => .error .notText

/-- The files that a run can see. -/
structure Files where
  /-- The bytes of the file behind a path. -/
  read : String → Except ReadFault ByteArray
  /-- The nearest file of a name, in the working directory or the first directory above it that has one: its
  absolute path, and its bytes or why they cannot be read. -/
  nearest? : String → Option (String × Except ReadFault ByteArray)

namespace Files

def none : Files := ⟨fun _ => .error .notFound, fun _ => .none⟩

def readText (files : Files) (path : String) : Except ReadFault String :=
  match files.read path with
  | .ok bytes => textOfBytes bytes
  | .error fault => .error fault

end Files

/-- Bytes that come in pieces, and then end or break off. -/
inductive ByteStream where
  | ends
  | breaks (fault : ReadFault)
  | gives (chunk : ByteArray) (rest : ByteStream)

namespace ByteStream

instance : Inhabited ByteStream := ⟨.ends⟩

/-- The stream that gives chunks one after the other, and then ends or breaks off. -/
def ofChunks (fault? : Option ReadFault) : List ByteArray → ByteStream
  | [] =>
    match fault? with
    | none => .ends
    | some fault => .breaks fault
  | chunk :: rest => .gives chunk (ofChunks fault? rest)

/-- All bytes of a stream, behind those read so far. -/
def drain (read : ByteArray) : ByteStream → Except ReadFault ByteArray
  | .ends => .ok read
  | .breaks fault => .error fault
  | .gives chunk rest => rest.drain (read ++ chunk)

/-- The text that the bytes of a stream spell. A stream that breaks off is a fault whatever came before. -/
def readText (s : ByteStream) : Except ReadFault String :=
  match s.drain .empty with
  | .ok bytes => textOfBytes bytes
  | .error fault => .error fault

end ByteStream

end BuildOrder
