import Backchain.Document.Renderer
import Backchain.Folder

/-! Outputs that text is written to, chunk by chunk, up to a limit of bytes. -/

namespace Backchain

/-- An output: what has been written, how many bytes it can hold, and whether it shows colours. -/
structure Output where
  coloring : Coloring := .plain
  limit : Option Nat := none
  written : String := ""

namespace Output

/-- Whether a chunk can be written without passing the limit. -/
def hasRoom (out : Output) (chunk : String) : Bool :=
  out.limit.all (fun limit => out.written.utf8ByteSize + chunk.utf8ByteSize ≤ limit)

/-- The output with a chunk written after all others. -/
def push (out : Output) (chunk : String) : Output := { out with written := out.written ++ chunk }

/-- Writes chunks in order, up to the first for which there is no room. -/
def writeAll (out : Output) : List String → Output × Except StorageError Unit
  | [] => (out, .ok ())
  | chunk :: rest =>
      if out.hasRoom chunk then (out.push chunk).writeAll rest else (out, .error .storageFull)

end Output

end Backchain
