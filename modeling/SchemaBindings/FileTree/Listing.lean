import SchemaBindings.FileTree
import SchemaBindings.Json.Basic

/-!
# Listings of file trees

A tree is listed as a JSON object from paths to what stands there: the text of a file, an object with the bytes of a
file in hexadecimal digits, or null for a directory. The directories above an entry need no entries of their own.
-/

namespace SchemaBindings.FileTree

/-- The bytes that pairs of hexadecimal digits denote. -/
def bytesOfDigits : List Char → List UInt8
  | a :: b :: digits => ((Text.hexNumber? [a, b]).getD 0).toUInt8 :: bytesOfDigits digits
  | _ => []

/-- The member of an object that holds the bytes of a file. -/
def bytesMember : String := "hex"

/-- What a JSON value lists. -/
def entryOfJson (value : Json) : Entry :=
  match value.string? with
  | some text => .file text.toUTF8
  | none =>
    match (value.get? bytesMember).bind Json.string? with
    | some digits => .file ⟨(bytesOfDigits digits.toList).toArray⟩
    | none => .directory

/-- Makes the directories that lead to a location, where nothing stands in their place. -/
def setAbove (t : FileTree) (l : Location) : FileTree :=
  ((List.range l.length).map l.take).foldl (fun t above =>
    if (t.entry? above).isSome then t else t.set above .directory) t

/-- Sets what stands at a path below a directory, and makes the directories above it. -/
def setAt (t : FileTree) (directory : Location) (path : String) (e : Entry) : FileTree :=
  let l := directory ++ (Path.ofText path).names
  (t.setAbove l).set l e

/-- The tree with a directory that holds what a JSON object lists. -/
def ofListing (directory : Location) (listing : Json) : FileTree :=
  let start := (FileTree.empty.setAbove directory).set directory .directory
  match listing with
  | .object members => members.foldl (fun t m => t.setAt directory m.1 (entryOfJson m.2)) start
  | _ => start

end SchemaBindings.FileTree
