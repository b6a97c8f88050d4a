import SchemaBindings.Path
import SchemaBindings.Table
import SchemaBindings.Text.Quoted

/-!
# File trees

A file tree gives each location below the root at most one entry, a directory or a file. Entries have names that can
be written in paths, and stand in directories. Operations take the text of a path, which is looked up from a working
directory, and fail for the causes that a file system reports.
-/

namespace SchemaBindings

/-! ### Faults -/

/-- Why a path cannot be used. -/
inductive PathFault
  | notFound | occupied | notADirectory | isADirectory | nameTooLong
  /-- The path holds the character that ends texts for the system. -/
  | zeroCharacter
  deriving DecidableEq, Repr, Inhabited

/-- A fault and the path it is about. -/
structure FileFault where
  cause : PathFault
  path : String
  deriving DecidableEq, Repr, Inhabited

/-- The number and the wording of a fault that the system reports. -/
def PathFault.report? : PathFault → Option (Nat × String)
  | notFound => some (2, "No such file or directory")
  | occupied => some (17, "File exists")
  | notADirectory => some (20, "Not a directory")
  | isADirectory => some (21, "Is a directory")
  | nameTooLong => some (36, "File name too long")
  | zeroCharacter => none

/-- The wording of a fault with its path. -/
def FileFault.message (f : FileFault) : String :=
  match f.cause.report? with
  | some (number, text) => "[Errno " ++ toString number ++ "] " ++ text ++ ": " ++ Text.quoted f.path
  | none => "embedded null byte"

/-! ### Places -/

/-- A name that something in a directory can have. -/
def IsFileName (name : String) : Prop := name ≠ "" ∧ '/' ∉ name.toList

instance (name : String) : Decidable (IsFileName name) := inferInstanceAs (Decidable (_ ∧ _))

/-- The names that lead from the root to a place. -/
abbrev Location := List String

/-- What stands at a location. -/
inductive Entry
  | directory
  | file (content : ByteArray)
  deriving Inhabited

instance Entry.decidableIsDirectory : (o : Option Entry) → Decidable (o = some .directory)
  | some .directory => .isTrue rfl
  | some (.file _) => .isFalse nofun
  | none => .isFalse nofun

/-- What stands at a location where these are all entries. The root is a directory. -/
def entryIn (entries : Table Location Entry) (l : Location) : Option Entry :=
  if l.isEmpty then some .directory else entries.find? l

/-- Something may stand here: the names can be written in paths, and what is above is a directory. -/
structure IsPlace (entries : Table Location Entry) (l : Location) : Prop where
  names : ∀ name ∈ l, IsFileName name
  above : entryIn entries l.dropLast = some .directory

instance (entries : Table Location Entry) (l : Location) : Decidable (IsPlace entries l) :=
  decidable_of_iff ((∀ name ∈ l, IsFileName name) ∧ entryIn entries l.dropLast = some .directory)
    ⟨fun h => ⟨h.1, h.2⟩, fun h => ⟨h.names, h.above⟩⟩

/-! ### Trees -/

/-- Entries by location, each of them at a place. The root itself is a directory and has no entry. -/
structure FileTree where
  entries : Table Location Entry
  root : [] ∉ entries.keys
  places : ∀ l ∈ entries.keys, IsPlace entries l

/-- Work that changes the file tree and may fail; what it has changed before it fails stays changed. -/
abbrev Changing (ε : Type) := ExceptT ε (StateM FileTree)

namespace Changing

variable {ε α : Type}

/-- Work that only looks at the tree. -/
def looking (look : FileTree → Except ε α) : Changing ε α := ExceptT.mk fun t => (look t, t)

/-- Work that replaces the tree, unless that fails. -/
def replacing (change : FileTree → Except ε FileTree) : Changing ε Unit :=
  ExceptT.mk fun t =>
    match change t with
    | .ok changed => (.ok (), changed)
    | .error e => (.error e, t)

end Changing

/-- The longest name that a directory can hold, in bytes. -/
def maxNameBytes : Nat := 255

namespace FileTree

/-- The tree that has only a root. -/
def empty : FileTree := ⟨Table.empty, nofun, nofun⟩

instance : Inhabited FileTree := ⟨empty⟩

/-- What stands at a location. -/
def entry? (t : FileTree) (l : Location) : Option Entry := entryIn t.entries l

/-- Can this be set at the location? It must be a place, and only a directory can take the place of a directory. -/
structure Fits (t : FileTree) (l : Location) (e : Entry) : Prop where
  ne_nil : l ≠ []
  place : IsPlace t.entries l
  replaced : t.entry? l = some .directory → some e = some .directory

instance (t : FileTree) (l : Location) (e : Entry) : Decidable (t.Fits l e) :=
  decidable_of_iff (l ≠ [] ∧ IsPlace t.entries l ∧ (t.entry? l = some .directory → some e = some .directory))
    ⟨fun h => ⟨h.1, h.2.1, h.2.2⟩, fun h => ⟨h.ne_nil, h.place, h.replaced⟩⟩

theorem mem_keys_put {t : FileTree} {l l' : Location} {e : Entry} (h : l' ∈ (t.entries.put l e).keys) :
    l' ∈ t.entries.keys ∨ l' = l := by
  rw [Table.keys_put] at h
  split at h
  · exact .inl h
  · exact (List.mem_append.1 h).imp_right List.mem_singleton.1

theorem Fits.isPlace_put {t : FileTree} {l l' : Location} {e : Entry} (h : t.Fits l e)
    (hl' : l' ∈ (t.entries.put l e).keys) : IsPlace (t.entries.put l e) l' := by
  have hplace : IsPlace t.entries l' := by
    rcases mem_keys_put hl' with hl' | rfl
    · exact t.places l' hl'
    · exact h.place
  refine ⟨hplace.names, ?_⟩
  have habove := hplace.above
  unfold entryIn at habove ⊢
  split
  · rfl
  · next hroot =>
    rw [if_neg hroot] at habove
    rw [Table.find?_put]
    split
    · -- a directory that is set again stays one
      next hsame =>
      refine h.replaced ?_
      unfold entry?
      rw [entryIn, ← hsame, if_neg hroot]
      exact habove
    · exact habove

/-- Sets what stands at a location, if it can be set there. -/
def set (t : FileTree) (l : Location) (e : Entry) : FileTree :=
  if h : t.Fits l e then
    { entries := t.entries.put l e
      root := fun hroot => (mem_keys_put hroot).elim t.root (Ne.symm h.ne_nil)
      places := fun _ hl => h.isPlace_put hl }
  else t

/-- The tree in which entries have been set one after the other. -/
def ofList (entries : List (Location × Entry)) : FileTree := entries.foldl (fun t e => t.set e.1 e.2) empty

/-- Follows names from a location. Each name is looked up in a directory; the last one need not be there. -/
def walk (t : FileTree) (l : Location) : List String → Except PathFault Location
  | [] => .ok l
  | name :: names =>
    match t.entry? l with
    | none => .error .notFound
    | some (.file _) => .error .notADirectory
    | some .directory =>
      if name.isEmpty || name == "." then t.walk l names
      else if name == ".." then t.walk l.dropLast names
      else if name.utf8ByteSize > maxNameBytes then .error .nameTooLong
      else t.walk (l ++ [name]) names

/-- The location that a path denotes. -/
def locate (t : FileTree) (directory : Location) (path : String) : Except PathFault Location :=
  if path.isEmpty then .error .notFound
  else if path.toList.contains '\x00' then .error .zeroCharacter
  else t.walk (if path.toList.head? == some '/' then [] else directory) (Text.split '/' path)

/-! ### Looking -/

/-- What stands at a path. -/
def look (t : FileTree) (directory : Location) (path : String) : Except PathFault Entry := do
  match t.entry? (← t.locate directory path) with
  | some e => return e
  | none => throw .notFound

/-- Is there anything at the path? -/
def occupied (t : FileTree) (directory : Location) (path : String) : Bool := (t.look directory path).toBool

/-- Is there a directory at the path? -/
def isDirectory (t : FileTree) (directory : Location) (path : String) : Bool :=
  match t.look directory path with
  | .ok .directory => true
  | _ => false

/-- Is there a file at the path? -/
def isFile (t : FileTree) (directory : Location) (path : String) : Bool :=
  match t.look directory path with
  | .ok (.file _) => true
  | _ => false

/-- The content of the file at a path. -/
def read (t : FileTree) (directory : Location) (path : String) : Except PathFault ByteArray := do
  match ← t.look directory path with
  | .file content => return content
  | .directory => throw .isADirectory

/-- The names that lead on from a location to another one below it. -/
def namesBelow? : Location → Location → Option (List String)
  | [], names => some names
  | name :: l, other :: names => if name == other then namesBelow? l names else none
  | _ :: _, [] => none

/-- The files below a location, each by the names that lead to it, with their content. -/
def filesBelow (t : FileTree) (l : Location) : List (List String × ByteArray) :=
  t.entries.entries.filterMap fun
    | (place, .file content) => ((namesBelow? l place).filter (!·.isEmpty)).map (·, content)
    | _ => none

/-! ### Changing -/

/-- Writes a file, in place of one that is there. -/
def write (t : FileTree) (directory : Location) (path : String) (content : ByteArray) : Except PathFault FileTree := do
  let l ← t.locate directory path
  match t.entry? l with
  | some .directory => throw .isADirectory
  | _ => return t.set l (.file content)

/-- Makes one directory, which must not exist. -/
def makeDirectory (t : FileTree) (directory : Location) (path : String) : Except PathFault FileTree := do
  let l ← t.locate directory path
  match t.entry? l with
  | some _ => throw .occupied
  | none => return t.set l .directory

/-- Makes one directory, unless it exists. -/
def provideDirectory (t : FileTree) (directory : Location) (path : String) : Except FileFault FileTree :=
  match t.makeDirectory directory path with
  | .ok made => .ok made
  | .error cause => if t.isDirectory directory path then .ok t else .error { cause, path }

/-! ### Making directories -/

/-- Makes a directory, and those above it where they are missing; the names come with the innermost first. The
directories above are made only after the directory itself has turned out to lack one. -/
def provideOnDemand (directory : Location) (root : String) : List String → Changing FileFault Unit
  | [] => Changing.replacing (·.provideDirectory directory (Path.text { root, names := [] }))
  | name :: outer => do
    let path := Path.text { root, names := (name :: outer).reverse }
    match (← get).makeDirectory directory path with
    | .error .notFound => provideOnDemand directory root outer
    | _ => pure ()
    Changing.replacing (·.provideDirectory directory path)

/-- Makes a directory after those above it where they are missing; the names come with the innermost first. That
something else is in the place of one above it only shows at the directory itself. -/
def provideFromTop (directory : Location) (root : String) : List String → Changing FileFault Unit
  | [] => Changing.replacing (·.provideDirectory directory (Path.text { root, names := [] }))
  | name :: outer => do
    let path := Path.text { root, names := (name :: outer).reverse }
    let above : Path := { root, names := outer.reverse }
    if !(root.isEmpty && outer.isEmpty) && !(← get).occupied directory above.text then
      tryCatch (provideFromTop directory root outer) fun fault =>
        if fault.cause == .occupied then pure () else throw fault
    Changing.replacing (·.provideDirectory directory path)

end FileTree

/-- The text that bytes encode. -/
def decodeText? (content : ByteArray) : Option String := String.fromUTF8? content

/-- The text that bytes encode, with every line end as a line feed. -/
def decodeLines? (content : ByteArray) : Option String :=
  (decodeText? content).map fun text => String.ofList (Text.unifyLineEnds text.toList)

end SchemaBindings
