import RowMapper.Text.Base16
import RowMapper.Text.Split

/-!
# Where a database is

The place of a database is the path of a file or a URI with the scheme `file`.  A URI has a path and
options: how the file may be used, whether connections share its pages, and the system that reads
and writes it.

* `Location.ofPath?` — a place as a path or URI names it;
* `Location.resolve` — the directory and file names on the way to a file;
* `Location.canOpen` — whether a database can be opened there.
-/

namespace RowMapper.Sqlite.OneTable

/-- How the file of a database may be used. -/
inductive Access where
  | readOnly
  | readWrite
  /-- The file is made if it is not there. -/
  | create
  /-- There is no file: the database is in memory. -/
  | memory
  deriving DecidableEq, Repr

/-- The access of a name. -/
def Access.ofName? : String → Option Access
  | "ro" => some readOnly
  | "rw" => some readWrite
  | "rwc" => some create
  | "memory" => some memory
  | _ => none

/-- Whether a use of one kind may become one of another: a file is never used more than before. -/
def Access.mayBecome : (old new : Access) → Bool
  | _, memory | memory, _ | create, _ => true
  | readWrite, new => new ≠ create
  | readOnly, new => new = readOnly

/-- Where a database is. -/
structure Location where
  /-- The path of the file; without one, the database is temporary. -/
  file : List Char
  access : Access
  /-- The system that reads and writes the file. -/
  system : String
  deriving DecidableEq, Repr

namespace Location

/-- The system that is used if no other is asked for. -/
def defaultSystem : String := "unix"

/-- The system that keeps files in memory. -/
def memorySystem : String := "memdb"

/-- The systems that there are. -/
def systems : List String :=
  [defaultSystem, "unix-none", "unix-dotfile", "unix-excl", memorySystem]

/-- A file that is used as far as it can be. -/
def ofFile (file : List Char) : Location := ⟨file, .create, defaultSystem⟩

/-- A part of a URI with each percent sign before two digits replaced by the character of their
number.  The null character ends the part. -/
def decode : List Char → List Char
  | '%' :: a :: b :: rest =>
    match Base16.number? [a, b] with
    | some 0 => []
    | some n => Char.ofNat n :: decode rest
    | none => '%' :: decode (a :: b :: rest)
  | c :: rest => c :: decode rest
  | [] => []

/-- The text before the first occurrence of a character, and the text after it. -/
def cut (mark : Char) (text : List Char) : List Char × List Char :=
  (text.takeWhile (· ≠ mark), (text.dropWhile (· ≠ mark)).tail)

/-- The names and values of the options of a URI.  One without a name does not count. -/
def options (query : List Char) : List (String × String) :=
  (Split.split '&' query).filterMap fun item =>
    let (name, value) := cut '=' item
    let name := decode name
    if name.isEmpty then none else some (String.ofList name, String.ofList (decode value))

/-- The location with what an option says, unless the option has no such value. -/
def apply (location : Location) : String × String → Option Location
  | ("vfs", value) => some { location with system := value }
  | ("cache", value) => if value ∈ ["shared", "private"] then some location else none
  | ("mode", value) => do
    let access ← Access.ofName? value
    if location.access.mayBecome access then some { location with access } else none
  | _ => some location

/-- What follows the host in a URI after its scheme: there is no host but this one. -/
def skipHost : List Char → Option (List Char)
  | '/' :: '/' :: rest =>
    if String.ofList (rest.takeWhile (· ≠ '/')) ∈ ["", "localhost"] then
      some (rest.dropWhile (· ≠ '/'))
    else none
  | rest => some rest

/-- The place that a URI names after its scheme.  A fragment does not count. -/
def ofUri? (uri : List Char) : Option Location := do
  let (place, _) := cut '#' (← skipHost uri)
  let (file, query) := cut '?' place
  (options query).foldlM apply (ofFile (decode file))

/-- The place that a path or a URI names, if its options make sense. -/
def ofPath? (path : String) : Option Location := do
  if path.toList.contains '\x00' then none
  let location ← match path.toList with
    | 'f' :: 'i' :: 'l' :: 'e' :: ':' :: uri => ofUri? uri
    | file => ofFile file
  if location.system ∈ systems then some location else none

/-- Whether the database is not kept in a file. -/
def isTransient (location : Location) : Bool :=
  location.access = .memory || location.system = memorySystem ||
    String.ofList location.file ∈ ["", ":memory:"]

/-- The names on the way to a file from the root, or from where the program runs, which has the name
of one dot.  Two dots lead back. -/
def resolve (file : List Char) : List String :=
  let start := if file.head? = some '/' then [] else ["."]
  ((Split.split '/' file).map String.ofList).foldl (fun names name =>
    if name = "" ∨ name = "." then names
    else if name = ".." then names.dropLast
    else names ++ [name]) start

/-- How many bytes a file name may have. -/
def nameLimit : Nat := 255

/-- How many bytes a path may have. -/
def pathLimit : Nat := 504

/-- Whether a database can be opened at a place, where `directories` are those that there are and no
file is there yet.  A file needs the directory that it is to be in, and is no directory itself. -/
def canOpen (directories : List String) (location : Location) : Bool :=
  location.isTransient ||
    let names := resolve location.file
    let known := directories.map (resolve ·.toList)
    location.access = .create && known.contains names.dropLast && !known.contains names &&
      names.all (·.utf8ByteSize ≤ nameLimit) && ("/".intercalate names).utf8ByteSize < pathLimit

/-- Whether a database at the place can be changed. -/
def isWritable (location : Location) : Bool := location.access ≠ .readOnly

example : ofPath? "file:/a%20b?mode=memory&x=y#z" =
    some ⟨['/', 'a', ' ', 'b'], .memory, "unix"⟩ := by decide +kernel
example : ofPath? "file://elsewhere/a" = none := by decide +kernel
example : (ofPath? "file:a?mode=ro&mode=rw") = none := by decide +kernel
example : resolve "/a/./b//../c".toList = ["a", "c"] := by decide +kernel

end Location

end RowMapper.Sqlite.OneTable
