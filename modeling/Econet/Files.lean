import Econet.Table
import Econet.Text.Blank

/-!
# Trees of files

The files that the program reads and writes: a tree of directories with a working directory. A
path names a place in the tree, step by step, from the working directory on or, if it begins
with a slash, from the top.

## Main definitions

* `Files`: the files and directories of a tree
* `Files.resolve`: the place that a path names
* `Files.isPresent`: a file or directory has the path
* `Files.read`, `Files.readText`, `Files.write`: contents of files
* `Files.makeParents`: the directories above a path
* `Files.save`: a file is written with the directories above it

## Main results

* `Files.readText_write`, `Files.readText_save`: a file holds what was written to it last
-/

namespace Econet

open Text (pieces)

/-- Why a file cannot be read or written. -/
inductive FileError where
  | notFound
  | notADirectory
  | isADirectory
  | alreadyExists
  /-- The path, or one of its names, has too many bytes. -/
  | nameTooLong
  /-- The path cannot be handed to the system. -/
  | invalidName
  /-- The bytes are no text. -/
  | notText
  deriving DecidableEq, Repr

/-- The wording of an error. -/
def FileError.message : FileError → String
  | notFound => "No such file or directory (os error 2)"
  | notADirectory => "Not a directory (os error 20)"
  | isADirectory => "Is a directory (os error 21)"
  | alreadyExists => "File exists (os error 17)"
  | nameTooLong => "File name too long (os error 36)"
  | invalidName => "file name contained an unexpected NUL byte"
  | notText => "stream did not contain valid UTF-8"

/-- What has a name in a directory. -/
inductive Node where
  | file (bytes : ByteArray)
  | directory

/-- It is a directory. -/
def Node.isDirectory : Node → Bool
  | file _ => false
  | directory => true

/-- A place in the tree: the names from the top down. -/
abbrev Place := List String

/-- A tree of files and directories; the top directory needs no entry. -/
structure Files where
  nodes : Table Place Node
  /-- The directory from which paths lead. -/
  workingDirectory : Place

namespace Files

/-- The tree without files, with its working directory and those above it. -/
def empty (workingDirectory : Place) : Files where
  nodes := (List.range workingDirectory.length).foldl
    (fun ns n => ns.insert (workingDirectory.take (n + 1)) .directory) .empty
  workingDirectory

/-- What stands at a place. -/
def node? (fs : Files) (p : Place) : Option Node :=
  if p = [] then some .directory else fs.nodes.get? p

/-- A directory stands at a place. -/
def isDirectory (fs : Files) (p : Place) : Bool := (fs.node? p).any Node.isDirectory

/-! ### Paths -/

/-- The names of a path. -/
def namesOf (path : String) : List String :=
  (pieces (· == '/') path.toList).map String.ofList

/-- The name leads to where one is. Two slashes in a row, and a slash at the end, make empty
names. -/
def leadsNowhere (name : String) : Bool := name = "" || name = "."

/-- The most bytes that a name may have. -/
def longestName : Nat := 255

/-- The most bytes that a path may have. -/
def longestPath : Nat := 4095

/-- Why a path leads nowhere, whatever the tree is. -/
def pathError? (path : String) : Option FileError :=
  if path = "" then some .notFound
  else if path.toList.contains '\x00' then some .invalidName
  else if longestPath < path.utf8ByteSize then some .nameTooLong
  else none

/-- One step from a place that has to be a directory. -/
def step (fs : Files) (p : Place) (name : String) : Except FileError Place :=
  match fs.node? p with
  | some .directory =>
    if leadsNowhere name then .ok p
    else if name = ".." then .ok p.dropLast
    else if longestName < name.utf8ByteSize then .error .nameTooLong
    else .ok (p ++ [name])
  | some (.file _) => .error .notADirectory
  | none => .error .notFound

/-- The steps of several names. -/
def walk (fs : Files) (p : Place) : List String → Except FileError Place
  | [] => .ok p
  | name :: names =>
    match fs.step p name with
    | .ok q => fs.walk q names
    | .error e => .error e

/-- The place from which a path leads. -/
def start (fs : Files) (path : String) : Place :=
  if path.toList.head? = some '/' then [] else fs.workingDirectory

/-- The place to which names of a path lead. -/
def follow (fs : Files) (path : String) (names : List String) : Except FileError Place :=
  match pathError? path with
  | some e => .error e
  | none => fs.walk (fs.start path) names

/-- The place that a path names, whether or not something stands there. -/
def resolve (fs : Files) (path : String) : Except FileError Place := fs.follow path (namesOf path)

/-- Something stands where the path leads. -/
def isPresent (fs : Files) (path : String) : Bool :=
  match fs.resolve path with
  | .ok p => (fs.node? p).isSome
  | .error _ => false

/-! ### Contents -/

/-- The bytes of a file. -/
def read (fs : Files) (path : String) : Except FileError ByteArray :=
  match fs.resolve path with
  | .error e => .error e
  | .ok p =>
    match fs.node? p with
    | some (.file bytes) => .ok bytes
    | some .directory => .error .isADirectory
    | none => .error .notFound

/-- The text of a file. -/
def readText (fs : Files) (path : String) : Except FileError String :=
  match fs.read path with
  | .error e => .error e
  | .ok bytes =>
    match String.fromUTF8? bytes with
    | some s => .ok s
    | none => .error .notText

/-- The tree with a file at a place where no directory stands. -/
def put (fs : Files) (p : Place) (bytes : ByteArray) : Files :=
  { fs with nodes := fs.nodes.insert p (.file bytes) }

/-- The names above the last one if slashes follow it, as they follow the name of a directory.
The names `.` and `..` are those of directories without a slash, so they do not count. -/
def namesAbove? (path : String) : Option (List String) :=
  match (namesOf path).reverse with
  | "" :: names =>
    match names.dropWhile (· = "") with
    | name :: above => if name = "." || name = ".." then none else some above.reverse
    | [] => none
  | _ => none

/-- The place at which a path lets a file be written. A slash after the last name asks for a
directory, so then no file is written, whatever that name leads to. -/
def target (fs : Files) (path : String) : Except FileError Place :=
  match namesAbove? path with
  | none => fs.resolve path
  | some names =>
    -- The step that goes nowhere asks for a directory above the last name.
    match fs.follow path (names ++ ["."]) with
    | .ok _ => .error .isADirectory
    | .error e => .error e

/-- The tree after bytes are written to a file, which is created if it is missing. -/
def write (fs : Files) (path : String) (bytes : ByteArray) : Except FileError Files :=
  match fs.target path with
  | .error e => .error e
  | .ok p => if fs.isDirectory p then .error .isADirectory else .ok (fs.put p bytes)

/-- The tree after a text is written to a file. -/
def writeText (fs : Files) (path text : String) : Except FileError Files :=
  fs.write path text.toUTF8

/-! ### Directories -/

/-- The path of the directory above a path; it is empty where the path has one name only. -/
def parent (path : String) : String :=
  let significant := (namesOf path).reverse.dropWhile leadsNowhere
  String.intercalate "/" ((significant.drop 1).dropWhile leadsNowhere).reverse

/-- Makes the directories of some names below a place. Those that are made stay, also if a later
one cannot be made; `anew` says that some were made already. -/
def makeDirectories (fs : Files) (p : Place) (anew : Bool) :
    List String → Except FileError Unit × Files
  | [] => (.ok (), fs)
  | name :: names =>
    match fs.step p name with
    | .error e => (.error e, fs)
    | .ok q =>
      match fs.node? q with
      | some .directory => fs.makeDirectories q anew names
      | some (.file _) =>
        -- A path is asked for as a whole first, and then it leads through the file; where
        -- something of it is missing, it is asked for name by name.
        (.error (if names = [] || anew then .alreadyExists else .notADirectory), fs)
      | none => makeDirectories { fs with nodes := fs.nodes.insert q .directory } q true names

/-- Makes the directories above a path. -/
def makeParents (fs : Files) (path : String) : Except FileError Unit × Files :=
  match parent path with
  | "" => (.ok (), fs)
  | above =>
    match pathError? above with
    | some e => (.error e, fs)
    | none =>
      fs.makeDirectories (fs.start above) false
        ((namesOf above).filter fun name => !leadsNowhere name)

/-- Writes a text to a file after the directories above it are made. -/
def save (fs : Files) (path text : String) : Except FileError Unit × Files :=
  match fs.makeParents path with
  | (.error e, fs) => (.error e, fs)
  | (.ok (), fs) =>
    match fs.writeText path text with
    | .ok gs => (.ok (), gs)
    | .error e => (.error e, fs)

/-! ### Reading back -/

theorem node?_eq_of_isDirectory {fs : Files} {p : Place} (h : fs.isDirectory p = true) :
    fs.node? p = some .directory := by
  unfold isDirectory at h
  cases hn : fs.node? p with
  | none => simp [hn] at h
  | some n => cases n <;> simp_all [Node.isDirectory]

theorem isDirectory_put {fs : Files} {p : Place} {bytes : ByteArray} (h : fs.isDirectory p = false)
    (q : Place) : (fs.put p bytes).isDirectory q = fs.isDirectory q := by
  simp only [isDirectory, node?, put, Table.get?_insert] at h ⊢
  by_cases hq : q = []
  · simp [hq]
  · by_cases hpq : p = q
    · subst hpq
      simp_all [Node.isDirectory]
    · simp [hq, hpq]

theorem step_eq_ok {fs : Files} {p q : Place} {name : String} (h : fs.step p name = .ok q) :
    fs.isDirectory p = true := by
  unfold step at h
  split at h
  · next hn => simp [isDirectory, hn, Node.isDirectory]
  · simp at h
  · simp at h

theorem step_congr {fs gs : Files} {p : Place} {name : String} (hf : fs.isDirectory p = true)
    (hg : gs.isDirectory p = true) : gs.step p name = fs.step p name := by
  simp [step, node?_eq_of_isDirectory hf, node?_eq_of_isDirectory hg]

theorem walk_congr {fs gs : Files} (h : ∀ q, gs.isDirectory q = fs.isDirectory q)
    {p q : Place} {names : List String} (hw : fs.walk p names = .ok q) :
    gs.walk p names = .ok q := by
  induction names generalizing p with
  | nil => simpa [walk] using hw
  | cons name names ih =>
    simp only [walk] at hw ⊢
    cases hs : fs.step p name with
    | error e => simp [hs] at hw
    | ok r =>
      have hd := step_eq_ok hs
      rw [step_congr hd ((h p).trans hd), hs]
      simp only [hs] at hw
      exact ih hw

theorem resolve_of_target {fs : Files} {path : String} {p : Place}
    (h : fs.target path = .ok p) : fs.resolve path = .ok p := by
  unfold target at h
  split at h
  · exact h
  · split at h <;> simp at h

theorem readText_write {fs gs : Files} {path text : String} (h : fs.writeText path text = .ok gs) :
    gs.readText path = .ok text := by
  simp only [writeText, write] at h
  split at h
  · simp at h
  · next p hr =>
    split at h
    · simp at h
    · next hd =>
      simp only [Except.ok.injEq] at h
      subst h
      have hd : fs.isDirectory p = false := by simpa using hd
      -- The top is a directory, so the file stands below it ...
      have hp : p ≠ [] := by
        rintro rfl
        simp [isDirectory, node?, Node.isDirectory] at hd
      -- ... writing it made or removed no directory, so the path leads to it as before ...
      have hres : (fs.put p text.toUTF8).resolve path = .ok p := by
        have hr := resolve_of_target hr
        unfold resolve follow at hr ⊢
        split at hr
        · simp at hr
        · exact walk_congr (isDirectory_put hd) hr
      -- ... what stands there is what was written ...
      have hnode : (fs.put p text.toUTF8).node? p = some (.file text.toUTF8) := by
        simp [node?, hp, put]
      -- ... and those bytes are a text.
      have hutf : String.fromUTF8? text.toUTF8 = some text := by
        have hv : text.toUTF8.IsValidUTF8 := text.isValidUTF8
        rw [String.fromUTF8?, dif_pos hv]
        rfl
      unfold readText read
      rw [hres]
      simp only [hnode, hutf]

theorem readText_save {fs gs : Files} {path text : String}
    (h : fs.save path text = (.ok (), gs)) : gs.readText path = .ok text := by
  unfold save at h
  split at h
  · simp at h
  · split at h
    · next hw =>
      simp only [Prod.mk.injEq, true_and] at h
      exact readText_write (h ▸ hw)
    · simp at h

/-- What can be read is there. -/
theorem isPresent_of_readText {fs : Files} {path text : String}
    (h : fs.readText path = .ok text) : fs.isPresent path := by
  unfold readText read at h
  unfold isPresent
  split at h
  · cases h
  · next bytes hbytes =>
    split at hbytes
    · cases hbytes
    · next p hp =>
      rw [hp]
      split at hbytes
      · next hnode => simp [hnode]
      · cases hbytes
      · cases hbytes

/-! ### Building a tree -/

/-- The tree with one more file, and the directories above it. -/
def add (fs : Files) (path : String) (bytes : ByteArray) : Files :=
  let fs := (fs.makeParents path).2
  (fs.write path bytes).toOption.getD fs

/-- The tree with one more directory. -/
def addDirectory (fs : Files) (path : String) : Files :=
  (fs.makeDirectories (fs.start path) false (namesOf path)).2

/-- The tree of the given files below a working directory. -/
def ofList (workingDirectory : Place) (files : List (String × ByteArray)) : Files :=
  files.foldl (fun fs f => fs.add f.1 f.2) (empty workingDirectory)

end Files

end Econet
