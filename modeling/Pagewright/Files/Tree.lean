import Pagewright.Distinct
import Pagewright.Files.Path

/-!
# File trees

A file tree says what stands at a place: a folder, or a file with its content. A place is the list
of names from the top. A path is followed name by name from the working folder; every name but the
last has to lead into a folder.

A file is written in three steps. The folders in front of it are made, as far as they are missing;
the content is put into an unfinished file beside the finished one, under a name that is not taken;
and the unfinished file is moved to its place, where it takes the place of a file that was there.
When the content cannot be put or the file cannot be moved, the unfinished file is removed. Folders
that were made stay.

A step fails when the tree does not allow it, and also when the system refuses it: the disk may be
full, or rights may be missing. What the system refuses is given to a write. It lets a file go that
was begun.
-/

namespace Pagewright

/-- What stands at a place. -/
inductive FileEntry (κ : Type) where
  | folder
  | file (content : κ)

/-- The names from the top of a tree. -/
abbrev Place := List String

/-- A file tree. The top is a folder in any case. -/
structure FileTree (κ : Type) where
  entries : List (Place × FileEntry κ) := []

/-- Why a name along a path cannot be followed or made. -/
inductive PathFault where
  | missing
  | present
  | notFolder
  | longName
  | refused (report : String)
deriving DecidableEq

/-- The report of a fault at a path. -/
def PathFault.message (fault : PathFault) (path : Path) : String :=
  (match fault with
    | .missing => "[Errno 2] No such file or directory"
    | .present => "[Errno 17] File exists"
    | .notFolder => "[Errno 20] Not a directory"
    | .longName => "[Errno 36] File name too long"
    | .refused report => report) ++ ": '" ++ path.text ++ "'"

/-- A step of a write. -/
inductive WriteStep where
  | makeFolder (path : Path)
  | begin
  | fill
  | move
deriving DecidableEq

/-- What the system refuses: its report for each step that it does not carry out. -/
abbrev Refusals := WriteStep → Option String

/-- Every step is carried out. -/
def Refusals.nothing : Refusals := fun _ => none

/-- The greatest number of bytes of a name. -/
def longestName : Nat := 255

/-- The greatest number of bytes of the text of a path. -/
def longestPath : Nat := 4095

/-- The number of bytes by which the name of an unfinished file may exceed that of the finished
one. -/
def unfinishedExcess : Nat := 10

/-- The place to which a name leads from another. -/
def Place.step (place : Place) (name : String) : Place :=
  if name = ".." then place.dropLast else place ++ [name]

/-- The place beside a place whose name is longer by a tilde. -/
def Place.longer (place : Place) : Place := place.dropLast ++ [place.getLastD "" ++ "~"]

/-- The first of ever longer names at a place that is not taken. Each taken place that is met is
struck out, since longer names cannot meet it again. -/
def freePlace (place : Place) (taken : List Place) : Place :=
  if _h : place ∈ taken then freePlace place.longer (strike place taken) else place
termination_by taken.length
decreasing_by exact length_strike_lt _h

theorem Place.length_longer (place : Place) : place.longer.length = max 1 place.length := by
  simp only [Place.longer, List.length_append, List.length_dropLast, List.length_singleton]
  omega

/-- The number of characters in the last name of a place. -/
def Place.width (place : Place) : Nat := (place.getLastD "").length

theorem Place.width_longer (place : Place) : place.longer.width = place.width + 1 := by
  have one : "~".length = 1 := by decide
  simp [Place.width, Place.longer, List.getLastD_eq_getLast?, one]

/-- The search of a free place ends at no taken place at least as wide as its start. -/
theorem freePlace_free (place : Place) (taken : List Place) :
    place.width ≤ (freePlace place taken).width ∧ freePlace place taken ∉ taken := by
  induction h : taken.length using Nat.strongRecOn generalizing place taken with
  | ind n ih =>
    unfold freePlace
    split
    · rename_i mem
      obtain ⟨wide, free⟩ := ih _ (h ▸ length_strike_lt mem) place.longer (strike place taken) rfl
      rw [Place.width_longer] at wide
      refine ⟨by omega, fun mem => free (mem_strike.2 ⟨mem, fun eq => ?_⟩)⟩
      rw [eq] at wide
      omega
    · exact ⟨Nat.le_refl _, by assumption⟩

theorem freePlace_not_mem (place : Place) (taken : List Place) :
    freePlace place taken ∉ taken := (freePlace_free place taken).2

namespace FileTree

variable {κ : Type}

/-- What stands at a place. -/
def look? (tree : FileTree κ) (place : Place) : Option (FileEntry κ) :=
  if place.isEmpty then some .folder else tree.entries.lookup place

/-- Puts an entry at a place. -/
def put (tree : FileTree κ) (place : Place) (entry : FileEntry κ) : FileTree κ where
  entries := tree.entries.filter (fun e => e.1 != place) ++ [(place, entry)]

/-- Removes what stands at a place. -/
def remove (tree : FileTree κ) (place : Place) : FileTree κ where
  entries := tree.entries.filter fun e => e.1 != place

theorem lookup_filter_ne {place other : Place} (h : other ≠ place) :
    (entries : List (Place × FileEntry κ)) →
    (entries.filter fun e => e.1 != place).lookup other = entries.lookup other
  | [] => rfl
  | (p, entry) :: rest => by
    have ih := lookup_filter_ne h rest
    by_cases hp : p = place
    · have hne : (other == place) = false := by simp [h]
      simp [hp, List.lookup_cons, hne, ih]
    · by_cases ho : other == p <;> simp [hp, List.lookup_cons, ho, ih]

theorem lookup_filter_self (place : Place) (entries : List (Place × FileEntry κ)) :
    (entries.filter fun e => e.1 != place).lookup place = none := by
  simp only [List.lookup_eq_none_iff, List.mem_filter]
  intro e mem
  have ne : e.1 ≠ place := by simpa using mem.2
  simpa using ne.symm

@[simp]
theorem look?_nil (tree : FileTree κ) : tree.look? [] = some .folder := rfl

/-- What is put at a place stands there. -/
theorem look?_put_self (tree : FileTree κ) {place : Place} (h : place ≠ [])
    (entry : FileEntry κ) : (tree.put place entry).look? place = some entry := by
  simp [look?, put, h, List.lookup_append, lookup_filter_self]

/-- Putting something at a place leaves all others. -/
theorem look?_put_of_ne (tree : FileTree κ) {place other : Place} (h : other ≠ place)
    (entry : FileEntry κ) : (tree.put place entry).look? other = tree.look? other := by
  have hne : (other == place) = false := by simp [h]
  simp [look?, put, List.lookup_append, lookup_filter_ne h, List.lookup_cons, hne]

/-- Moves a file to a place, where it replaces a file but no folder. -/
def moveFile (tree : FileTree κ) (source target : Place) : Option (FileTree κ) :=
  match tree.look? source, tree.look? target with
  | some (.file _), some .folder => none
  | some (.file content), _ => some ((tree.remove source).put target (.file content))
  | _, _ => none

/-- Follows names from a folder, each into a folder. -/
def follow (tree : FileTree κ) (place : Place) : List String → Except PathFault Place
  | [] => .ok place
  | name :: rest =>
    if longestName < name.utf8ByteSize then .error .longName
    else match tree.look? (place.step name) with
      | none => .error .missing
      | some (.file _) => .error .notFolder
      | some .folder => tree.follow (place.step name) rest

/-- The place where a path starts. -/
def start (folder : Place) (path : Path) : Place := if path.isAbsolute then [] else folder

/-- The place that a path leads to; nothing needs to stand there. -/
def locate (tree : FileTree κ) (folder : Place) (path : Path) : Except PathFault Place := do
  if longestPath < path.text.utf8ByteSize then throw .longName
  let above ← tree.follow (start folder path) path.names.dropLast
  match path.names.getLast? with
  | none => return above
  | some name => if longestName < name.utf8ByteSize then throw .longName else return above.step name

/-- What a path leads to. -/
def find? (tree : FileTree κ) (folder : Place) (path : Path) : Option (FileEntry κ) :=
  match tree.locate folder path with
  | .ok place => tree.look? place
  | .error _ => none

/-- Does a path lead to a folder? -/
def isFolder (tree : FileTree κ) (folder : Place) (path : Path) : Bool :=
  match tree.find? folder path with
  | some .folder => true
  | _ => false

/-- Makes one folder. -/
def makeFolder (tree : FileTree κ) (folder : Place) (path : Path)
    (refusals : Refusals := .nothing) : Except PathFault (FileTree κ) := do
  let place ← tree.locate folder path
  match tree.look? place, refusals (.makeFolder path) with
  | some _, _ => throw .present
  | none, some report => throw (.refused report)
  | none, none => return tree.put place .folder

/-- A tree after an attempt to change it, and what stopped the attempt. -/
structure Attempt (κ ε : Type) where
  tree : FileTree κ
  fault : Option ε

/-- Makes one folder, and takes one that is there as made. -/
def settleFolder (tree : FileTree κ) (folder : Place) (path : Path)
    (refusals : Refusals := .nothing) : Attempt κ (PathFault × Path) :=
  match tree.makeFolder folder path refusals with
  | .ok tree => ⟨tree, none⟩
  | .error fault => if tree.isFolder folder path then ⟨tree, none⟩ else ⟨tree, some (fault, path)⟩

/-- Makes the folder of a path, given by its names from the last to the first, together with the
missing folders in front of it. -/
def makeFolders (tree : FileTree κ) (folder : Place) (root : PathRoot) (names : List String)
    (refusals : Refusals := .nothing) : Attempt κ (PathFault × Path) :=
  match names with
  | [] => tree.settleFolder folder ⟨root, []⟩ refusals
  | name :: above =>
    let path : Path := ⟨root, (name :: above).reverse⟩
    match tree.makeFolder folder path refusals with
    | .error .missing =>
      let made := tree.makeFolders folder root above refusals
      match made.fault with
      | none => made.tree.settleFolder folder path refusals
      | some _ => made
    | _ => tree.settleFolder folder path refusals

end FileTree

/-- Why a file cannot be written. -/
inductive WriteFault where
  | zeroCharacter
  | folder (fault : PathFault) (path : Path)
  | unwritable
  | refused (report : String)
deriving DecidableEq

/-- The report of a failed write. -/
def WriteFault.message (fault : WriteFault) (destination : Path) : String :=
  "Failed to write archive '" ++ destination.text ++ "'" ++
    match fault with
    | .folder fault path => ": " ++ fault.message path
    | .refused report => ": " ++ report
    | _ => ""

namespace FileTree

variable {κ : Type}

/-- Does the text hold a zero character? -/
def holdsZero (text : String) : Bool := text.toList.contains '\x00'

/-- The place of an unfinished file in a folder. -/
def unfinishedPlace (tree : FileTree κ) (above : Place) (name : String) : Place :=
  freePlace (above ++ ["." ++ name ++ "."]) (tree.entries.map Prod.fst)

/-- Writes a file into a folder that is there: under an unfinished name first, and moved to its
place then. How much of the content was put before a refusal does not matter, since the unfinished
file goes. -/
def writeInto (tree : FileTree κ) (above target : Place) (name : String) (content : κ)
    (refusals : Refusals := .nothing) : Attempt κ WriteFault :=
  match refusals .begin with
  | some report => ⟨tree, some (.refused report)⟩
  | none =>
    let unfinished := tree.unfinishedPlace above name
    let started := tree.put unfinished (.file content)
    match (refusals .fill).or (refusals .move) with
    | some report => ⟨started.remove unfinished, some (.refused report)⟩
    | none => match started.moveFile unfinished target with
      | some tree => ⟨tree, none⟩
      | none => ⟨started.remove unfinished, some .unwritable⟩

/-- Writes a file into the folder of a path, which is there. -/
def finish (tree : FileTree κ) (folder : Place) (path : Path) (content : κ)
    (refusals : Refusals := .nothing) : Attempt κ WriteFault :=
  if holdsZero path.name then ⟨tree, some .zeroCharacter⟩
  else if longestName < path.name.utf8ByteSize + unfinishedExcess then ⟨tree, some .unwritable⟩
  else match tree.locate folder path.parent, tree.locate folder path with
    | .ok above, .ok target => tree.writeInto above target path.name content refusals
    | _, _ => ⟨tree, some .unwritable⟩

/-- Writes a file together with the folders in front of it. -/
def write (tree : FileTree κ) (folder : Place) (path : Path) (content : κ)
    (refusals : Refusals := .nothing) : Attempt κ WriteFault :=
  if holdsZero path.parent.text then ⟨tree, some .zeroCharacter⟩
  else
    let made := tree.makeFolders folder path.root path.names.dropLast.reverse refusals
    match made.fault with
    | some (fault, path) => ⟨made.tree, some (.folder fault path)⟩
    | none => made.tree.finish folder path content refusals

/-- The entries below a folder with their paths from there, in the order of the texts of the
paths. -/
def listing (tree : FileTree κ) (folder : Place) : List (String × FileEntry κ) :=
  let below := tree.entries.filterMap fun e =>
    if folder.length < e.1.length ∧ folder.isPrefixOf e.1 then
      some ("/".intercalate (e.1.drop folder.length), e.2)
    else none
  below.mergeSort fun a b => decide (a.1 ≤ b.1)

end FileTree

end Pagewright
