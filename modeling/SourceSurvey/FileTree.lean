import SourceSurvey.IoError
import SourceSurvey.Path

/-!
A tree of files, directories, symbolic links and special files, and finding one's way in it. A path is
followed from the top of the tree, whether it is absolute or not: the top is both the root of the file
system and the directory that one works in. A place in the tree is the list of the names that lead to
it, the last one first.
-/

namespace SourceSurvey

inductive Node where
  /-- A regular file, with what reading it gives. -/
  | file (read : Except IoError (List UInt8))
  | link (target : Path)
  /-- A pipe, a socket or a device, with what reading it gives. -/
  | special (read : Except IoError (List UInt8))
  /-- A directory may be barred: one can pass through it, but opening it fails. -/
  | directory (bar : Option IoError) (entries : List (Name × Node))
deriving Inhabited

/-- Names from the innermost directory outwards. -/
abbrev Trail := List Name

inductive Node.Kind where
  | file
  | link
  | special
  | directory
deriving DecidableEq, Repr

namespace Node

def kind : Node → Kind
  | file _ => .file
  | link _ => .link
  | special _ => .special
  | directory _ _ => .directory

def child? (node : Node) (name : Name) : Option Node :=
  match node with
  | directory _ entries => entries.lookup name
  | _ => none

/-- The node at a place. -/
def at? (top : Node) : Trail → Option Node
  | [] => some top
  | name :: place => (top.at? place).bind fun node ↦ node.child? name

/-- Longest name of an entry, in bytes. -/
def maxName : Nat := 255

/-- Longest path, in bytes. -/
def maxPath : Nat := 4095

/-- How many links may be followed on the way to one place. -/
def maxLinks : Nat := 40

/-- The steps of a path; a separator at the end asks for a directory, as a dot there does. -/
def pathSteps (path : Path) : List Name :=
  path.steps ++ if path.getLast? = some Path.slash then [[Path.dot]] else []

/-- Where a path leads. -/
inductive Found where
  | found (place : Trail) (node : Node)
  /-- Only the last name is missing. -/
  | missing (place : Trail) (name : Name)
  | failed (e : IoError)

/-- Follows steps from a place; `links` more links may be followed. A link at the last step is
followed if `last` says so. -/
def follow (top : Node) (last : Bool) (links : Nat) (place : Trail) (steps : List Name) : Found :=
  match top.at? place with
  | none => .failed .notFound
  | some node =>
    match steps with
    | [] => .found place node
    | step :: rest =>
      match node with
      | .file _ => .failed .notDirectory
      | .link _ => .failed .notDirectory
      | .special _ => .failed .notDirectory
      | .directory _ entries =>
        if step = [Path.dot] then top.follow last links place rest
        else if step = [Path.dot, Path.dot] then top.follow last links place.tail rest
        else if maxName < step.length then .failed .nameTooLong
        else
          match entries.lookup step with
          | none => if rest.isEmpty then .missing place step else .failed .notFound
          | some (.link target) =>
            if rest.isEmpty && !last then .found (step :: place) (.link target)
            else
              match links with
              | 0 => .failed .tooManyLinks
              | links + 1 =>
                if target.isEmpty then .failed .notFound
                else
                  let from_ := if target.isAbsolute then [] else place
                  top.follow last links from_ (pathSteps target ++ rest)
          | some _ => top.follow last links (step :: place) rest
termination_by (links, steps.length)

/-- Where a path leads from the top of the tree. -/
def find (top : Node) (last : Bool) (path : Path) : Found :=
  if path.contains 0 then .failed .zeroInName
  else if path.isEmpty then .failed .notFound
  else if maxPath < path.length then .failed .nameTooLong
  else top.follow last maxLinks [] (pathSteps path)

def locate (top : Node) (last : Bool) (path : Path) : Except IoError (Trail × Node) :=
  match top.find last path with
  | .found place node => .ok (place, node)
  | .missing _ _ => .error .notFound
  | .failed e => .error e

/-- What kind of entry a path leads to, behind any links. -/
def kindAt (top : Node) (path : Path) : Except IoError Node.Kind :=
  (top.locate true path).map fun found ↦ found.2.kind

/-- What kind of entry a path leads to, which may be a link itself. -/
def ownKindAt (top : Node) (path : Path) : Except IoError Node.Kind :=
  (top.locate false path).map fun found ↦ found.2.kind

/-- The place a path leads to, behind any links, once it is opened there. -/
def placeAt (top : Node) (path : Path) : Except IoError Trail :=
  match top.locate true path with
  | .error e => .error e
  | .ok (_, .directory (some e) _) => .error e
  | .ok (place, _) => .ok place

/-- The entries of the directory a path leads to. -/
def listAt (top : Node) (path : Path) : Except IoError (List (Name × Node.Kind)) :=
  match top.locate true path with
  | .error e => .error e
  | .ok (_, .directory none entries) => .ok (entries.map fun entry ↦ (entry.1, entry.2.kind))
  | .ok (_, .directory (some e) _) => .error e
  | .ok _ => .error .notDirectory

/-- The bytes that reading the entry a path leads to gives. -/
def readAt (top : Node) (path : Path) : Except IoError (List UInt8) :=
  match top.locate true path with
  | .error e => .error e
  | .ok (_, .file read) => read
  | .ok (_, .special read) => read
  | .ok _ => .error .isDirectory

/-! ## Changes -/

def empty : Node := .directory none []

def setEntry (name : Name) (node : Node) : List (Name × Node) → List (Name × Node)
  | [] => [(name, node)]
  | entry :: entries =>
    if entry.1 = name then (name, node) :: entries else entry :: setEntry name node entries

/-- Changes the entries of a directory; nothing happens to other nodes. -/
def mapEntries (f : List (Name × Node) → List (Name × Node)) : Node → Node
  | .directory bar entries => .directory bar (f entries)
  | node => node

/-- Changes the directory at a place given by names from the outside in. -/
def mapAt (f : List (Name × Node) → List (Name × Node)) : List Name → Node → Node
  | [], node => node.mapEntries f
  | name :: names, .directory bar entries =>
    match entries.lookup name with
    | some child => .directory bar (setEntry name (mapAt f names child) entries)
    | none => .directory bar entries
  | _ :: _, node => node

/-- Puts a node under a name into the directory at a place. -/
def put (top : Node) (place : Trail) (name : Name) (node : Node) : Node :=
  mapAt (setEntry name node) place.reverse top

def drop (top : Node) (place : Trail) (name : Name) : Node :=
  mapAt (fun entries ↦ entries.filter fun entry ↦ entry.1 != name) place.reverse top

/-- Makes the directories that lead from a place along steps, where they are missing. -/
def makeDirectories? (top : Node) (place : Trail) : List Name → Option Node
  | [] => if (top.at? place).map kind = some .directory then some top else none
  | step :: rest =>
    match top.follow true maxLinks place [step] with
    | .found next _ => top.makeDirectories? next rest
    | .missing at_ name => (top.put at_ name empty).makeDirectories? (name :: at_) rest
    | .failed _ => none

/-- One change of a tree. -/
inductive Change where
  | write (path : Path) (content : List UInt8)
  | makeDirectory (path : Path)
  | makeLink (path : Path) (target : Path)
  | remove (path : Path)

/-- Writes a file, in the place of one that is there. -/
def writeFile? (top : Node) (path : Path) (content : List UInt8) : Option Node :=
  match top.find true path with
  | .found (name :: place) (.file _) => some (top.put place name (.file (.ok content)))
  | .missing place name => some (top.put place name (.file (.ok content)))
  | _ => none

/-- Makes a link, where there is nothing else. -/
def makeLink? (top : Node) (path target : Path) : Option Node :=
  match top.find false path with
  | .missing place name => some (top.put place name (.link target))
  | _ => none

def remove? (top : Node) (path : Path) : Option Node :=
  match top.find false path with
  | .found (name :: place) _ => some (top.drop place name)
  | _ => none

/-- The tree after a change, if it can be made; the directories above its path are made where they are
missing. -/
def after? (top : Node) : Change → Option Node
  | .write path content =>
    (top.makeDirectories? [] path.steps.dropLast).bind (·.writeFile? path content)
  | .makeDirectory path => top.makeDirectories? [] path.steps
  | .makeLink path target =>
    (top.makeDirectories? [] path.steps.dropLast).bind (·.makeLink? path target)
  | .remove path => top.remove? path

/-- Makes a change. One that cannot be made leaves the tree as it is. -/
def apply (top : Node) (change : Change) : Node := (top.after? change).getD top

end Node

end SourceSurvey
