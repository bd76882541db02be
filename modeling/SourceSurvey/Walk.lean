import SourceSurvey.Encoding.Decode
import SourceSurvey.Error
import SourceSurvey.FileTree
import SourceSurvey.Log
import SourceSurvey.Settings

/-!
Walking a directory tree. Entries come in the order of their names, a directory before what is in it.
An excluded entry is passed over with everything below it; of the files that are left, those of an
accepted type are decoded and handed on. The first failure ends the walk.

Handing on a file may change the tree. A directory is listed once, when it is reached.
-/

namespace SourceSurvey

/-- A file that a walk hands on. -/
structure FoundFile where
  path : Path
  /-- The name up to its last dot. -/
  stem : String
  /-- The rest of the name, from the dot on. -/
  extension : String
  content : String

/-- What a walk runs in: the tree, the events reported so far, and what its caller keeps. -/
structure World (σ : Type) where
  tree : Node
  log : Array LogEvent
  kept : σ

/-- Steps that may report events, change what the caller keeps, and fail. What was reported before a
failure stays. -/
abbrev Run (σ : Type) := ExceptT SurveyError (StateM (World σ))

def report {σ : Type} (level : Level) (message : String) (fields : List (String × String)) :
    Run σ Unit :=
  modify fun world ↦ { world with log := world.log.push ⟨level, message, fields⟩ }

namespace Walk

structure Entry where
  path : Path
  name : Name
  kind : Node.Kind

/-- A directory under way: its path, and what is still to come of its listing. -/
structure Frame where
  path : Path
  pending : Except IoError (List Entry)

/-- The order of bytes, from the front. -/
def nameBefore : Name → Name → Bool
  | [], _ => true
  | _ :: _, [] => false
  | a :: as, b :: bs => if a = b then nameBefore as bs else a < b

/-- Opens a directory: its entries in the order of their names. -/
def openDirectory (tree : Node) (path : Path) : Frame :=
  ⟨path, (tree.listAt path).map fun entries ↦
    (entries.mergeSort fun a b ↦ nameBefore a.1 b.1).map fun entry ↦
      ⟨path.join entry.1, entry.1, entry.2⟩⟩

/-- The innermost directory under way that a path leads to. -/
def ancestorAt (tree : Node) (place : Trail) : List Frame → Except IoError (Option Path)
  | [] => .ok none
  | frame :: frames => do
    if (← tree.placeAt frame.path) = place then pure (some frame.path)
    else ancestorAt tree place frames

/-- What a link stands for when links are followed: the kind of its target. A directory is opened, and
must not be one that is under way. -/
def resolve (tree : Node) (frames : List Frame) (entry : Entry) : Except WalkFailure Entry := do
  match tree.locate true entry.path with
  | .error e => .error (.io (some entry.path) e)
  | .ok (_, .directory (some e) _) => .error (.io none e)
  | .ok (place, .directory none _) =>
    match ancestorAt tree place frames with
    | .error e => .error (.io none e)
    | .ok (some ancestor) => .error (.loop entry.path ancestor)
    | .ok none => .ok { entry with kind := .directory }
  | .ok (_, node) => .ok { entry with kind := node.kind }

def accepts (fileTypes : List String) (name : Name) : Bool :=
  fileTypes.isEmpty ||
    match (Path.extension? name).bind Encoding.Utf8.strict? with
    | some extension => fileTypes.contains (String.ofList (extension.toList.map Char.toLower))
    | none => false

/-- Reads and decodes the file of an entry. -/
def readFile {σ : Type} (encoding : Encoding) (entry : Entry) : Run σ FoundFile := do
  match (← get).tree.readAt entry.path with
  | .error e => throw (.io entry.path e)
  | .ok bytes =>
    let decoded := encoding.decode bytes
    if decoded.malformed then
      report .warn "file contains bytes invalid for its encoding; replaced with U+FFFD"
        [("path", entry.path.display), ("encoding", decoded.used.name)]
    let extension :=
      match Path.extension? entry.name with
      | some e => "." ++ Encoding.Utf8.lossy e
      | none => ""
    pure ⟨entry.path, Encoding.Utf8.lossy (Path.stem entry.name), extension, decoded.text⟩

/-- What a walk needs to know at every step. -/
structure Plan where
  settings : WalkSettings
  encoding : Encoding
  exclusions : Exclusions

/-- Deals with an entry; gives back the directories under way behind it, and whether a file was
handed on. -/
def visit {σ : Type} (plan : Plan) (onFile : FoundFile → Run σ Unit) (frames : List Frame)
    (entry : Entry) : Run σ (List Frame × Bool) := do
  let tree := (← get).tree
  let entry ←
    if plan.settings.followLinks && entry.kind = .link then
      match resolve tree frames entry with
      | .ok entry => pure entry
      | .error e => throw (.walk e)
    else pure entry
  let isDirectory := entry.kind = .directory
  if plan.exclusions.excludes entry.path isDirectory then
    report .debug "excluded" [("path", entry.path.display)]
    pure (frames, false)
  else if isDirectory then
    pure (openDirectory tree entry.path :: frames, false)
  else if entry.kind = .file && accepts plan.settings.fileTypes entry.name then
    onFile (← readFile plan.encoding entry)
    pure (frames, true)
  else pure (frames, false)

/-- Goes on with the directories under way, for at most `steps` steps. -/
def go {σ : Type} (plan : Plan) (onFile : FoundFile → Run σ Unit) :
    Nat → List Frame → Nat → Run σ (Option Nat)
  | _, [], count => pure (some count)
  | 0, _, _ => pure none
  | steps + 1, frame :: frames, count => do
    match frame.pending with
    | .error e => throw (.walk (.io (some frame.path) e))
    | .ok [] => go plan onFile steps frames count
    | .ok (entry :: pending) =>
      let (frames, handed) ← visit plan onFile ({ frame with pending := .ok pending } :: frames) entry
      go plan onFile steps frames (if handed then count + 1 else count)

end Walk

/-- Walks the tree below a root and hands every accepted file to `onFile`. Gives back how many files
were handed on, or nothing if `steps` steps were not enough. -/
def walk {σ : Type} (settings : WalkSettings) (steps : Nat) (root : Path)
    (onFile : FoundFile → Run σ Unit) : Run σ (Option Nat) := do
  match Encoding.ofLabel? settings.encoding with
  | none => throw (.unknownEncoding settings.encoding)
  | some encoding =>
    match Exclusions.compile root settings.excluded with
    | .error e => throw (.invalidExclusion e)
    | .ok exclusions =>
      let tree := (← get).tree
      match tree.kindAt root with
      | .error e => throw (.io root e)
      | .ok .directory =>
        Walk.go ⟨settings, encoding, exclusions⟩ onFile steps [Walk.openDirectory tree root] 0
      | .ok _ => throw (.notADirectory root)

end SourceSurvey
