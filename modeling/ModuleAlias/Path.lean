/-
Module: ModuleAlias.Path
Purpose: Slash-separated paths as text. A path is absolute when it begins with a slash; exactly two
  leading slashes are a root of their own. Normalizing settles the segments of a path from left to
  right on a stack: empty segments and `.` are dropped and `..` removes the segment before it.
  Everything here is lexical and asks no file system.
Imports: ModuleAlias.Text
Main exports: Path.normalize, Path.combine, Path.complete, Path.parent, Path.components,
  Path.between, Path.Plain
-/
import ModuleAlias.Text

namespace ModuleAlias.Path

/-- The separator of segments. -/
def slash : CodePoint := .scalar '/'

/-- The full stop. -/
def dot : CodePoint := .scalar '.'

/-- The segment that stands for the directory itself. -/
def here : Text := [dot]

/-- The segment that stands for the directory above. -/
def up : Text := [dot, dot]

/-- A path is absolute when it begins with a slash. -/
def isAbsolute : Text → Bool
  | c :: _ => c == slash
  | [] => false

/-- The root that a path begins with: none, one slash, or exactly two. -/
def root : Text → Text
  | a :: b :: c :: _ =>
    if a = slash then (if b = slash ∧ c ≠ slash then [slash, slash] else [slash]) else []
  | [a, b] => if a = slash then (if b = slash then [slash, slash] else [slash]) else []
  | [a] => if a = slash then [slash] else []
  | [] => []

/-- Settles one segment on a stack of segments, the last one on top. `..` takes the segment before
it away; where there is none it stays in a relative path and is dropped at a root. -/
def settle (rooted : Bool) (stack : List Text) (segment : Text) : List Text :=
  if segment = [] ∨ segment = here then
    stack
  else if segment = up then
    match stack with
    | [] => if rooted then [] else [up]
    | top :: below => if top = up then up :: stack else below
  else
    segment :: stack

/-- The segments that are left when all of a list are settled in turn. -/
def settleAll (rooted : Bool) (segments : List Text) : List Text :=
  (segments.foldl (settle rooted) []).reverse

/-- The normal form of a path: its root followed by its settled segments. A path without either is
`.`. -/
def normalize (path : Text) : Text :=
  let settled := root path ++ Text.join slash
    (settleAll (isAbsolute path) (Text.split slash path))
  if settled = [] then here else settled

/-- A path read from inside a directory: an absolute path stands for itself. -/
def combine (directory path : Text) : Text :=
  if isAbsolute path then path
  else if directory = [] ∨ directory.getLast? = some slash then directory ++ path
  else directory ++ slash :: path

/-- The absolute normal form of a path read from inside the process's directory. -/
def complete (process path : Text) : Text :=
  normalize (if isAbsolute path then path else combine process path)

/-- The directory part of a path: the text before the last slash, without the slashes that end it
unless there is nothing else. -/
def parent (path : Text) : Text :=
  let head := (path.reverse.dropWhile (· != slash)).reverse
  if head.all (· == slash) then head else (head.reverse.dropWhile (· == slash)).reverse

/-- The names on the way from the root to an absolute path. -/
def components (process path : Text) : List Text :=
  (Text.split slash (complete process path)).filter (· != [])

/-- The number of leading items that two lists share. -/
def shared : List Text → List Text → Nat
  | a :: as, b :: bs => if a = b then shared as bs + 1 else 0
  | _, _ => 0

/-- The steps that lead from one list of names to another: up as often as names are not shared,
then down. -/
def steps (origin goal : List Text) : List Text :=
  let common := shared origin goal
  List.replicate (origin.length - common) up ++ goal.drop common

/-- The relative path that leads from a directory to a path, both read from inside the process's
directory; `.` when they are the same. -/
def between (process path directory : Text) : Text :=
  match steps (components process directory) (components process path) with
  | [] => here
  | names => Text.join slash names

/-!
### Plain paths

A plain path is a path without its empty segments and its `.` segments. Its `..` segments stay, so
it still leads through the same directories.
-/

/-- A path as its root and its segments, none of them empty or `.`. -/
structure Plain where
  root : Text
  segments : List Text
deriving DecidableEq, Repr

namespace Plain

/-- Reads a path. -/
def ofText (path : Text) : Plain where
  root := Path.root path
  segments := (Text.split slash path).filter fun segment => segment != [] && segment != here

/-- The text of a plain path; `.` when it has no root and no segments. -/
def toText (path : Plain) : Text :=
  if path.root = [] ∧ path.segments = [] then here
  else path.root ++ Text.join slash path.segments

/-- A path read from inside another; one with a root stands for itself. -/
def combine (directory path : Plain) : Plain :=
  if path.root = [] then { directory with segments := directory.segments ++ path.segments }
  else path

/-- The last segment, or nothing. -/
def name (path : Plain) : Text := path.segments.getLast?.getD []

/-- The absolute path without `..` that a path leads to in the absence of links. -/
def resolve (process : Text) (path : Text) : Plain where
  root := [slash]
  segments := settleAll true (Text.split slash
    (if isAbsolute path then path else Path.combine process path))

/-- The extension of the last segment with its full stop: what follows the last full stop, unless
that one begins or ends the segment. -/
def suffix (path : Plain) : Text :=
  let tail := (path.name.reverse.takeWhile (· != dot)).reverse
  let stem := path.name.length - tail.length
  if tail ≠ [] ∧ 1 < stem then dot :: tail else []

/-- The beginnings of a list, the longest first. -/
def beginnings : List Text → List (List Text)
  | [] => [[]]
  | segment :: segments => (beginnings segments).map (segment :: ·) ++ [[]]

/-- A directory and the directories above it, the nearest first and the root last. -/
def ancestors (path : Plain) : List Plain :=
  (beginnings path.segments).map fun segments => { path with segments }

end Plain

end ModuleAlias.Path
