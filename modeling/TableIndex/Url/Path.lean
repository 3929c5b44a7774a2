import TableIndex.Url.Encoding

/-!
# Hierarchical paths

A path is the list of its segments. A single dot stands for the segment itself and a double dot for the
one above, also where their dots are percent-encoded. `appendAll` reads the segments of a text behind a
path; `child` puts one segment below a path, where an empty last segment is only a closing slash.
-/

namespace TableIndex.Url

/-- What stands between two slashes of a path. -/
abbrev Segment := List Char

namespace Path

/-- Whether a piece of a path is one dot. -/
def isSingleDot (piece : Segment) : Bool :=
  [['.'], ['%', '2', 'e']].contains (piece.map Char.toLower)

/-- Whether a piece of a path is two dots. -/
def isDoubleDot (piece : Segment) : Bool :=
  [['.', '.'], ['.', '%', '2', 'e'], ['%', '2', 'e', '.'], ['%', '2', 'e', '%', '2', 'e']].contains
    (piece.map Char.toLower)

/-- The drive that a piece names, be it with a colon or with a bar. -/
def drive? : Segment → Option Segment
  | [c, m] => if c.isAlpha && (m == ':' || m == '|') then some [c, ':'] else none
  | _ => none

/-- Whether a piece names a drive. -/
def isDrive (piece : Segment) : Bool := (drive? piece).isSome

/-- The path one level up; nothing is above a drive. -/
def up (path : List Segment) : List Segment := if path.getLast?.any isDrive then path else path.dropLast

/-- A path with a piece behind it that is not a dot; the drive that starts a path of files gets its
colon. -/
def push (ofFiles : Bool) (path : List Segment) (piece : Segment) : List Segment :=
  path ++ [if ofFiles && path.isEmpty then (drive? piece).getD piece else piece]

/-- A path with a piece behind it that a slash follows. -/
def step (ofFiles : Bool) (path : List Segment) (piece : Segment) : List Segment :=
  if isDoubleDot piece then up path
  else if isSingleDot piece then path
  else push ofFiles path piece

/-- A path with its last piece behind it. -/
def close (ofFiles : Bool) (path : List Segment) (piece : Segment) : List Segment :=
  if isDoubleDot piece then up path ++ [[]]
  else if isSingleDot piece then path ++ [[]]
  else push ofFiles path piece

/-- A path with the pieces of a text behind it. -/
def appendAll (ofFiles : Bool) (path : List Segment) (pieces : List Segment) : List Segment :=
  close ofFiles (pieces.dropLast.foldl (step ofFiles) path) (pieces.getLastD [])

/-- A path without empty segments at its start, as a path of files is. -/
def dropEmpty : List Segment → List Segment
  | [] :: s :: ss => dropEmpty (s :: ss)
  | path => path

/-! ## Below a path -/

/-- The path without the empty segment that a closing slash leaves. -/
def withoutClosing (path : List Segment) : List Segment :=
  if 1 < path.length && path.getLast? == some [] then path.dropLast else path

/-- The path with one more piece below it; the root has no segment of its own. -/
def child (ofFiles : Bool) (path : List Segment) (piece : Segment) : List Segment :=
  let path := close ofFiles (if path = [[]] then [] else path) piece
  if ofFiles then dropEmpty path else path

/-- The path as text, every segment behind a slash. -/
def text (path : List Segment) : List Char := path.flatMap ('/' :: ·)

end Path

end TableIndex.Url
