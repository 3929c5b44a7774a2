import TableIndex.Url.Basic

/-!
# URLs relative to others

`join` resolves a relative path at a URL, which replaces the last segment and all that follows it.
`below` puts segments below the path of a URL; every segment stays one, whatever it holds, but for dot
segments, which are left out.
-/

namespace TableIndex.Url

/-- The path with the pieces of a relative one in the place of its last segment. A drive at the end of a path
of files is not replaced: it is the directory if nothing is above it, and else the first piece continues
it. -/
def resolve (ofFiles : Bool) (path pieces : List Segment) : List Segment :=
  let drive := if ofFiles then path.getLast?.filter fun s => Path.drive? s == some s else none
  match drive, pieces with
  | none, pieces => Path.appendAll ofFiles path.dropLast pieces
  | some _, [] => path
  | some drive, piece :: pieces =>
    if path = [drive] then Path.appendAll ofFiles path (piece :: pieces)
    else Path.appendAll ofFiles path.dropLast ((drive ++ piece) :: pieces)

/-- Resolves the pieces of a relative path; they are expected to be percent-encoded. -/
def join (u : Url) (pieces : List Segment) : Option Url :=
  match u.path with
  | .plain _ => none
  | .hierarchy segments =>
    let ofFiles := u.scheme == .file
    let path := resolve ofFiles segments pieces
    some { u with
      path := .hierarchy (if ofFiles then Path.dropEmpty path else path)
      query := none
      fragment := none }

/-- Whether a text that is to be a segment is left out. -/
def isDots (name : String) : Bool := name == "." || name == ".."

/-- A text as a segment of a URL: line breaks are dropped, and what would end the segment is encoded. -/
def toSegment (special : Bool) (name : String) : Segment :=
  encode (if special then specialSegmentSet else segmentSet)
    (name.toList.filter (!isLineBreak ·))

/-- The URL with segments below its path. -/
def below (u : Url) (names : List String) : Option Url :=
  match u.path with
  | .plain _ => none
  | .hierarchy segments =>
    let path := ((names.filter (!isDots ·)).map (toSegment u.scheme.isSpecial)).foldl
      (Path.child (u.scheme == .file)) (Path.withoutClosing segments)
    some { u with path := .hierarchy path }

end TableIndex.Url
