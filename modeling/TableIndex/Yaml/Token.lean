/-!
# Tokens

The pieces of a document between which blanks, comments and indentation no longer count: brackets, marks,
names and scalars, and marks for where a block of lines begins and ends.
-/

namespace TableIndex.Yaml

/-- A tag as written: the suffix alone, or behind a handle that stands for the start of a tag. -/
structure WrittenTag where
  handle : String
  suffix : String
deriving DecidableEq, Repr, Inhabited

/-- A token. -/
inductive Token where
  /-- The version of the language, which a document may tell. -/
  | version (major minor : Nat)
  /-- What a handle stands for. -/
  | handle (name start : String)
  | documentStart
  | documentEnd
  | blockSequenceStart
  | blockMappingStart
  | blockEnd
  | flowSequenceStart
  | flowSequenceEnd
  | flowMappingStart
  | flowMappingEnd
  /-- The hyphen in front of an item. -/
  | entry
  /-- The comma between items in brackets. -/
  | comma
  /-- A key follows. -/
  | key
  /-- A value follows. -/
  | value
  | alias (name : String)
  | anchor (name : String)
  | tag (tag : WrittenTag)
  | scalar (isPlain : Bool) (text : String)
deriving DecidableEq, Repr, Inhabited

end TableIndex.Yaml
