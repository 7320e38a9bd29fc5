import CommandForge.Text.Lines
/-!
# Paths

Paths are texts. Two texts name the same path when they have the same components: repeated
slashes, slashes at the end and dots other than a leading one do not count, while `..` does, since
nothing is looked up. Joining and taking the parent work on the text and leave the rest of it as
it is written.
-/

namespace CommandForge.Path

/-- A component of a path. -/
inductive Component where
  | root
  | current
  | parent
  | name (s : List Char)
  deriving DecidableEq, Repr

/-- The pieces of a path between its slashes. -/
def segments (path : String) : List (List Char) := Text.split '/' path.toList

/-- The path starts at the root. -/
def isAbsolute (path : String) : Bool := path.toList.head? == some '/'

/-- The components of a path whose first piece is looked at already. -/
def restComponents (pieces : List (List Char)) : List Component :=
  pieces.filterMap fun piece =>
    match piece with
    | [] => none
    | ['.'] => none
    | ['.', '.'] => some .parent
    | piece => some (.name piece)

/-- The components of a path. -/
def components (path : String) : List Component :=
  match segments path with
  | [] => []
  | first :: rest =>
    if isAbsolute path then .root :: restComponents rest
    else if first = ['.'] then .current :: restComponents rest
    else restComponents (first :: rest)

/-- `rel` seen from `base`. An absolute `rel` replaces `base`. -/
def join (base rel : String) : String :=
  if isAbsolute rel then rel
  else
    match base.toList.getLast? with
    | none => rel
    | some '/' => base ++ rel
    | some _ => base ++ "/" ++ rel

/-- Pieces, last one first, without those at the end that do not count. The first piece of a
relative path counts when it is a dot. -/
def trimPieces (relative : Bool) : List (List Char) → List (List Char)
  | [] => []
  | piece :: before =>
    if piece = [] ∨ (piece = ['.'] ∧ ¬ (relative ∧ before = [])) then trimPieces relative before
    else piece :: before

/-- The path without its last component; none when there is no component but the root. -/
def parent? (path : String) : Option String :=
  let absolute := isAbsolute path
  let pieces := if absolute then (segments path).drop 1 else segments path
  match trimPieces (!absolute) pieces.reverse with
  | [] => none
  | _ :: before =>
    let text := String.ofList (Text.join '/' (trimPieces (!absolute) before).reverse)
    some (if absolute then "/" ++ text else text)

/-- The part of a file name behind its last dot. A name whose only dot comes first has none. -/
def extension? (fileName : String) : Option (List Char) :=
  let cs := fileName.toList
  if cs = ['.', '.'] then none
  else
    let tail := cs.reverse.takeWhile (· ≠ '.')
    if tail.length + 1 < cs.length then some tail.reverse else none

end CommandForge.Path
