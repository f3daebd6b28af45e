/-!
# Paths

A path is a text in which slashes separate names. As a text it has a parent, which drops its last
name; empty names and dots do not count, except for a dot in front of everything. As a route it
is walked step by step, and there every dot counts.
-/

namespace Emend.Path

def pieces : List Char → List (List Char)
  | [] => [[]]
  | c :: text =>
    match pieces text with
    | [] => [[c]]
    | piece :: rest => if c = '/' then [] :: piece :: rest else (c :: piece) :: rest

def here : List Char := ['.']

/-! ## Parents -/

/-- Whether a piece does not count as a name. -/
def isBlank (piece : List Char) : Bool := piece = [] || piece = here

/-- What a path starts with that is no name: a slash, a dot, or nothing. -/
def head : List Char → List Char
  | '/' :: _ => ['/']
  | ['.'] => here
  | '.' :: '/' :: _ => here
  | _ => []

/-- Pieces, last one first, as a text behind a head. -/
def render (head : List Char) (pieces : List (List Char)) : String :=
  String.ofList (head ++ ['/'].intercalate pieces.reverse)

/-- The parent of a path, its parent, and so on. The path is given by its head and its pieces,
last one first. -/
def outerFrom (head : List Char) (pieces : List (List Char)) : List String :=
  match _kept : pieces.dropWhile isBlank with
  | [] => []
  | _ :: rest => render head (rest.dropWhile isBlank) :: outerFrom head (rest.dropWhile isBlank)
termination_by pieces.length
decreasing_by
  have kept := (List.dropWhile_suffix (l := pieces) isBlank).length_le
  have dropped := (List.dropWhile_suffix (l := rest) isBlank).length_le
  simp [_kept] at kept
  omega

def outer (path : String) : List String :=
  let text := path.toList
  let head := head text
  outerFrom head (pieces (text.drop head.length)).reverse

/-- The parent of a path. The root and the empty path have none. -/
def parent? (path : String) : Option String :=
  match outer path with
  | parent :: _ => some parent
  | [] => if head path.toList = here then some "" else none

/-- The directory that a path lies in; a bare name lies in the working directory. -/
def directoryOf (path : String) : String :=
  match parent? path with
  | some parent => if parent.isEmpty then "." else parent
  | none => "."

def backup (path : String) : String := path ++ ".bak"

/-! ## Routes -/

inductive Step where
  | stay
  | up
  | down (name : String)
deriving DecidableEq, Repr

/-- The step that a piece stands for; an empty piece stands for none. -/
def step? (piece : List Char) : Option Step :=
  if piece = [] then none
  else if piece = here then some .stay
  else if piece = ['.', '.'] then some .up
  else some (.down (String.ofList piece))

structure Route where
  /-- Whether the way starts at the root. -/
  fromRoot : Bool
  steps : List Step
  /-- Whether the path ends in a slash, which asks for a directory. -/
  slash : Bool
deriving DecidableEq, Repr

def route (path : String) : Route :=
  let text := path.toList
  { fromRoot := text.head? = some '/'
    steps := (pieces text).filterMap step?
    slash := text.getLast? = some '/' }

end Emend.Path
