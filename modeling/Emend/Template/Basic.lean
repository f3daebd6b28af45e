/-!
# Replacement templates

A template is a list of literal texts and references to groups of a pattern. Its expansion for a
match puts the text of each group in place of the reference; a group that took no part in the
match stands for the empty text, and group zero for the whole region that is replaced.
-/

namespace Emend

namespace Template

inductive Segment where
  | literal (chars : List Char)
  | group (index : Nat)
deriving DecidableEq, Repr

end Template

structure Template where
  segments : List Template.Segment
deriving DecidableEq, Repr, Inhabited

namespace Template

def isEmpty (template : Template) : Bool := template.segments.isEmpty

/-- The expansion of one segment. `region` is what group zero stands for, and `group` gives the
text of every other group that took part in the match. -/
def Segment.expand (region : List Char) (group : Nat → Option (List Char)) : Segment → List Char
  | literal chars => chars
  | .group 0 => region
  | .group (index + 1) => (group (index + 1)).getD []

def expand (template : Template) (region : List Char) (group : Nat → Option (List Char)) :
    List Char :=
  template.segments.flatMap (Segment.expand region group)

/-! ## Building -/

/-- Put a segment in front of others. Texts side by side make up one segment, and the empty text
none. -/
def cons : Segment → List Segment → List Segment
  | .literal [], segments => segments
  | .literal chars, .literal more :: rest => .literal (chars ++ more) :: rest
  | segment, segments => segment :: segments

end Template

end Emend
