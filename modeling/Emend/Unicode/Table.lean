import Emend.Unicode.CharSet

/-!
# Tables of named sets

A table lists sets of code points under the names that a pattern may use for them. Names are
compared in a loose form: case, blanks, underscores and hyphens do not count.
-/

namespace Emend.Unicode

/-- A set of code points with its names in loose form, written as rows of ranges. -/
structure Entry where
  names : List String
  rows : List String

/-- Named sets; an earlier entry wins over a later one. -/
abbrev Table := List Entry

def Entry.set (entry : Entry) : CharSet := CharSet.ofRows entry.rows

def Table.entry? (table : Table) (name : String) : Option Entry :=
  table.find? fun entry => entry.names.contains name

def Table.set? (table : Table) (name : String) : Option CharSet :=
  (table.entry? name).map Entry.set

def Table.union (table : Table) : CharSet :=
  CharSet.unions (table.map Entry.set)

end Emend.Unicode
