import Emend.Unicode.Property

/-!
# Quoted texts

Messages show a text between quotes. A character that would not show, or that would join the one
before it, appears as its code between braces.
-/

namespace Emend.Text

/-- Characters without a shape of their own: controls, formats, unassigned and private codes,
separators, and marks that extend the character before them. -/
def shapeless : CharSet :=
  CharSet.unions (["other", "separator", "graphemeextend"].map Unicode.knownSet)

def codeForm (c : Char) : List Char :=
  '\\' :: 'u' :: '{' :: Nat.toDigits 16 c.toNat ++ ['}']

def quotedChar (c : Char) : List Char :=
  if c = '\x00' then ['\\', '0']
  else if c = '\t' then ['\\', 't']
  else if c = '\r' then ['\\', 'r']
  else if c = '\n' then ['\\', 'n']
  else if c = '\\' || c = '"' then ['\\', c]
  else if c ≠ ' ' && shapeless.contains c then codeForm c
  else [c]

def quoted (text : String) : String :=
  String.ofList ('"' :: text.toList.flatMap quotedChar ++ ['"'])

end Emend.Text
