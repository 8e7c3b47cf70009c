/-!
# Quoted identifiers

An identifier stands between backquotes, a backquote inside it written twice. `readQuoted` reads one back up to the first
backquote that stands alone and returns what follows it.
-/

namespace RowLoader.Sql

/-- The delimiter of identifiers. -/
def backquote : Char := '\x60'

def doubled : List Char → List Char
  | [] => []
  | c :: r => if c = backquote then c :: c :: doubled r else c :: doubled r

def quotedChars (name : List Char) : List Char := backquote :: (doubled name ++ [backquote])

def quoteName (name : String) : String := String.ofList (quotedChars name.toList)

theorem toList_quoteName (name : String) : (quoteName name).toList = quotedChars name.toList :=
  String.toList_ofList

/-! ### reading -/

/-- The name up to the first lone backquote, and the text behind it. -/
def readDoubled : List Char → Option (List Char × List Char)
  | [] => none
  | [c] => if c = backquote then some ([], []) else none
  | c :: d :: r =>
    if c = backquote then
      if d = backquote then (readDoubled r).map fun p => (backquote :: p.1, p.2) else some ([], d :: r)
    else (readDoubled (d :: r)).map fun p => (c :: p.1, p.2)

def readQuoted : List Char → Option (List Char × List Char)
  | [] => none
  | c :: r => if c = backquote then readDoubled r else none

end RowLoader.Sql
