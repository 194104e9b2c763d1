import Mathlib

/-! Functions of the package `strings`. -/
namespace Stablenode

def equalFold (a b : String) : Bool := a.toLower = b.toLower

def containsText (s part : String) : Bool := decide (part.toList <:+: s.toList)

def splitOnce (separator : Char) (s : String) : Option (String × String) :=
  match s.toList.span (· ≠ separator) with
  | (_, []) => none
  | (head, _ :: tail) => some (String.ofList head, String.ofList tail)

def splitText (separator : Char) (text : String) : List String :=
  (text.toList.splitOn separator).map String.ofList

end Stablenode
