import Scaffold.Text.Blank
/-!
# Path — paths of files

A path is written with its parts apart by slashes, empty parts and single points left out; parts that lead up are kept.
-/
namespace Scaffold
namespace Path

open Text

/-- The slashes at the head that count: two if there are exactly two, otherwise one if there are any. -/
def root (l : List Char) : List Char :=
  match l.takeWhile (· = '/') with
  | [] => []
  | ['/', '/'] => ['/', '/']
  | _ => ['/']

def parts (l : List Char) : List (List Char) := (words '/' l).filter (· ≠ ['.'])

/-- The path with given parts; a single point if there are none. -/
def ofParts (root : List Char) (parts : List (List Char)) : List Char :=
  match root ++ join ['/'] parts with
  | [] => ['.']
  | l => l

def shown (path : String) : String := String.ofList (ofParts (root path.toList) (parts path.toList))

def under (directory file : String) : String :=
  String.ofList (ofParts (root directory.toList) (parts directory.toList ++ parts file.toList))

/-- **The directory of a file**; empty for a file without one. -/
def directory (path : String) : String :=
  String.ofList ((path.toList.reverse.dropWhile (· ≠ '/')).drop 1).reverse

end Path
end Scaffold
