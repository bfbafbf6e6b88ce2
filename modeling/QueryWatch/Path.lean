/-!
File paths as texts: their parts between slashes, how a path is read from a place, and the places it
leads to.
-/

set_option autoImplicit false

namespace QueryWatch.Path

/-- The parts of a path between its slashes; some may be empty. -/
def split : List Char → List (List Char)
  | [] => [[]]
  | c :: rest =>
    if c = '/' then [] :: split rest
    else
      match split rest with
      | part :: parts => (c :: part) :: parts
      | [] => [[c]]

/-- Whether a part of a path leads nowhere: two slashes in a row, or a dot. -/
def isIdle (part : List Char) : Bool := part.isEmpty || part == ['.']

/-- Parts with slashes between them. -/
def unsplit (parts : List (List Char)) : List Char := ['/'].intercalate parts

/-- A path without the idle parts at either end. -/
def trim (path : List Char) : List Char :=
  unsplit ((((split path).dropWhile isIdle).reverse.dropWhile isIdle).reverse)

/-- The path `rest` as seen from the place `base`. -/
def join (base rest : String) : String :=
  if rest.toList.head? = some '/' then rest
  else if base.toList.getLast? = none ∨ base.toList.getLast? = some '/' then base ++ rest
  else base ++ "/" ++ rest

/-- A path in which a first part `~` stands for the home directory. -/
def underHome (home path : String) : String :=
  match split path.toList with
  | ['~'] :: rest => join home (String.ofList (trim (unsplit rest)))
  | _ => path

/-- The place that parts lead to from the root or, unless the path is `absolute`, from here; `above`
are the names on the way to it, last first. -/
def placeText (absolute : Bool) (above : List (List Char)) : String :=
  String.ofList ((if absolute then ['/'] else []) ++ unsplit above.reverse)

/-- The places that parts lead to one after the other. Two dots lead one place up. -/
def placesFrom (absolute : Bool) (above : List (List Char)) : List (List Char) → List String
  | [] => []
  | part :: rest =>
    let above := if part = ['.', '.'] then above.tail else part :: above
    placeText absolute above :: placesFrom absolute above rest

/-- The parts of a path that lead somewhere. -/
def parts (path : String) : List (List Char) :=
  (split path.toList).filter fun part ↦ !isIdle part

/-- The places a path leads to, part by part. -/
def places (path : String) : List String :=
  placesFrom (path.toList.head? = some '/') [] (parts path)

end QueryWatch.Path
