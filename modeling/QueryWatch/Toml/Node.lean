/-!
The tree of a TOML document. A table remembers how it came about, since that decides what may be
added to it later: under a header of its own, as a part of the name in some header, or as a part of
the dotted name of a field.
-/

set_option autoImplicit false

namespace QueryWatch.Toml

/-- How a table came about. -/
inductive Origin
  | header
  | implied
  | dotted
  deriving DecidableEq, Repr

/-- A node of the tree. Numbers with a fraction and points in time are not looked into. An inline
table is `open` if it is a part of a dotted name, so that more can be added to it. -/
inductive Node
  | string (s : String)
  | whole (i : Int)
  | real
  | bool (b : Bool)
  | time
  | list (items : List Node)
  | inline (isOpen : Bool) (fields : List (String × Node))
  | table (origin : Origin) (fields : List (String × Node))
  | tables (items : List (List (String × Node)))
  deriving Repr

abbrev Fields := List (String × Node)

/-- Fields in which one that is there has another value. -/
def Fields.replace (fields : Fields) (name : String) (node : Node) : Fields :=
  fields.map fun p ↦ if p.1 = name then (name, node) else p

/-- Fields with one more at the end. -/
def Fields.add (fields : Fields) (name : String) (node : Node) : Fields := fields ++ [(name, node)]

/-- The fields of an inline table with one more, whose name may have several parts. A part that
leads to a table written in braces, or to another value, is refused, and so is a name that is there
already. -/
def Fields.insertInline (name : String) (node : Node) :
    (path : List String) → Fields → Option Fields
  | [], fields => if (fields.lookup name).isSome then none else some (fields.add name node)
  | part :: path, fields =>
    match fields.lookup part with
    | none =>
      (insertInline name node path []).map fun inner ↦ fields.add part (.inline true inner)
    | some (.inline true inner) =>
      (insertInline name node path inner).map fun inner ↦ fields.replace part (.inline true inner)
    | some _ => none

/-- Changes the fields of the table at the end of a path, whose missing parts are made. A path that
is `dotted` must not lead through a table with a header of its own; of several tables of one name
the last one counts. -/
def Fields.modify (dotted : Bool) (change : Origin → Fields → Option Fields) :
    (path : List String) → Origin → Fields → Option Fields
  | [], origin, fields => change origin fields
  | part :: path, _, fields =>
    match fields.lookup part with
    | none =>
      let made := if dotted then .dotted else .implied
      (modify dotted change path made []).map fun inner ↦ fields.add part (.table made inner)
    | some (.table origin inner) =>
      if dotted && origin = .header then none
      else
        (modify dotted change path origin inner).map fun inner ↦
          fields.replace part (.table origin inner)
    | some (.tables items) =>
      match items.getLast? with
      | none => none
      | some inner =>
        (modify dotted change path .header inner).map fun inner ↦
          fields.replace part (.tables (items.dropLast ++ [inner]))
    | some _ => none

/-- A document that is being read: its fields, and the path of the table that fields are added
to. -/
structure Document where
  fields : Fields := []
  path : List String := []

namespace Document

/-- Adds a field to the table under way. A dotted name must lead to a table made by dotted names,
and any other name to one that was not. -/
def insert (d : Document) (path : List String) (name : String) (node : Node) :
    Option Document :=
  let add (origin : Origin) (fields : Fields) : Option Fields :=
    if (origin = .dotted) ≠ (path ≠ []) then none
    else if (fields.lookup name).isSome then none
    else some (fields.add name node)
  let within (origin : Origin) (fields : Fields) : Option Fields :=
    fields.modify true add path origin
  (d.fields.modify false within d.path .header).map fun fields ↦ { d with fields }

/-- Begins a table. It may have been implied before. -/
def openTable (d : Document) (parents : List String) (name : String) : Option Document :=
  let enter (_ : Origin) (fields : Fields) : Option Fields :=
    match fields.lookup name with
    | none => some (fields.add name (.table .header []))
    | some (.table .implied inner) => some (fields.replace name (.table .header inner))
    | some _ => none
  (d.fields.modify false enter parents .header).map fun fields ↦ ⟨fields, parents ++ [name]⟩

/-- Begins one more of several tables of one name. -/
def openItem (d : Document) (parents : List String) (name : String) : Option Document :=
  let enter (_ : Origin) (fields : Fields) : Option Fields :=
    match fields.lookup name with
    | none => some (fields.add name (.tables [[]]))
    | some (.tables items) => some (fields.replace name (.tables (items ++ [[]])))
    | some _ => none
  (d.fields.modify false enter parents .header).map fun fields ↦ ⟨fields, parents ++ [name]⟩

end Document
end QueryWatch.Toml
