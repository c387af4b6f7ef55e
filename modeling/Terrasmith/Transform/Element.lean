import Terrasmith.Source.Edit

/-!
Removing and renaming elements inside of blocks. A path names nested blocks by their logical types and ends in
the name of an attribute or of nested blocks.
-/
namespace Terrasmith

open Source

/-- Changes the body at the end of a path, going into the first block of each type on the way. -/
def atPath (f : String → Body → Body) : (path : List String) → Body → Body
  | [], b => b
  | [element], b => f element b
  | type :: rest, b =>
    match b.blockIndices type with
    | index :: _ => (b.modifyBlockAt? index (·.modifyContent? (atPath f rest))).getD b
    | [] => b

/-- A body without the attribute of a name or, if there is none, without the first nested block of it. -/
def removeElement (name : String) (b : Body) : Body :=
  match b.attributeIndex? name with
  | some index => { b with structures := b.structures.eraseIdx index }
  | none =>
    match b.blockIndices name with
    | index :: _ => { b with structures := b.structures.eraseIdx index }
    | [] => b

/-- A body without the nested blocks of a type. -/
def removeNestedBlocks (type : String) (b : Body) : Body :=
  { b with structures := b.structures.filter fun s => !s.isBlockOf type }

/-- Gives an attribute another name. If the name is taken the other attribute goes, or with `skip` nothing
happens. -/
def renameAttribute (old new : String) (skip : Bool) (b : Body) : Body :=
  if skip && b.hasAttribute new then b
  else
    let kept := match b.attributeIndex? new with
      | some index => b.structures.eraseIdx index
      | none => b.structures
    { b with structures := kept.map fun
        | .attribute a => .attribute (if a.key = old then { a with key := new } else a)
        | s => s }

/-- Gives a block another type. A dynamic block is given an iterator of the old name, so that the references in
its content stay valid. -/
def renameBlock (old new : String) (b : Block) : Block :=
  match b.labels with
  | [label] =>
    if b.isDynamic then
      let b := { b with labels := [{ label with text := new, quoted := true }] }
      if b.body.hasAttribute "iterator" then b
      else match parseAttribute "iterator" old with
        | .error _ => b
        | .ok iterator =>
          let position := ((b.body.attributeIndex? "for_each").map (· + 1)).getD 0
          { b with body := { b.body with
              structures := b.body.structures.insertIdx position (.attribute iterator), oneLine := false } }
    else { b with ident := new }
  | _ => { b with ident := new }

/-- Gives the attribute and the nested blocks of a name another name. -/
def renameElement (new : String) (skip : Bool) (old : String) (b : Body) : Body :=
  if old = new then b
  else
    let b := if b.hasAttribute old then renameAttribute old new skip b else b
    if skip && !(b.blockIndices new).isEmpty then b
    else { b with structures := b.structures.map fun
        | .block child => .block (if child.logicalType = old then renameBlock old new child else child)
        | s => s }

/-- Changes the bodies at the end of a path, going into all blocks of each type on the way. -/
def atAllPaths (f : String → Body → Body) : (path : List String) → Body → Body
  | [], b => b
  | [element], b => f element b
  | type :: rest, b =>
    { b with structures := b.structures.map fun
        | .block child =>
          .block (if child.logicalType = type then (child.modifyContent? (atAllPaths f rest)).getD child else child)
        | s => s }

end Terrasmith
