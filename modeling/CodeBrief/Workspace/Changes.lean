import CodeBrief.Workspace.FileTree

/-!
# Changes of a tree

The files of a tree that an older tree does not have with the same bytes at the
same place.
-/

namespace CodeBrief.FileTree

mutual

/-- The new and changed files of a tree at a place, with their bytes. -/
def changes (old : Option FileTree) (place : List String) : FileTree → List (List String × List UInt8)
  | .file bytes =>
      match old with
      | some (.file before) => if before = bytes then [] else [(place, bytes)]
      | _ => [(place, bytes)]
  | .folder es => entryChanges ((old.map entries).getD []) place es

/-- The new and changed files among entries. -/
def entryChanges (old : List (String × FileTree)) (place : List String) :
    List (String × FileTree) → List (List String × List UInt8)
  | [] => []
  | (name, t) :: rest =>
      changes (find? name old) (place ++ [name]) t ++ entryChanges old place rest

end

end CodeBrief.FileTree
