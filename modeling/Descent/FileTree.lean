set_option autoImplicit false

namespace Descent

inductive FileContent where
  | text (s : String)
  | missing
  | denied
  | invalidText
  | unreadable (reason : String)
  deriving DecidableEq, Repr

namespace FileContent

def ofDirectory : FileContent := unreadable "Is a directory (os error 21)"

def notDirectory : FileContent := unreadable "Not a directory (os error 20)"

def nameTooLong : FileContent := unreadable "File name too long (os error 36)"

end FileContent

inductive FileTree where
  | file (content : FileContent)
  | directory (entries : List (String × FileTree))

namespace FileTree

def names (path : String) : List String := path.splitOn "/"

def put (t : FileTree) : List String → FileTree → FileTree
  | [], _ => t
  | name :: rest, directory entries =>
    let inner := (entries.lookup name).getD (directory [])
    directory ((name, put t rest inner) :: entries)
  | _ :: _, file c => file c

def nameLimit : Nat := 255

def pathLimit : Nat := 4096

-- `above` holds the directories around this one, the nearest first; above the topmost one there
-- is only itself.
def follow : List FileTree → FileTree → List String → Except FileContent FileTree
  | _, t, [] => .ok t
  | _, file _, _ :: _ => .error .notDirectory
  | above, directory entries, name :: rest =>
    if name = "" ∨ name = "." then follow above (directory entries) rest
    else if name = ".." then
      match above with
      | [] => follow [] (directory entries) rest
      | t :: above => follow above t rest
    else if nameLimit < name.utf8ByteSize then .error .nameTooLong
    else
      match entries.lookup name with
      | none => .error .missing
      | some t => follow (directory entries :: above) t rest

def read (root : FileTree) (work : List String) (path : String) : FileContent :=
  -- The empty first name of an absolute path leads nowhere, as every empty name does.
  let absolute := (names path).head? = some ""
  if path = "" then .missing
  else if pathLimit ≤ path.utf8ByteSize then .nameTooLong
  else
    match follow [] root (if absolute then names path else work ++ names path) with
    | .ok (file c) => c
    | .ok (directory _) => .ofDirectory
    | .error e => e

end FileTree

end Descent
