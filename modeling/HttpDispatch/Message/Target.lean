/-!
Request targets: the text after the method in a request line.
-/

namespace HttpDispatch

structure Target where
  path : String
  query : Option String
  deriving DecidableEq

namespace Target

/-- What follows the authority of an absolute target, or none if the target is not absolute. -/
def afterAuthority : List Char → Option (List Char)
  | ':' :: '/' :: '/' :: rest => some (rest.dropWhile fun mark => mark ≠ '/' && mark ≠ '?')
  | _ :: rest => afterAuthority rest
  | [] => none

/-- Cuts a target at its first question mark. -/
def split (target : List Char) : Target where
  path := String.ofList (target.takeWhile (· ≠ '?'))
  query := match target.dropWhile (· ≠ '?') with
    | [] => none
    | _ :: query => some (String.ofList query)

/-- Reads a target. A fragment is dropped, and an absolute target without a path has the root
path. A target that is neither absolute nor starts at the root is an authority, without a path. -/
def ofText (text : String) : Target :=
  let target := text.toList.takeWhile (· ≠ '#')
  match target with
  | '/' :: _ | ['*'] => split target
  | _ =>
    match afterAuthority target with
    | none => ⟨"", none⟩
    | some rest =>
      let found := split rest
      if found.path = "" then { found with path := "/" } else found

end Target

end HttpDispatch
