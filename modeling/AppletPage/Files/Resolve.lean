import AppletPage.Files.Place

/-! Names without links: every link on the way is replaced by what it leads to, and parts that lead
nowhere are kept as they are. A link is known by the name under which it is come upon, so that a
relative name and an absolute one of one link are told apart. -/

namespace AppletPage.Files

open Text

/-- The links come upon: what each of them leads to, or nothing while that is being resolved. -/
abbrev Opened := Mapping Pathname (Option Pathname)

/-- Where parts lead; not `closed` if a link leads back to itself. -/
structure Resolved where
  path : Pathname
  closed : Bool := true

/-- The name that further pieces of a text lead to, unresolved. Pieces that start with a slash
start at the root. -/
def unresolved (path : Pathname) (rest : List String) : Pathname :=
  path.join (Pathname.ofText (String.intercalate "/" rest))

/-- Resolves pieces of a text from `here`. What a link leads to is given by `enter`. -/
def resolvePieces (files : Files)
    (enter : Opened → Pathname → String → Option (Opened × Resolved)) (opened : Opened)
    (here : Pathname) : List String → Option (Opened × Resolved)
  | [] => some (opened, { path := here })
  | name :: rest =>
      if name = "" ∨ name = "." then resolvePieces files enter opened here rest
      else if name = ".." then resolvePieces files enter opened here.above rest
      else
        let next := here.child name
        match files.locate next .kept with
        | .present _ (.link target) =>
            match Mapping.get? opened next with
            | some (some known) => resolvePieces files enter opened known rest
            | some none => some (opened, { path := unresolved next rest, closed := false })
            | none =>
                match enter (Mapping.put opened next none) here target with
                | none => none
                | some (opened, inner) =>
                    if inner.closed then
                      resolvePieces files enter (Mapping.put opened next (some inner.path))
                        inner.path rest
                    else
                      some (opened, { path := unresolved inner.path rest, closed := false })
        | _ => resolvePieces files enter opened next rest

/-- The most links that may have to be resolved one within the other. -/
def nestingLimit : Nat := 980

/-- Resolves a text seen from `here`, through links that lie `depth` deep in each other; none if
they lie deeper. -/
def resolveDeep (files : Files) :
    (depth : Nat) → Opened → (here : Pathname) → String → Option (Opened × Resolved)
  | 0, _, _, _ => none
  | depth + 1, opened, here, text =>
      let start := if text.toList.head? = some '/' then Pathname.ofAbsolute [] else here
      resolvePieces files (resolveDeep files depth) opened start
        ((splitAt '/' text.toList).map String.ofList)

/-- The absolute name without links. Links that lead back to themselves are an error if the name
still leads through them. -/
def resolve (files : Files) (path : Pathname) : Except FileError Pathname :=
  if hasZero path then .error .zeroByte
  else
    match resolveDeep files nestingLimit [] ⟨.none, []⟩ path.toText with
    | none => .error .nestedLinks
    | some (_, resolved) => do
        let name ← files.absolute resolved.path
        match files.locate name with
        | .nowhere .tooManyLinks => .error (.linkLoop name.toText)
        | _ => .ok name

end AppletPage.Files
