import AppletPage.Proofs.Page.RoundTrip

/-! Which parameters a document gives: those whose tags stand inside an applet. Tags in comments,
and tags that are written as text, are none. -/

namespace AppletPage.Page

open Markup Text

/-- A piece of a document: escaped text, a comment, a tag that begins an applet or is all of it, a
tag that ends an applet, or the tag of a parameter. -/
inductive Piece where
  | text (content : String)
  | comment (content : List Char) (unclosed : ¬ ClosesComment content)
  | applet (tag : WrittenTag) (named : tag.name.text = "applet")
  | appletEnd (name : TagName) (named : name.text = "applet") (trail : List Char)
      (blank : trail.all isBlank = true)
  | parameter (entry : String × String) (selfClosing : Bool) (trail : List Char)
      (blank : trail.all isSpacing = true)

namespace Piece

def part : Piece → Part
  | text content => .text content.toList
  | comment content unclosed => .comment content unclosed
  | applet tag _ => .startTag tag
  | appletEnd name _ trail blank => .endTag name trail blank
  | parameter entry selfClosing trail blank =>
      .startTag { parameterTag entry with selfClosing, trail, trail_blank := blank }

/-- The number of open applets behind a piece. An end without a beginning closes nothing. -/
def depthBehind (depth : Nat) : Piece → Nat
  | applet tag _ => if tag.selfClosing then depth else depth + 1
  | appletEnd .. => depth - 1
  | text _ | comment .. | parameter .. => depth

/-- The parameter that a piece gives where `depth` applets are open. -/
def entry? (depth : Nat) : Piece → Option (String × String)
  | parameter entry .. => if 0 < depth then some entry else none
  | text _ | comment .. | applet .. | appletEnd .. => none

def entriesFrom (depth : Nat) : List Piece → List (String × String)
  | [] => []
  | piece :: rest => (piece.entry? depth).toList ++ entriesFrom (piece.depthBehind depth) rest

def document (pieces : List Piece) : String :=
  String.ofList (pieces.flatMap fun piece => piece.part.chars)

end Piece

theorem parametersAt_piece (depth : Nat) (piece : Piece) (rest : List Construct) :
    parametersAt depth (piece.part.construct?.toList ++ rest) =
      (piece.entry? depth).toList ++ parametersAt (piece.depthBehind depth) rest := by
  cases piece with
  | text content => rfl
  | comment content unclosed => rfl
  | applet tag named =>
      have name : tag.tag.name = "applet" := named
      exact if_pos name
  | appletEnd name named trail blank =>
      change parametersAt (if name.text = "applet" then depth - 1 else depth) rest = _
      rw [if_pos named]
      rfl
  | parameter entry selfClosing trail blank =>
      change parametersAt depth
        (.startTag { (parameterTag entry).tag with selfClosing } :: rest) = _
      rw [parameterTag_tag]
      cases depth <;> rfl

theorem parametersAt_pieces (depth : Nat) (pieces : List Piece) :
    parametersAt depth ((pieces.map Piece.part).filterMap Part.construct?) =
      Piece.entriesFrom depth pieces := by
  induction pieces generalizing depth with
  | nil => rfl
  | cons piece rest ih =>
      have parts : ((piece :: rest).map Piece.part).filterMap Part.construct? =
          piece.part.construct?.toList ++ (rest.map Piece.part).filterMap Part.construct? := by
        rw [List.map_cons, List.filterMap_cons]
        cases piece.part.construct? <;> rfl
      rw [parts, parametersAt_piece, ih, Piece.entriesFrom]

/-- A document of such pieces gives the set of the parameters that stand inside an applet, in order,
or fails as making that set does. -/
theorem parse_pieces (pieces : List Piece) :
    parse (Piece.document pieces) =
        (ParameterSet.ofList (Piece.entriesFrom 0 pieces)).mapError .parameter ∧
      parseBytes (Utf8.encode (Piece.document pieces)) = parse (Piece.document pieces) := by
  have chars : (Piece.document pieces).toList = (pieces.map Piece.part).flatMap Part.chars := by
    rw [Piece.document, String.toList_ofList, List.flatMap_map]
  constructor
  · rw [parse, chars, parseChars_parts, parametersAt_pieces]
  · rw [parseBytes, Utf8.decodeChars_encode, parse]

end AppletPage.Page
