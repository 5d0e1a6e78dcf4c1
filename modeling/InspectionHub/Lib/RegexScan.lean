import InspectionHub.Lib.Regex

/-!
# Global searches

`text.match(/…/g)`: the text is passed once from left to right, and where an
expression matches, the match of highest priority is taken and the search goes
on behind it. `matchHere` is that match, `pieces` the text as it is passed.

Alternatives are tried in their order, and repetitions take as much as they
can. No expression searched for matches the empty text.
-/

namespace InspectionHub.Regex

/-! ## The match of highest priority -/

/-- What is answered of the text behind an expression. -/
abbrev Cont (β : Type) := Option Char → List Char → Option β

/-- Go on after as many characters of the class as possible. -/
def skipMost {β : Type} (p : Char → Bool) (next : Cont β) : Cont β
  | before, [] => next before []
  | before, c :: rest =>
      if p c then (skipMost p next (some c) rest).or (next before (c :: rest))
      else next before (c :: rest)

/-- The first way to match `e` here and go on. -/
def first {β : Type} : Regex → Cont β → Cont β
  | .empty, next => next
  | .one p, next => fun _ text =>
      match text with
      | [] => none
      | c :: rest => if p c then next (some c) rest else none
  | .many p, next => skipMost p next
  | .boundary, next => fun before text => if atBoundary before text.head? then next before text else none
  | .edge word, next => fun before text =>
      if atEdge word before text.head? then next before text else none
  | .seq a b, next => a.first (b.first next)
  | .alt a b, next => fun before text => (a.first next before text).or (b.first next before text)

/-- What is behind the match at the head of the text. -/
def matchHere (e : Regex) : Cont (List Char) := e.first fun _ rest => some rest

/-! ## Passing a text -/

/-- A character that is kept, or a match. -/
inductive Piece where
  | keep (c : Char)
  | hit (mid : List Char)
deriving DecidableEq

/-- The pieces of a text, `fuel` bounding how many there are. -/
def piecesFrom (e : Regex) : Nat → Option Char → List Char → List Piece
  | 0, _, _ => []
  | _ + 1, _, [] => []
  | fuel + 1, before, c :: text =>
      match e.matchHere before (c :: text) with
      | some rest =>
          let mid := (c :: text).take ((c :: text).length - rest.length)
          .hit mid :: piecesFrom e fuel (lastOf before mid) rest
      | none => .keep c :: piecesFrom e fuel (some c) text

def pieces (e : Regex) (text : String) : List Piece :=
  piecesFrom e text.toList.length none text.toList

/-- `text.match(e) ?? []`, for a global expression. -/
def matchAll (e : Regex) (text : String) : List String :=
  (e.pieces text).filterMap fun
    | .keep _ => none
    | .hit mid => some (String.ofList mid)

end InspectionHub.Regex
