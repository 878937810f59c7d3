/-!
# Cutting lists into pieces

Text with separators is a list of pieces: `splitWhere` cuts a list at every item of a kind, and
`joinWith` puts pieces together with a separator between them. `cutAt` only looks for the first cut.
-/

namespace ChainWatch

/-- Cut a list at every item that satisfies `p`. There is one piece more than there are cuts. -/
def splitWhere {α : Type} (p : α → Bool) : List α → List (List α)
  | [] => [[]]
  | c :: cs =>
    match splitWhere p cs with
    | [] => [[c]]
    | piece :: pieces => if p c then [] :: piece :: pieces else (c :: piece) :: pieces

/-- Put pieces together with a separator between them. -/
def joinWith {α : Type} (separator : List α) : List (List α) → List α
  | [] => []
  | [piece] => piece
  | piece :: next :: pieces => piece ++ separator ++ joinWith separator (next :: pieces)

/-- The items before the first one that satisfies `p`, and that one with all that follows. -/
def cutAt {α : Type} (p : α → Bool) (cs : List α) : List α × List α :=
  (cs.takeWhile fun c => !p c, cs.dropWhile fun c => !p c)

end ChainWatch
