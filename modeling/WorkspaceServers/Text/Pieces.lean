/-!
Cutting a list: at every element a test picks, at the first one, and at the first
place where a given run of elements stands. What marks the cut is dropped. Cutting
everywhere keeps empty pieces, so there is one piece more than there are cuts.
-/

namespace WorkspaceServers.Text

variable {α : Type}

def pieces (cut : α → Bool) : List α → List (List α)
  | [] => [[]]
  | a :: rest =>
    if cut a then [] :: pieces cut rest
    else match pieces cut rest with
      | [] => [[a]]
      | piece :: more => (a :: piece) :: more

def splitAtFirst? (cut : α → Bool) : List α → Option (List α × List α)
  | [] => none
  | a :: rest =>
    if cut a then some ([], rest)
    else (splitAtFirst? cut rest).map fun (before, after) => (a :: before, after)

def splitAtMark? [BEq α] (mark : List α) : List α → Option (List α × List α)
  | [] => none
  | a :: rest =>
    if mark.isPrefixOf (a :: rest) then some ([], (a :: rest).drop mark.length)
    else (splitAtMark? mark rest).map fun (before, after) => (a :: before, after)

def splitAtLast? (cut : α → Bool) (list : List α) : Option (List α × List α) :=
  (splitAtFirst? cut list.reverse).map fun (after, before) => (before.reverse, after.reverse)

end WorkspaceServers.Text
