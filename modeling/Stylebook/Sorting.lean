/-!
# Sorting by comparisons

A list is sorted by asking of two members whether one comes before the other, and by nothing else. If the answers are
those of a key that can be ordered, the outcome is the one stable sort. If they are not, it depends on what is asked,
so this is fixed here: the members that are in order in front, or in the opposite order, are taken as they are, and the
others are put in one after the other, each by halving.

These are the questions of the usual library sort for lists of fewer than 64 members. Longer lists it cuts up, sorts
the parts in this way and merges them, which makes no difference as long as there is a key.

* `Sorting.firstRun` : the members in front, in order, and the others;
* `Sorting.insert` : one more member, after those that it does not come before;
* `Sorting.sort` : all members in order.
-/

namespace Stylebook.Sorting

variable {α : Type}

/-- Splits off the members that follow on `a` and then each on the one before. -/
def run (follows : α → α → Bool) (a : α) : List α → List α × List α
  | [] => ([], [])
  | b :: l =>
    if follows a b then
      let parts := run follows b l
      (b :: parts.1, parts.2)
    else ([], b :: l)

/-- The members in front that do not go down, or that all go down and are turned round, and the others. -/
def firstRun (before : α → α → Bool) : List α → List α × List α
  | [] => ([], [])
  | a :: l =>
    let falls := l.head?.any (before · a)
    let parts := run (fun x y => before y x == falls) a l
    (if falls then (a :: parts.1).reverse else a :: parts.1, parts.2)

/-- Asks about the member in the middle and goes on in the half before or after it. -/
def insert (before : α → α → Bool) (x : α) (l : List α) : List α :=
  let half := l.length / 2
  if l = [] then [x]
  else if l[half]?.any (before x) then insert before x (l.take half) ++ l.drop half
  else l.take (half + 1) ++ insert before x (l.drop (half + 1))
termination_by l.length
decreasing_by
  all_goals
    have hlength := List.length_pos_iff.2 ‹_›
    simp only [List.length_take, List.length_drop]
    omega

def sort (before : α → α → Bool) (l : List α) : List α :=
  let parts := firstRun before l
  parts.2.foldl (fun sorted x => insert before x sorted) parts.1

end Stylebook.Sorting
