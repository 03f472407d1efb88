import PodcastLedger.Web.Percent

/-!
# Paths

The path of a web address is a list of segments. `Path.parse` separates them at slashes of either
direction, resolves the segments that stand for the same or the parent level, and percent-encodes
the rest; a path has at least one segment (`parse_ne_nil`).
-/

namespace PodcastLedger.Web.Path

/-- The written forms of a dot in a segment. -/
def dots : List (List Char) :=
  [['.'], ['%', '2', 'e'], ['%', '2', 'E']]

/-- The segment stands for the level that it is on. -/
def isSame (segment : List Char) : Bool :=
  dots.contains segment

/-- The segment stands for the level above. -/
def isParent (segment : List Char) : Bool :=
  (dots.flatMap fun first => dots.map (first ++ ·)).contains segment

/-- Resolves the segments that follow the levels `above`, which are listed from the last one on. A
last segment that stands for a level leaves an empty segment. -/
def resolve (above : List (List Char)) : List (List Char) → List (List Char)
  | [] => above.reverse
  | [last] =>
    if isParent last then (above.drop 1).reverse ++ [[]]
    else if isSame last then above.reverse ++ [[]]
    else above.reverse ++ [last]
  | segment :: next :: rest =>
    if isParent segment then resolve (above.drop 1) (next :: rest)
    else if isSame segment then resolve above (next :: rest)
    else resolve (segment :: above) (next :: rest)

/-- The segments of the text of a path, which begins with a slash unless it is empty. -/
def parse (text : List Char) : List (List Char) :=
  resolve []
    (((text.drop 1).splitOnP fun c => c == '/' || c == '\\').map
      (Percent.encode Percent.isEscapedInPath))

/-- The written form of a path. -/
def toText (segments : List (List Char)) : List Char :=
  segments.flatMap ('/' :: ·)

/-- Resolving leaves a segment if there was one. -/
theorem resolve_ne_nil {above segments : List (List Char)} (h : segments ≠ []) :
    resolve above segments ≠ [] := by
  fun_induction resolve above segments with
  | case1 => exact absurd rfl h
  | case2 => simp
  | case3 => simp
  | case4 => simp
  | case5 _ _ _ _ _ ih => exact ih (by simp)
  | case6 _ _ _ _ _ _ ih => exact ih (by simp)
  | case7 _ _ _ _ _ _ ih => exact ih (by simp)

/-- A path has a segment. -/
theorem parse_ne_nil (text : List Char) : parse text ≠ [] :=
  resolve_ne_nil (by simp [List.splitOnP_ne_nil])

end PodcastLedger.Web.Path
