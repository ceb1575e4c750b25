import ChatHook.Url.Basic
import ChatHook.Url.Percent

/-!
# Path segments

A path is read segment by segment. One dot adds nothing, two dots take the last segment away, and
at the end of the path both leave an empty segment, so that the path still ends in a slash.
-/

namespace ChatHook.Url

/-- Whether a segment is one dot, perhaps encoded. -/
def isSingleDot (cs : List Char) : Bool :=
  [".", "%2e"].contains (String.ofList (cs.map Char.toLower))

/-- Whether a segment is two dots, perhaps encoded. -/
def isDoubleDot (cs : List Char) : Bool :=
  ["..", ".%2e", "%2e.", "%2e%2e"].contains (String.ofList (cs.map Char.toLower))

/-- Whether a segment is a letter and a colon or a bar: a drive. -/
def isDrive : List Char → Bool
  | [letter, mark] => letter.isAlpha && (mark = ':' || mark = '|')
  | _ => false

/-- How paths of a URL are read: whether backslashes are slashes, and whether drives are minded. -/
structure PathRules where
  backslash : Bool
  drives : Bool

/-- How paths of a scheme are read. -/
def PathRules.of (scheme : String) : PathRules :=
  ⟨isSpecial scheme, scheme = "file"⟩

/-- Whether a character ends a segment. -/
def PathRules.isSlash (rules : PathRules) (c : Char) : Bool :=
  c = '/' || (rules.backslash && c = '\\')

/-- The last segment taken away, unless it is a drive that is minded. Segments stand last first. -/
def PathRules.shorten (rules : PathRules) (done : List String) : List String :=
  match done with
  | [] => []
  | last :: front => if rules.drives && isDrive last.toList then done else front

/-- One more segment; segments stand last first. -/
def PathRules.push (rules : PathRules) (done : List String) (cs : List Char) (isLast : Bool) :
    List String :=
  if isDoubleDot cs then
    let shorter := rules.shorten done
    if isLast then "" :: shorter else shorter
  else if isSingleDot cs then
    if isLast then "" :: done else done
  else if rules.drives && isDrive cs && done.all (· = "") then
    String.ofList (cs.take 1 ++ [':']) :: done
  else String.ofList (percentEncode pathSet cs) :: done

/-- All segments of a text, behind those already done; segments stand last first. -/
def PathRules.pushAll (rules : PathRules) (done : List String) : List (List Char) → List String
  | [] => done
  | [cs] => rules.push done cs true
  | cs :: rest => rules.pushAll (rules.push done cs false) rest

/-- The path that a text, which stands behind a slash, makes together with the segments already
done, which stand last first. A path whose drives are minded has no empty segment in front. -/
def PathRules.path (rules : PathRules) (done : List String) (cs : List Char) : Path :=
  let list := (rules.pushAll done (cs.splitOnP rules.isSlash)).reverse
  if rules.drives then
    let bare := list.dropWhile (· = "")
    .segments (if bare.isEmpty then [""] else bare)
  else .segments list

end ChatHook.Url
