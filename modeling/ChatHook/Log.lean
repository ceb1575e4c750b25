import ChatHook.Event
import ChatHook.Pattern.Parse
import ChatHook.Text.Blank

/-!
# The log

Which records are shown is decided by directives, each a threshold for the parts of the program
whose names start in a certain way, and by a pattern for the text. Of the directives that fit a
record, the one with the longest name decides; without directives only errors are shown. Parts of
a setting that cannot be read are left out with a warning.
-/

namespace ChatHook

/-! ## Thresholds and directives -/

/-- How much is shown: everything up to a level, or nothing. -/
inductive Threshold where
  | off
  | upTo (level : LogLevel)
deriving DecidableEq

namespace Threshold

/-- Whether records of a level are shown. -/
def admits : Threshold → LogLevel → Bool
  | .off, _ => false
  | .upTo bound, level => level.rank ≤ bound.rank

/-- The thresholds by their names. -/
def catalogue : List (String × Threshold) :=
  ("OFF", .off) ::
    [LogLevel.error, .warn, .info, .debug, .trace].map fun level ↦ (level.name, .upTo level)

/-- The threshold of a name, in capitals or not. -/
def ofName? (name : List Char) : Option Threshold :=
  (catalogue.find? fun (known, _) ↦ known.toList = name.map Char.toUpper).map Prod.snd

end Threshold

/-- A threshold for the parts of the program whose names start in a certain way, or for all of
them. -/
structure Directive where
  target : Option (List Char)
  threshold : Threshold
deriving DecidableEq

namespace Directive

/-- How the names start that a directive is for. -/
def beginning (d : Directive) : List Char :=
  d.target.getD []

/-- Whether a directive is for a part of the program. -/
def fits (d : Directive) (target : String) : Bool :=
  d.beginning.isPrefixOf target.toList

/-- Adds a directive to others; it takes the place of one for the same parts. -/
def insert (ds : List Directive) (d : Directive) : List Directive :=
  if ds.any (·.target = d.target) then ds.map fun e ↦ if e.target = d.target then d else e
  else ds ++ [d]

/-- The directive that decides about a part of the program: of those that fit, the one with the
longest name, and the later one of two that are equal in this. -/
def decisive? (ds : List Directive) (target : String) : Option Directive :=
  (ds.filter (·.fits target)).foldl (fun best d ↦
    match best with
    | none => some d
    | some b => if b.beginning.length ≤ d.beginning.length then some d else some b) none

end Directive

/-! ## Settings -/

/-- What the log shows. -/
structure LogFilter where
  directives : List Directive
  pattern : Option Pattern

namespace LogFilter

/-- The filter without any setting. -/
def standard : LogFilter :=
  ⟨[], none⟩

/-- The threshold for a part of the program. -/
def threshold (f : LogFilter) (target : String) : Threshold :=
  if f.directives.isEmpty then .upTo .error
  else ((Directive.decisive? f.directives target).map Directive.threshold).getD .off

/-- Whether a record is shown. -/
def shows (f : LogFilter) (e : LogEvent) : Bool :=
  (f.threshold e.target).admits e.level && (f.pattern.map (·.occursIn e.text)).getD true

end LogFilter

/-- Why a part of a setting is left out. -/
inductive LogWarning where
  /-- The setting has more than two parts. -/
  | manyParts (setting : String)
  /-- No directive can be read from the text. -/
  | badDirective (text : String)
  | badPattern (source : List Char) (fault : Pattern.Fault)

/-- The wording of a warning. -/
def LogWarning.text : LogWarning → String
  | .manyParts setting =>
    "warning: invalid logging spec '" ++ setting ++ "', ignoring it (too many '/'s)"
  | .badDirective text => "warning: invalid logging spec '" ++ text ++ "', ignoring it"
  | .badPattern source fault => "warning: invalid regex filter - " ++ fault.report source

/-- The directive in an item of a setting. -/
def Directive.ofItem (item : List Char) : Except LogWarning Directive :=
  match item.splitOn '=' with
  | [name] =>
    match Threshold.ofName? name with
    | some threshold => .ok ⟨none, threshold⟩
    | none => .ok ⟨some name, .upTo .trace⟩
  | [target, level] =>
    let level := Text.trim level
    if level.isEmpty then .ok ⟨some target, .upTo .trace⟩
    else match Threshold.ofName? level with
      | some threshold => .ok ⟨some target, threshold⟩
      | none => .error (.badDirective (String.ofList level))
  | _ => .error (.badDirective (String.ofList item))

/-- The items of the first part of a setting. -/
def logItems (part : List Char) : List (List Char) :=
  ((part.splitOn ',').map Text.trim).filter (!·.isEmpty)

/-- The directives of some items, and the warnings about the others. -/
def readDirectives (items : List (List Char)) : List Directive × List LogWarning :=
  items.foldl (fun (ds, warnings) item ↦
    match Directive.ofItem item with
    | .ok d => (Directive.insert ds d, warnings)
    | .error w => (ds, warnings ++ [w])) ([], [])

/-- The filter of a setting, and warnings about what is left out of it. A setting is a list of
directives, and behind a slash a pattern. -/
def LogFilter.read (setting : String) : LogFilter × List LogWarning :=
  match setting.toList.splitOn '/' with
  | [directives] =>
    let (ds, warnings) := readDirectives (logItems directives)
    (⟨ds, none⟩, warnings)
  | [directives, pattern] =>
    let (ds, warnings) := readDirectives (logItems directives)
    match Pattern.parse pattern with
    | .ok p => (⟨ds, some p⟩, warnings)
    | .error fault => (⟨ds, none⟩, warnings ++ [.badPattern pattern fault])
  | _ => (standard, [.manyParts setting])

/-! ## Lines -/

/-- A text with blanks behind it up to a width. -/
def padTo (width : Nat) (text : String) : String :=
  text ++ String.ofList (List.replicate (width - text.length) ' ')

/-- A record as a line of the log. -/
def LogEvent.line (e : LogEvent) (width : Nat) : String :=
  " " ++ padTo 5 e.level.name ++ " " ++ padTo width e.target ++ " > " ++ e.text ++ "\n"

/-- The lines of some records. The parts of the program are as wide as the widest one so far, and
at least of the given width. -/
def logLines (width : Nat) : List LogEvent → List String
  | [] => []
  | e :: es =>
    let width := max width e.target.length
    e.line width :: logLines width es

end ChatHook
