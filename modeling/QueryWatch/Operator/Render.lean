import QueryWatch.Operator.Seen
import QueryWatch.Text.Blank

/-!
The daemon's view and health as texts for people. A query that is not shown in full stands on one
line, its words one blank apart, cut to a width.
-/

set_option autoImplicit false

namespace QueryWatch.Render

/-- A text with blanks behind it up to a width. -/
def padEnd (width : Nat) (s : String) : String :=
  s ++ String.ofList (List.replicate (width - s.toList.length) ' ')

/-- A text with blanks in front of it up to a width. -/
def padStart (width : Nat) (s : String) : String :=
  String.ofList (List.replicate (width - s.toList.length) ' ') ++ s

/-- The words of a text with single blanks between them. -/
def singleLine (text : List Char) : List Char := [' '].intercalate (Text.words text)

/-- The words of a text on one line of at most `width` characters; what is cut off is marked by
three dots. -/
def oneLine (text : String) (width : Nat) : String :=
  let line := singleLine text.toList
  if line.length ≤ width then String.ofList line
  else String.ofList (line.take (width - 3) ++ ['.', '.', '.'])

/-- The width of a query that is not shown in full. -/
def queryWidth : Nat := 72

def line (s : String) : String := s ++ "\n"

def sessionLine (s : SeenSession) : String :=
  line <|
    (if s.isSelected then "> #" else "  #") ++ s.connection ++
    (if 0 < s.generation then " (reuse " ++ toString s.generation ++ ")" else "") ++ "  " ++
    (if s.isLive then "live" else "closed") ++ "  " ++ toString s.queryCount ++ " queries  " ++
    toString s.visibleQueries ++ " shown"

def queryLine (q : SeenQuery) : String :=
  let duration := match q.millis with
    | some n => toString n.toNat ++ " ms"
    | none => "-"
  let text := if q.expanded then q.text else oneLine q.text queryWidth
  line <|
    "  " ++ padStart 5 (toString q.command.toNat) ++ "  " ++ padEnd 7 q.status ++ "  " ++
    padStart 8 duration ++ "  " ++ padEnd 12 (q.database.getD "-") ++ "  " ++ text

def queryLines (q : SeenQuery) : String :=
  let details :=
    if q.expanded then
      (if q.parameters.isEmpty then ""
        else line ("         params: " ++ ", ".intercalate q.parameters)) ++
      (match q.message with
        | some message => line ("         error: " ++ message)
        | none => "")
    else ""
  queryLine q ++ details

def filterLine (f : SeenFilter) : String :=
  if f.applied ≠ "" ∨ f.filtering then
    line <| "Filter: \"" ++ f.applied ++ "\"" ++ match f.pending with
      | some pending => " (updating to \"" ++ pending ++ "\")"
      | none => ""
  else ""

def sessionLines (sessions : List SeenSession) : String :=
  if sessions.isEmpty then line "No sessions yet"
  else line "Sessions" ++ String.join (sessions.map sessionLine)

def activeLines (active : String) (queries : List SeenQuery) : String :=
  line ("\nQueries on #" ++ active) ++
    if queries.isEmpty then line "  (none)" else String.join (queries.map queryLines)

def executionLines (e : SeenExecution) : String :=
  let label := if e.ok then "Last execution" else "Last execution failed"
  let clock := match e.executedAt with
    | some time => time.clock
    | none => ""
  line "" ++ line (label ++ " " ++ clock) ++ line (Text.trimEnd e.payload)

/-- The view as a text. -/
def view (v : SeenView) : String :=
  line ("Feed: " ++ (if v.connected then "connected" else "disconnected") ++ "   Queries: " ++
    toString v.recordCount) ++
  filterLine v.filter ++ line "" ++ sessionLines v.sessions ++
  (match v.active with
    | some active => activeLines active v.queries
    | none => "") ++
  (match v.lastExecution with
    | some e => executionLines e
    | none => "")

/-- The health as a text. What is absent or of another type counts as unknown. -/
def health (j : Json) : String :=
  let text (name default : String) : String := ((j.get? name).bind Json.asString?).getD default
  let connected := ((j.get? "connected").bind Json.asBool?).getD false
  let total := ((j.get? "total_queries").bind Json.asCount?).getD 0
  "daemon " ++ text "status" "unknown" ++ " (v" ++ text "version" "?" ++ "), feed " ++
    (if connected then "connected" else "disconnected") ++ ", " ++ toString total ++ " queries"

end QueryWatch.Render
