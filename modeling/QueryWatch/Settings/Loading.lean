import QueryWatch.Settings.Basic
import QueryWatch.Text.Utf8
import QueryWatch.Toml.Reader

/-!
Reading settings. Everything has a default, and names that are not known are passed over. A group of
settings can also be a list of them in order, as far as they are given.
-/

set_option autoImplicit false

namespace QueryWatch

open Toml (Node)

/-- Why settings could not be read. -/
inductive SettingsError
  | unreadable
  | malformed
  deriving DecidableEq, Repr

/-- What stands where the settings are looked for. -/
inductive SettingsFile
  | missing
  | unreadable
  | bytes (bytes : Text.Bytes)
  deriving DecidableEq, Repr

namespace Settings

/-- A group of settings as it is given. -/
inductive Group
  | named (fields : Toml.Fields)
  | listed (items : List Node)

/-- The group a node stands for. A point in time stands for a group in which nothing is set. -/
def group? : Node → Option Group
  | .table _ fields => some (.named fields)
  | .inline _ fields => some (.named fields)
  | .time => some (.named [])
  | .list items => some (.listed items)
  | .tables items => some (.listed (items.map (.table .header)))
  | _ => none

/-- What is set under a name or at an index of a group, or its default. -/
def Group.setting {α : Type} (g : Group) (index : Nat) (name : String) (read : Node → Option α)
    (default : α) : Option α :=
  let node := match g with
    | .named fields => fields.lookup name
    | .listed items => items[index]?
  match node with
  | none => some default
  | some node => read node

def readCount : Node → Option Nat
  | .whole i => if 0 ≤ i then some i.toNat else none
  | _ => none

def readBool : Node → Option Bool
  | .bool b => some b
  | _ => none

def readText : Node → Option String
  | .string s => some s
  | _ => none

def readTexts : Node → Option (List String)
  | .list items => items.mapM readText
  | .tables [] => some []
  | _ => none

/-- Something that can be left out but is given. -/
def readGiven {α : Type} (read : Node → Option α) (node : Node) : Option (Option α) :=
  (read node).map some

def policy? (name : String) : Option FocusPolicy :=
  if name = "first_session_wins" then some .firstSessionWins
  else if name = "follow_newest" then some .followNewest
  else none

/-- Whether a node is a table or list with nothing in it. -/
def isEmptyNode : Node → Bool
  | .table _ fields => fields.isEmpty
  | .inline _ fields => fields.isEmpty
  | .list items => items.isEmpty
  | .tables items => items.isEmpty
  | _ => false

/-- A policy is given by its name, or by a table with the name alone and nothing under it. -/
def readPolicy : Node → Option FocusPolicy
  | .string s => policy? s
  | .table _ [(name, node)] => if isEmptyNode node then policy? name else none
  | .inline _ [(name, node)] => if isEmptyNode node then policy? name else none
  | _ => none

def readDashboard (node : Node) : Option DashboardSettings := do
  let g ← group? node
  let d : DashboardSettings := {}
  return {
    filterDelay := ← g.setting 0 "filter_debounce_ms" readCount d.filterDelay
    focusPolicy := ← g.setting 1 "active_session_policy" readPolicy d.focusPolicy
    expandByDefault := ← g.setting 2 "expand_by_default" readBool d.expandByDefault
    orphanCapacity := ← g.setting 3 "orphan_buffer_capacity" readCount d.orphanCapacity }

def readDaemon (node : Node) : Option DaemonSettings := do
  let g ← group? node
  let d : DaemonSettings := {}
  return {
    socketPath := ← g.setting 0 "socket_path" (readGiven readText) d.socketPath
    tickInterval := ← g.setting 1 "tick_interval_ms" readCount d.tickInterval }

def readFeed (node : Node) : Option FeedSettings := do
  let g ← group? node
  let d : FeedSettings := {}
  return {
    address := ← g.setting 0 "address" (readGiven readText) d.address
    autoConnect := ← g.setting 1 "auto_connect" readBool d.autoConnect
    reconnectInitial := ← g.setting 2 "reconnect_initial_ms" readCount d.reconnectInitial
    reconnectMax := ← g.setting 3 "reconnect_max_ms" readCount d.reconnectMax }

def readExecutor (node : Node) : Option ExecutorSettings := do
  let g ← group? node
  let d : ExecutorSettings := {}
  return {
    program := ← g.setting 0 "program" (readGiven readText) d.program
    args := ← g.setting 1 "args" readTexts d.args
    timeout := ← g.setting 2 "timeout_ms" readCount d.timeout }

/-- The settings of a document. -/
def ofFields (fields : Toml.Fields) : Option Settings := do
  let g : Group := .named fields
  return {
    dashboard := ← g.setting 0 "dashboard" readDashboard {}
    daemon := ← g.setting 1 "daemon" readDaemon {}
    feed := ← g.setting 2 "feed" readFeed {}
    executor := ← g.setting 3 "executor" readExecutor {} }

/-- The settings in a file; all are defaults if there is none. -/
def load (file : SettingsFile) : Except SettingsError Settings :=
  match file with
  | .missing => .ok {}
  | .unreadable => .error .unreadable
  | .bytes bytes =>
    match Text.Utf8.decode? bytes with
    | none => .error .unreadable
    | some text =>
      match (Toml.read text).bind ofFields with
      | none => .error .malformed
      | some settings => .ok settings

end Settings
end QueryWatch
