import FailureDispatch.Config.Integer
import FailureDispatch.Config.Settings
import FailureDispatch.Yaml.Node

/-!
# Settings from a document

A configuration document overrides the default settings.  It has two
sections, and whatever is absent keeps its default.  Reading is strict: a key
that is unknown or repeated spoils the document, wherever it stands.

Two notions of absence are kept apart.  A section may be empty, which is the
same as being left out; a field may not, except that the empty text is a text.
-/

namespace FailureDispatch
namespace Config

open Yaml (Node ScalarStyle)

/-- The tag of integers. -/
def integerTag : String := "tag:yaml.org,2002:int"

/-- A text field is any scalar, taken as it is written. -/
def text? : Node → Option String
  | .scalar text _ _ => some text
  | _ => none

/-- An integer field is a plain scalar.  A literal block is admitted when it
is explicitly tagged as an integer. -/
def number? : Node → Option Nat
  | .scalar text .plain _ => integer? text.toList
  | .scalar text .literal tag => if tag = some integerTag then integer? text.toList else none
  | _ => none

/-- The fields of a section, in the order in which they are given. -/
abbrev Fields := List (String × Node)

/-- The fields of a mapping, whose keys are texts. -/
def fields? (entries : List (Node × Node)) : Option Fields :=
  entries.mapM fun entry => (text? entry.1).map fun key => (key, entry.2)

/-- Whether the keys are known and pairwise different. -/
def keysGood (known : List String) (fields : Fields) : Bool :=
  (fields.all fun field => known.contains field.1) && decide (fields.map (·.1)).Nodup

/-- A section is empty, or a mapping with good keys. -/
def section? (known : List String) : Node → Option Fields
  | .scalar text style _ => if text.isEmpty ∧ style = .plain then some [] else none
  | .mapping entries => (fields? entries).filter (keysGood known)
  | _ => none

/-- A field is the given value, or its default when it is absent. -/
def field? {α : Type} (fields : Fields) (name : String) (read : Node → Option α) (default : α) :
    Option α :=
  match fields.lookup name with
  | some node => read node
  | none => some default

/-- The settings that a document gives. -/
def settingsOf? (node : Node) : Option Settings := do
  let defaults : Settings := {}
  let sections ← section? ["failure_handling", "logging"] node
  let handling ← field? sections "failure_handling"
    (section? ["shutdown_await_ms", "queue_capacity"]) []
  let logging ← field? sections "logging" (section? ["filter"]) []
  let shutdownAwait ← field? handling "shutdown_await_ms" number? defaults.shutdownAwait
  let queueCapacity ← field? handling "queue_capacity" number? defaults.queueCapacity
  let filter ← field? logging "filter" text? defaults.filter
  return { shutdownAwait, queueCapacity, filter }

/-- Accept settings only if a service could work with them. -/
def checked (settings : Settings) : Except ConfigError Settings :=
  match settings.validate with
  | .ok _ => .ok settings
  | .error error => .error error

/-- The settings of a stream of documents, which may hold one document or none. -/
def ofDocuments : List Node → Except ConfigError Settings
  | [] => checked {}
  | [node] =>
      match settingsOf? node with
      | some settings => checked settings
      | none => .error .parse
  | _ => .error .parse

/-- The settings of a text. -/
def ofText (text : String) : Except ConfigError Settings :=
  match Yaml.documents? text.toList with
  | some documents => ofDocuments documents
  | none => .error .parse

/-- Why a file that does not exist cannot be loaded. -/
def missingFile : ConfigError := .load "No such file or directory (os error 2)"

/-- The settings of a file, given its content if it exists.  The content must
be UTF-8. -/
def ofFile : Option ByteArray → Except ConfigError Settings
  | none => .error missingFile
  | some content =>
      match String.fromUTF8? content with
      | some text => ofText text
      | none => .error .parse

end Config
end FailureDispatch
