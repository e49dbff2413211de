import KeyCustody.Settings.Layer

/-!
# Layers as documents

Which layer of settings a document stands for, if it stands for one. Settings of another kind than
expected are refused, and names that no setting has are ignored.
-/

namespace KeyCustody

/-- What a section written as a list may hold beyond its settings. -/
inductive SurplusRule where
  | refused
  | ignored
deriving DecidableEq, Repr

namespace Document

/-- The values of the given names, in order, from a table of them or from a list of the values. A date
or a time counts as a table without any of them. -/
def parts? (surplus : SurplusRule) (names : List String) : Document → Option (List Document)
  | table _ entries => some (names.map fun name => (entries.lookup name).getD absent)
  | list items =>
    if surplus = .refused ∧ names.length < items.length then none
    else some ((List.range names.length).map fun position => items[position]?.getD absent)
  | tables items =>
    some ((List.range names.length).map fun position =>
      ((items[position]?).map (table .headed)).getD absent)
  | moment => some (names.map fun _ => absent)
  | _ => none

/-- A setting that may be absent. -/
def optional? {Value : Type} (read : Document → Option Value) : Document → Option (Option Value)
  | absent => some none
  | value => (read value).map some

/-- A text. -/
def text? : Document → Option String
  | text value => some value
  | _ => none

/-- A whole number below a bound. -/
def numberBelow? (bound : Nat) : Document → Option Nat
  | integer value => if 0 ≤ value ∧ value < bound then some value.toNat else none
  | _ => none

/-- A number below 256. -/
def byte? (value : Document) : Option UInt8 :=
  (value.numberBelow? 256).map Nat.toUInt8

/-- A number below 65536. -/
def port? (value : Document) : Option UInt16 :=
  (value.numberBelow? 65536).map Nat.toUInt16

/-- A list of texts. A list of tables holds none. -/
def texts? : Document → Option (List String)
  | list items => items.mapM text?
  | _ => none

end Document

/-- The section of the HTTP server that a document stands for. -/
def HttpLayer.ofDocument? (surplus : SurplusRule) (document : Document) : Option HttpLayer := do
  match ← document.parts? surplus ["host", "port"] with
  | [host, port] => return ⟨← host.optional? Document.text?, ← port.optional? Document.port?⟩
  | _ => none

/-- The section of the database that a document stands for. -/
def DatabaseLayer.ofDocument? (surplus : SurplusRule) (document : Document) :
    Option DatabaseLayer := do
  match ← document.parts? surplus ["url"] with
  | [url] => return ⟨← url.optional? Document.text?⟩
  | _ => none

/-- The section of the log that a document stands for. -/
def LoggingLayer.ofDocument? (surplus : SurplusRule) (document : Document) :
    Option LoggingLayer := do
  match ← document.parts? surplus ["level"] with
  | [level] => return ⟨← level.optional? Document.text?⟩
  | _ => none

/-- The section of the unsealing that a document stands for. -/
def UnsealLayer.ofDocument? (surplus : SurplusRule) (document : Document) :
    Option UnsealLayer := do
  match ← document.parts? surplus ["total_shares", "threshold", "gate_allow_list"] with
  | [total, threshold, allowList] =>
    return ⟨← total.optional? Document.byte?, ← threshold.optional? Document.byte?,
      ← allowList.optional? Document.texts?⟩
  | _ => none

/-- The layer that a document stands for. -/
def SettingsLayer.ofDocument? (surplus : SurplusRule) (document : Document) :
    Option SettingsLayer := do
  match ← document.parts? surplus ["http", "database", "logging", "unseal"] with
  | [http, database, logging, unsealing] =>
    return {
      http := ← http.optional? (HttpLayer.ofDocument? surplus)
      database := ← database.optional? (DatabaseLayer.ofDocument? surplus)
      logging := ← logging.optional? (LoggingLayer.ofDocument? surplus)
      unsealing := ← unsealing.optional? (UnsealLayer.ofDocument? surplus) }
  | _ => none

end KeyCustody
