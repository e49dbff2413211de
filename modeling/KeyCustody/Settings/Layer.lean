import KeyCustody.Document

/-!
# Layers of settings

A layer sets some settings and leaves others open. It is written as a table of sections, each of which is
a table of its settings; either may also be written as a list of its parts in order. A later layer
overrides an earlier one setting by setting.
-/

namespace KeyCustody

/-- Settings of the HTTP server. -/
structure HttpLayer where
  host : Option String
  port : Option UInt16
deriving DecidableEq, Repr

/-- Settings of the database. -/
structure DatabaseLayer where
  url : Option String
deriving DecidableEq, Repr

/-- Settings of the log. -/
structure LoggingLayer where
  level : Option String
deriving DecidableEq, Repr

/-- Settings of the unsealing. -/
structure UnsealLayer where
  total : Option UInt8
  threshold : Option UInt8
  allowList : Option (List String)
deriving DecidableEq, Repr

/-- A layer of settings. A section that it has may still set nothing. -/
structure SettingsLayer where
  http : Option HttpLayer
  database : Option DatabaseLayer
  logging : Option LoggingLayer
  unsealing : Option UnsealLayer
deriving DecidableEq, Repr

/-- The section without settings. -/
def HttpLayer.empty : HttpLayer := ⟨none, none⟩

/-- The section without settings. -/
def DatabaseLayer.empty : DatabaseLayer := ⟨none⟩

/-- The section without settings. -/
def LoggingLayer.empty : LoggingLayer := ⟨none⟩

/-- The section without settings. -/
def UnsealLayer.empty : UnsealLayer := ⟨none, none, none⟩

/-- The settings of a section with those of a later one over them. -/
def HttpLayer.override (earlier later : HttpLayer) : HttpLayer :=
  ⟨later.host.or earlier.host, later.port.or earlier.port⟩

/-- The settings of a section with those of a later one over them. -/
def DatabaseLayer.override (earlier later : DatabaseLayer) : DatabaseLayer :=
  ⟨later.url.or earlier.url⟩

/-- The settings of a section with those of a later one over them. -/
def LoggingLayer.override (earlier later : LoggingLayer) : LoggingLayer :=
  ⟨later.level.or earlier.level⟩

/-- The settings of a section with those of a later one over them. An allow-list replaces the earlier
one, even if it is empty. -/
def UnsealLayer.override (earlier later : UnsealLayer) : UnsealLayer :=
  ⟨later.total.or earlier.total, later.threshold.or earlier.threshold,
    later.allowList.or earlier.allowList⟩

namespace SettingsLayer

/-- The layer without sections. -/
def empty : SettingsLayer := ⟨none, none, none, none⟩

/-- The section of two layers, if at least one of them has it. -/
def overrideSection {Section : Type} (override : Section → Section → Section) :
    Option Section → Option Section → Option Section
  | some earlier, some later => some (override earlier later)
  | earlier, none => earlier
  | none, later => later

/-- A layer with a later one over it. -/
def override (earlier later : SettingsLayer) : SettingsLayer :=
  { http := overrideSection HttpLayer.override earlier.http later.http
    database := overrideSection DatabaseLayer.override earlier.database later.database
    logging := overrideSection LoggingLayer.override earlier.logging later.logging
    unsealing := overrideSection UnsealLayer.override earlier.unsealing later.unsealing }

end SettingsLayer

end KeyCustody
