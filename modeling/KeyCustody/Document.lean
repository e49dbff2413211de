/-!
# Documents

Structured values as settings are written in: texts, numbers, lists and tables of them. A table
remembers how it came to be, because that decides what a later line may add to it.
-/

namespace KeyCustody

/-- How a table came to be. -/
inductive TableForm where
  /-- It was written as a whole, and nothing can be added. -/
  | closed
  /-- It was opened by a header of its own, or it is the whole document. -/
  | headed
  /-- It was only named on the way by the header of another table. -/
  | implied
  /-- It was made by a key with dots. -/
  | dotted
deriving DecidableEq, Repr

/-- A structured value. -/
inductive Document where
  | absent
  | boolean (value : Bool)
  | integer (value : Int)
  /-- A number that is not written as a whole number. -/
  | fraction
  | text (value : String)
  | moment
  | list (items : List Document)
  /-- A list of tables, each of which was opened by a header. -/
  | tables (items : List (List (String × Document)))
  | table (form : TableForm) (entries : List (String × Document))

instance : Inhabited Document := ⟨.absent⟩

end KeyCustody
