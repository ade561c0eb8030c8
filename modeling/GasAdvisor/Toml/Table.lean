import GasAdvisor.Toml.Basic

/-!
# TOML tables

What may be put where in tables.

* `assign` puts a value under a key. A dotted key goes through the tables before its last part,
  which are made where they are missing; the innermost must have been made by a dotted key, and no
  table on the way may have a header of its own.
* `openTable` makes the table of a header; it may have been implied before.
* `appendTable` adds a table to the array of tables of a header.

A header's key goes through all tables but inline ones, and of an array of tables through the last.
-/

namespace GasAdvisor.Toml.Table

/-- What goes through tables: the key of a header, a dotted key in a section, or a dotted key in an
inline table. -/
inductive Passage where
  | header
  | dotted
  | inline
  deriving DecidableEq, Repr

/-- The form of the tables that are made on the way. -/
def Passage.form : Passage → TableForm
  | .header => .implied
  | .dotted | .inline => .dotted

/-- What forbids the way through a table, if anything. -/
def Passage.fault? : Passage → TableForm → Option Fault
  | .header, .inline => some (.notExtensible .inlineTable)
  | .header, _ => none
  | .dotted, .inline => some (.notExtensible .inlineTable)
  | .dotted, .header => some .duplicateKey
  | .dotted, _ => none
  | .inline, .inline => some .duplicateKey
  | .inline, .header => some .duplicateKey
  | .inline, _ => none

/-- Entries with the one under a key changed, or put in its place. -/
def alter (key : Key) (change : Option (Key × Toml) → Except Error (Key × Toml)) :
    Entries → Except Error Entries
  | [] => do return [← change none]
  | entry :: rest => do
    if entry.1.name = key.name then return (← change (some entry)) :: rest
    else if key.name < entry.1.name then return (← change none) :: entry :: rest
    else return entry :: (← alter key change rest)

/-- The last table of an array of tables changed. -/
def alterLast (change : Entries → Except Error Entries) :
    List (Stretch × Entries) → Except Error (List (Stretch × Entries))
  | [] => .ok []
  | [(stretch, last)] => do return [(stretch, ← change last)]
  | first :: rest => do return first :: (← alterLast change rest)

/-- The value under a part of a key, with the table changed that the key goes through there. -/
def pass (passage : Passage) (key : Key)
    (change : TableForm → Entries → Except Error Entries) : Toml → Except Error Toml
  | .table stretch form entries =>
    match passage.fault? form with
    | some fault => .error (fault.inStretch key.stretch)
    | none => do return .table stretch form (← change form entries)
  | .tables stretch items =>
    if passage = .inline then .error ((Fault.notExtensible .array).inStretch key.stretch)
    else do return .tables stretch (← alterLast (change .header) items)
  | value => .error ((Fault.notExtensible value.kind).inStretch key.stretch)

/-- Entries with the table at a path changed. -/
def within (passage : Passage) (change : TableForm → Entries → Except Error Entries) :
    (path : List Key) → TableForm → Entries → Except Error Entries
  | [], form, entries => change form entries
  | key :: path, _, entries =>
    alter key (fun
      | none => do
        return (key, .table key.stretch passage.form (← within passage change path passage.form []))
      | some (name, held) => do
        return (name, ← pass passage key (within passage change path) held)) entries

/-- A value put under a new key. -/
def insertNew (key : Key) (value : Toml) (entries : Entries) : Except Error Entries :=
  alter key (fun
    | none => .ok (key, value)
    | some _ => .error (Fault.duplicateKey.inStretch key.stretch)) entries

/-- A value put under the last part of a key, after the parts before it. -/
def assign (passage : Passage) (path : List Key) (last : Key) (value : Toml) (entries : Entries) :
    Except Error Entries :=
  within passage (fun form entries =>
    if path.isEmpty ∨ form = .dotted then insertNew last value entries
    else .error (Fault.duplicateKey.inStretch last.stretch)) path .header entries

/-- A table put under a header's key. `fill` makes its entries of those that it has already. -/
def openTable (path : List Key) (last : Key) (stretch : Stretch)
    (fill : Entries → Except Error Entries) (entries : Entries) : Except Error Entries :=
  within .header (fun _ => alter last (fun
    | none => do return (last, .table stretch .header (← fill []))
    | some (_, .table _ .implied held) => do return (last, .table stretch .header (← fill held))
    | some _ => .error (Fault.duplicateKey.inStretch last.stretch))) path .header entries

/-- A table added to the array of tables under a header's key. -/
def appendTable (path : List Key) (last : Key) (stretch : Stretch) (table entries : Entries) :
    Except Error Entries :=
  within .header (fun _ => alter last (fun
    | none => .ok (last, .tables stretch [(stretch, table)])
    | some (name, .tables first items) => .ok (name, .tables first (items ++ [(stretch, table)]))
    | some _ => .error (Fault.duplicateKey.inStretch last.stretch))) path .header entries

end GasAdvisor.Toml.Table
