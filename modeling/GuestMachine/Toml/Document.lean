import GuestMachine.Toml.Statement

/-! # TOML documents

A document is one table, built from its statements in order. An entry goes to
the table whose header came last; before the first header it goes to the
document itself.
-/

namespace GuestMachine.Toml

/-- A document in the making. -/
structure Draft where
  root : Value := .table .header []
  /-- The header that came last. -/
  current : List String := []

def Draft.add (draft : Draft) : Statement → Option Draft
  | .entry path value => do
      return { draft with
        root := ← Value.changeAt false (·.assign path value) draft.current draft.root }
  | .table path => do return { root := ← draft.root.openTable path, current := path }
  | .row path => do return { root := ← draft.root.openRow path, current := path }

/-- The document that the statements write. -/
def Value.ofStatements? (statements : List Statement) : Option Value :=
  (statements.foldlM Draft.add {}).map (·.root)

/-- Read a document. -/
def Value.parse? (text : String) : Option Value :=
  statements? text.toList >>= Value.ofStatements?

end GuestMachine.Toml
