import Remittance.Text.Field
import Remittance.Text.Uppercase

namespace Remittance

open Remittance.Text

structure Clause where
  main : Text
  executeBy : Option Text
deriving Repr, DecidableEq

namespace Clause

def marker : Text := " ON "

/-- The marker is sought in the capitals of the text and cut at the same place of the text. -/
def ofText (text : Text) : Clause :=
  match position? marker (upper text) with
  | none => ⟨text, none⟩
  | some i =>
      ⟨trim (text.take i),
        some ((trim (text.drop (i + marker.length))).takeWhile (! isSpace ·))⟩

end Clause

/-- Tokens are read twice: as they are written, and in capitals to find keywords. -/
structure Tokens where
  capitals : List Text
  written : List Text
deriving Repr, DecidableEq

namespace Tokens

def ofWritten (written : List Text) : Tokens :=
  ⟨written.map upper, written⟩

def ofClause (main : Text) : Tokens :=
  ofWritten (runs isSpace main)

@[simp] theorem written_ofWritten (written : List Text) :
    (ofWritten written).written = written := rfl

@[simp] theorem capitals_ofWritten (written : List Text) :
    (ofWritten written).capitals = written.map upper := rfl

end Tokens

structure Reading where
  clause : Clause
  tokens : Tokens
deriving Repr, DecidableEq

/-- A text is squeezed, its date clause cut off, and the rest split into tokens. -/
def Reading.ofText (text : Text) : Reading :=
  let clause := Clause.ofText (squeeze text)
  ⟨clause, Tokens.ofClause clause.main⟩

end Remittance
