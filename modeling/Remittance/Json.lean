import Remittance.Binary64
import Remittance.Text.CodePoint

namespace Remittance

inductive Json
  | null
  | bool (value : Bool)
  | whole (value : Int)
  | binary (value : Binary64)
  | string (text : Text)
  | array (items : List Json)
  | object (members : List (Text × Json))
deriving Repr, BEq

namespace Json

/-- The last member with a name counts. -/
def member? (members : List (Text × Json)) (name : Text) : Option Json :=
  (members.reverse.find? (·.1 == name)).map (·.2)

mutual

def texts : Json → List Text
  | string text => [text]
  | array items => textsOfItems items
  | object members => textsOfMembers members
  | _ => []

def textsOfItems : List Json → List Text
  | [] => []
  | item :: items => texts item ++ textsOfItems items

def textsOfMembers : List (Text × Json) → List Text
  | [] => []
  | (name, value) :: members => name :: texts value ++ textsOfMembers members

end

def ofOption {α : Type} (write : α → Json) : Option α → Json
  | none => null
  | some value => write value

end Json

end Remittance
