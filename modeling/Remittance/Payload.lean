import Remittance.Account
import Remittance.Json
import Remittance.Text.Field
import Remittance.Text.Uppercase

namespace Remittance

/-! A payload is checked as a whole: every complaint is kept, with the place it is about, in the
order in which accounts and instruction are declared. -/

inductive Place
  | name (text : String)
  | index (n : Nat)
deriving Repr, DecidableEq

inductive Complaint
  | invalidJson
  | missing
  | notObject
  | notList
  | notString
  | notUnicode
  | notWhole
  | notNumber
  | notFinite
  | tooShort
  | tooLong
deriving Repr, DecidableEq

namespace Complaint

def kind : Complaint → String
  | invalidJson => "json_invalid"
  | missing => "missing"
  | notObject => "model_attributes_type"
  | notList => "list_type"
  | notString => "string_type"
  | notUnicode => "string_unicode"
  | notWhole => "int_type"
  | notNumber => "float_type"
  | notFinite => "finite_number"
  | tooShort => "string_too_short"
  | tooLong => "string_too_long"

def message : Complaint → String
  | invalidJson => "JSON decode error"
  | missing => "Field required"
  | notObject => "Input should be a valid dictionary or object to extract fields from"
  | notList => "Input should be a valid list"
  | notString => "Input should be a valid string"
  | notUnicode => "Input should be a valid string, unable to parse raw data as a unicode string"
  | notWhole => "Input should be a valid integer"
  | notNumber => "Input should be a valid number"
  | notFinite => "Input should be a finite number"
  | tooShort => "String should have at least 3 characters"
  | tooLong => "String should have at most 3 characters"

end Complaint

structure PayloadError where
  place : List Place
  complaint : Complaint
deriving Repr, DecidableEq

abbrev Checked (α : Type) := Except (List PayloadError) α

namespace Checked

variable {α β γ : Type}

def complain (place : List Place) (complaint : Complaint) : Checked α :=
  .error [⟨place, complaint⟩]

/-- Both values, or the complaints about either, the first ones first. -/
def both (join : α → β → γ) : Checked α → Checked β → Checked γ
  | .ok a, .ok b => .ok (join a b)
  | .ok _, .error e => .error e
  | .error e, .ok _ => .error e
  | .error e, .error e' => .error (e ++ e')

theorem both_eq_ok_iff {join : α → β → γ} {a : Checked α} {b : Checked β} {c : γ} :
    both join a b = .ok c ↔ ∃ x y, a = .ok x ∧ b = .ok y ∧ join x y = c := by
  cases a <;> cases b <;> simp [both]

def all (read : Place → Json → Checked α) (start : Nat) : List Json → Checked (List α)
  | [] => .ok []
  | item :: items => both List.cons (read (.index start) item) (all read (start + 1) items)

end Checked

structure Payload where
  accounts : List Account
  instruction : Text
deriving Repr, DecidableEq

namespace Payload

open Checked

def required {α : Type} (members : List (Text × Json)) (place : List Place) (name : String)
    (read : List Place → Json → Checked α) : Checked α :=
  let there := place ++ [.name name]
  match Json.member? members name with
  | none => complain there .missing
  | some value => read there value

/-- Texts are kept without the blanks around them. -/
def readText (place : List Place) : Json → Checked Text
  | .string text => .ok text.trim
  | _ => complain place .notString

/-- A currency is three characters, once it is in capitals; a surrogate is none. -/
def readCurrency (place : List Place) : Json → Checked Text
  | .string text =>
      let currency := text.trim.upper
      if currency.any CodePoint.isSurrogate then complain place .notUnicode
      else if currency.length < 3 then complain place .tooShort
      else if 3 < currency.length then complain place .tooLong
      else .ok currency
  | _ => complain place .notString

/-- What is neither a whole number nor a finite one is complained about twice, as either. -/
def readBalance (place : List Place) : Json → Checked Balance
  | .whole n => .ok (.whole n)
  | .binary x =>
      if x.isFinite then .ok (.binary x)
      else .error [⟨place ++ [.name "int"], .notWhole⟩, ⟨place ++ [.name "float"], .notFinite⟩]
  | _ => .error [⟨place ++ [.name "int"], .notWhole⟩, ⟨place ++ [.name "float"], .notNumber⟩]

def readAccount (place : List Place) : Json → Checked Account
  | .object members =>
      both (fun id rest => ⟨id, rest.1, rest.2⟩) (required members place "id" readText)
        (both Prod.mk (required members place "balance" readBalance)
          (required members place "currency" readCurrency))
  | _ => complain place .notObject

def readAccounts (place : List Place) : Json → Checked (List Account)
  | .array items => all (fun index => readAccount (place ++ [index])) 0 items
  | _ => complain place .notList

def body : List Place := [.name "body"]

def ofJson : Json → Checked Payload
  | .object members =>
      both Payload.mk (required members body "accounts" readAccounts)
        (required members body "instruction" readText)
  | _ => complain body .notObject

end Payload

def Place.toJson : Place → Json
  | name text => .string text
  | index n => .whole n

def PayloadError.toJson (e : PayloadError) : Json :=
  .object [
    ("loc", .array (e.place.map Place.toJson)),
    ("msg", .string e.complaint.message),
    ("type", .string e.complaint.kind)]

end Remittance
