import ClearingHouse.Identity.Caller
import ClearingHouse.Message.Basic
import ClearingHouse.Table

/-!
# The directory of users

The directory tells for every user the role and the account.  It is read from
a JSON list; a later record of the same name replaces an earlier one.
-/

namespace ClearingHouse

structure User where
  username : String
  role : String
  account : AccountNumber
  bank : BankName
  deriving DecidableEq

namespace User

def caller (user : User) : Caller := ⟨user.username, user.bank, user.account⟩

structure Draft where
  username : Option String := none
  role : Option String := none
  account : Option AccountNumber := none
  bank : Option BankName := none

/-- The user, once all fields but the role are there.  Without a role the role
is empty. -/
def Draft.complete (draft : Draft) : Option User := do
  return ⟨← draft.username, draft.role.getD "", ← draft.account, ← draft.bank⟩

def fields : List (Json.Reader.Field Draft) :=
  [Message.field "username" Draft.username fun draft username =>
      { draft with username := some username },
    Message.field "role" Draft.role fun draft role =>
      { draft with role := some role },
    Message.field "account_no" Draft.account fun draft account =>
      { draft with account := some account },
    Message.field "bank_name" Draft.bank fun draft bank =>
      { draft with bank := some bank }]

def reader : Json.Reader User :=
  Json.Reader.record fields {} Draft.complete

end User

abbrev Directory : Type := Table String User

namespace Directory

def malformedMessage : String := "Malformed user directory"

def ofUsers (users : List User) : Directory :=
  Table.ofList (users.map fun user => (user.username, user))

def parse (text : String) : Except Json.Fault Directory := do
  let users ← Json.Reader.run (Json.Reader.list User.reader) text.toList
  return ofUsers users

def user? (directory : Directory) (username : String) : Option User :=
  Table.find? directory username

def caller? (directory : Directory) (username : String) : Option Caller :=
  (directory.user? username).map User.caller

end Directory

end ClearingHouse
