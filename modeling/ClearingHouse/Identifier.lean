import ClearingHouse.Text.Blank

/-!
# Names of banks, accounts and transfers

The three kinds of name travel as plain texts.  They have types of their own,
so that none of them can stand in the place of another.
-/

namespace ClearingHouse

structure AccountNumber where
  text : String
  deriving DecidableEq, Inhabited

/-- The name under which a bank is registered. -/
structure BankName where
  text : String
  deriving DecidableEq, Inhabited

/-- The name that a caller gives to one transfer, and repeats whenever the same
transfer is asked for again. -/
structure TransferId where
  text : String
  deriving DecidableEq, Inhabited

def BankName.ofIndex (index : Nat) : BankName := ⟨s!"bank{index}"⟩

def BankName.isBlank (name : BankName) : Bool := Text.isAllBlank name.text

def TransferId.isBlank (transfer : TransferId) : Bool :=
  Text.isAllBlank transfer.text

/-- The digits to the base thirty-two, without the letters that can be taken for
others. -/
def nameDigits : List Char := "0123456789ABCDEFGHJKMNPQRSTVWXYZ".toList

/-- The last digits of a number to the base thirty-two, as many as `width`. -/
def lastNameDigits : (width number : Nat) → List Char
  | 0, _ => []
  | width + 1, number =>
      lastNameDigits width (number / 32) ++ [nameDigits.getD (number % 32) '0']

/-- The name of a transfer that is made up at a time in milliseconds.  The noise
tells it from others of the same time, and names are sorted by their times. -/
def TransferId.fresh (milliseconds noise : Nat) : TransferId :=
  ⟨String.ofList (lastNameDigits 10 milliseconds ++ lastNameDigits 16 noise)⟩

end ClearingHouse
