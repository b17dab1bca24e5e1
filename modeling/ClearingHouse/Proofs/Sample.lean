import ClearingHouse.House
import ClearingHouse.Proofs.Bank.Turn

/-!
# A small clearing house

Two banks with one party each, and one transfer between them.
-/

namespace ClearingHouse.Sample

def payer : Party := ⟨⟨"north"⟩, ⟨"A1"⟩⟩

def payee : Party := ⟨⟨"south"⟩, ⟨"B1"⟩⟩

def payment : Transfer := ⟨⟨"t1"⟩, payer, payee, ⟨500, by decide⟩⟩

def house : House :=
  { House.opening (.listed Table.empty) 5000 with
    roster :=
      Table.insert
        (Table.insert Roster.empty payer.bank ⟨"a", .inside payer.bank⟩)
        payee.bank ⟨"b", .inside payee.bank⟩ }

def payerBank : Bank :=
  Bank.opening payer.bank {} [(payer.account, ⟨10000, by decide⟩)]

def payeeBank : Bank :=
  Bank.opening payee.bank {} [(payee.account, ⟨100, by decide⟩)]

def banks : Banks :=
  Banks.put (Banks.put Table.empty payer.bank payerBank) payee.bank payeeBank

theorem hold?_opening (name : BankName) (number : AccountNumber)
    (balance : Amount) (wanted : AccountNumber) :
    ((Bank.opening name {} [(number, balance)]).accounts.find? wanted).bind
      Account.hold = none := by
  by_cases same : number = wanted <;>
    simp [Bank.opening, Table.ofList, same]

theorem hold?_banks (party : Party) : banks.hold? party = none := by
  have noAccount : Banks.account? Table.empty party = none := rfl
  by_cases atPayee : payee.bank = party.bank
  · simp [Banks.hold?, banks, payerBank, payeeBank, Banks.account?_put, atPayee, hold?_opening]
  · by_cases atPayer : payer.bank = party.bank
    · simp [Banks.hold?, banks, payerBank, payeeBank, Banks.account?_put, atPayee, atPayer,
        hold?_opening]
    · simp [Banks.hold?, banks, payerBank, payeeBank, Banks.account?_put, atPayee, atPayer, noAccount]

theorem leg?_banks (name : BankName) (transfer : TransferId) (side : Side) :
    banks.leg? name transfer side = none := by
  have noBank : Banks.leg? Table.empty name transfer side = none := rfl
  have noLeg : ∀ bankName policy balances,
      (Bank.opening bankName policy balances).leg transfer side = none :=
    fun _ _ _ => rfl
  simp [banks, payerBank, payeeBank, Banks.leg?_put, noLeg, noBank]

theorem inside_house (name : BankName) (entry : RosterEntry)
    (registered : Table.find? house.roster name = some entry) :
    entry.connection = .inside name ∧
      ∃ bank, Table.find? banks name = some bank := by
  simp only [house, Table.find?_insert] at registered
  simp only [banks, Banks.put, Table.find?_insert]
  split at registered
  · rename_i here
    cases registered
    subst here
    exact ⟨rfl, _, if_pos rfl⟩
  · rename_i elsewhere
    split at registered
    · rename_i here
      cases registered
      subst here
      refine ⟨rfl, ?_⟩
      rw [if_neg elsewhere, if_pos rfl]
      exact ⟨_, rfl⟩
    · cases registered

end ClearingHouse.Sample
