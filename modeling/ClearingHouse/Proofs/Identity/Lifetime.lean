import ClearingHouse.Identity.Credentials
import ClearingHouse.Proofs.Identity.ReadBack

/-!
# For how long a token is good

A token that has just been issued is accepted if its lifetime is not over for longer than
the leeway, and then stands for what it was issued for.  Its expiry is held as an unsigned
word, so one that lies before the year 1970 is taken for one in a far future: such a token
is accepted as well, although its lifetime is over.
-/

namespace ClearingHouse

namespace Directory

variable {users earlier later : List User} {user : User} {username : String}

theorem find?_insertAll {κ α : Type} [DecidableEq κ] {key : κ} {entries : List (κ × α)}
    (absent : ∀ entry ∈ entries, entry.1 ≠ key) (table : Table κ α) :
    (entries.foldl (fun table entry => table.insert entry.1 entry.2) table).find? key =
      table.find? key := by
  induction entries generalizing table with
  | nil => rfl
  | cons entry rest ih =>
      rw [List.forall_mem_cons] at absent
      rw [List.foldl_cons, ih absent.2, Table.find?_insert, if_neg absent.1]

theorem caller?_ofUsers_of_absent (absent : ∀ user ∈ users, user.username ≠ username) :
    (ofUsers users).caller? username = none := by
  have noEntry : ∀ entry ∈ users.map fun user => (user.username, user),
      entry.1 ≠ username := by
    simpa using absent
  rw [caller?, user?, ofUsers, Table.ofList, find?_insertAll noEntry]
  rfl

/-- The last of the users with a name counts. -/
theorem caller?_ofUsers_of_last (isListed : users = earlier ++ user :: later)
    (named : user.username = username)
    (isLast : ∀ other ∈ later, other.username ≠ username) :
    (ofUsers users).caller? username = some ⟨username, user.bank, user.account⟩ := by
  have noEntry : ∀ entry ∈ later.map fun user => (user.username, user),
      entry.1 ≠ username := by
    simpa using isLast
  subst isListed named
  rw [caller?, user?, ofUsers, Table.ofList, List.map_append, List.foldl_append,
    List.map_cons, List.foldl_cons, find?_insertAll noEntry, Table.find?_insert, if_pos rfl]
  rfl

end Directory

namespace Token

/-- The points in time that fit a signed word of sixty-four bits, in seconds. -/
def IsTimestamp (seconds : Int) : Prop := -(2 ^ 63) ≤ seconds ∧ seconds < 2 ^ 63

instance (seconds : Int) : Decidable (IsTimestamp seconds) :=
  inferInstanceAs (Decidable (_ ∧ _))

/-- What becomes of a token at the moment at which it is issued, with these users in the
directory. -/
structure GoodFor (secret : String) (users : List User) (now : Nat)
    (username role : String) (lifetime : Int) : Prop where
  /-- The token is invalid if and only if it has expired for longer than the leeway, and
  not before the year 1970. -/
  invalid : Credentials.resolve (.signed secret (Directory.ofUsers users)) now
      (issue secret now username role lifetime) = .error .invalidToken ↔
    lifetime < -60 ∧ 0 ≤ now + lifetime
  /-- Otherwise it says for whom and when it was issued, and when it expires. -/
  accepted : -60 ≤ lifetime → 0 ≤ now + lifetime →
    verify secret now (issue secret now username role lifetime) =
      some ⟨username, role, (now + lifetime).toNat, now⟩
  /-- An expiry before the year 1970 is taken for one in the far future. -/
  misread : now + lifetime < 0 →
    verify secret now (issue secret now username role lifetime) =
      some ⟨username, role, (2 ^ 64 + (now + lifetime)).toNat, now⟩
  /-- Nobody but a customer is served. -/
  forbidden : ¬ (lifetime < -60 ∧ 0 ≤ now + lifetime) → role ≠ Credentials.customerRole →
    Credentials.resolve (.signed secret (Directory.ofUsers users)) now
      (issue secret now username role lifetime) = .error (.forbidden role)
  /-- A customer who is not in the directory is unknown. -/
  unknown : ¬ (lifetime < -60 ∧ 0 ≤ now + lifetime) → role = Credentials.customerRole →
    (∀ user ∈ users, user.username ≠ username) →
    Credentials.resolve (.signed secret (Directory.ofUsers users)) now
      (issue secret now username role lifetime) = .error (.unknownUser username)
  /-- A customer who is there is who the last user with the name is. -/
  known : ¬ (lifetime < -60 ∧ 0 ≤ now + lifetime) → role = Credentials.customerRole →
    ∀ earlier user later, users = earlier ++ user :: later → user.username = username →
      (∀ other ∈ later, other.username ≠ username) →
      Credentials.resolve (.signed secret (Directory.ofUsers users)) now
        (issue secret now username role lifetime) =
          .ok ⟨username, user.bank, user.account⟩

variable {secret : String} {users : List User} {now : Nat} {username role : String}
  {lifetime : Int}

theorem timeWord_lt (seconds : Int) : timeWord seconds < 2 ^ 64 := by
  rw [timeWord]
  omega

theorem timeWord_of_nonneg {seconds : Int} (isTime : IsTimestamp seconds)
    (nonneg : 0 ≤ seconds) : timeWord seconds = seconds.toNat := by
  rw [IsTimestamp] at isTime
  rw [timeWord]
  omega

theorem timeWord_of_neg {seconds : Int} (isTime : IsTimestamp seconds) (neg : seconds < 0) :
    timeWord seconds = (2 ^ 64 + seconds).toNat := by
  rw [IsTimestamp] at isTime
  rw [timeWord]
  omega

/-- A token is refused where its expiry lies before now by more than the leeway, and is
not taken for another one. -/
theorem hasExpired_iff (present : IsTimestamp now) (expires : IsTimestamp (now + lifetime)) :
    timeWord (now + lifetime) < now - leeway ↔ lifetime < -60 ∧ 0 ≤ now + lifetime := by
  rcases Int.lt_or_le (now + lifetime) 0 with neg | nonneg
  · rw [timeWord_of_neg expires neg, leeway]
    rw [IsTimestamp] at present expires
    omega
  · rw [timeWord_of_nonneg expires nonneg, leeway]
    omega

theorem verify_issue (present : IsTimestamp now) (expires : IsTimestamp (now + lifetime)) :
    verify secret now (issue secret now username role lifetime) =
      if lifetime < -60 ∧ 0 ≤ now + lifetime then none
      else some ⟨username, role, timeWord (now + lifetime), now⟩ := by
  have isWord : now < 2 ^ 64 := by
    rw [IsTimestamp] at present
    omega
  rw [issue, verify_ofClaims secret now (timeWord_lt _) isWord]
  simp only [hasExpired_iff present expires]

theorem isEmpty_issue :
    (issue secret now username role lifetime).isEmpty = false := by
  rw [issue, ofClaims]
  simp

theorem resolve_issue (present : IsTimestamp now) (expires : IsTimestamp (now + lifetime)) :
    Credentials.resolve (.signed secret (Directory.ofUsers users)) now
      (issue secret now username role lifetime) =
        if lifetime < -60 ∧ 0 ≤ now + lifetime then .error .invalidToken
        else if role ≠ Credentials.customerRole then .error (.forbidden role)
        else ((Directory.ofUsers users).caller? username).elim
          (.error (.unknownUser username)) .ok := by
  rw [Credentials.resolve, isEmpty_issue]
  simp only [Bool.false_eq_true, if_false, Credentials.resolveSigned,
    verify_issue present expires]
  by_cases expired : lifetime < -60 ∧ 0 ≤ now + lifetime
  · simp only [if_pos expired]
  · simp only [if_neg expired]
    cases (Directory.ofUsers users).caller? username <;> rfl

/-- A token that is issued is invalid at that moment if and only if its lifetime is over
for longer than the leeway and it does not expire before the year 1970. -/
theorem goodFor_of_issued (secret : String) (users : List User) {now : Nat}
    (username role : String) {lifetime : Int} (present : IsTimestamp now)
    (expires : IsTimestamp (now + lifetime)) :
    GoodFor secret users now username role lifetime where
  invalid := by
    rw [resolve_issue present expires]
    split_ifs with expired stranger
    · exact iff_of_true rfl expired
    · exact iff_of_false (fun same => by cases same) expired
    · refine iff_of_false (fun same => ?_) expired
      cases found : (Directory.ofUsers users).caller? username with
      | none => rw [found] at same; cases same
      | some caller => rw [found] at same; cases same
  accepted notOver notBefore := by
    rw [verify_issue present expires, if_neg (by omega),
      timeWord_of_nonneg expires notBefore]
  misread before := by
    rw [verify_issue present expires, if_neg (by omega), timeWord_of_neg expires before]
  forbidden isGood stranger := by
    rw [resolve_issue present expires, if_neg isGood, if_pos stranger]
  unknown isGood isCustomer absent := by
    rw [resolve_issue present expires, if_neg isGood, if_neg (fun differs => differs isCustomer),
      Directory.caller?_ofUsers_of_absent absent]
    rfl
  known isGood isCustomer earlier user later isListed named isLast := by
    rw [resolve_issue present expires, if_neg isGood, if_neg (fun differs => differs isCustomer),
      Directory.caller?_ofUsers_of_last isListed named isLast]
    rfl

/-- A token that expires before the year 1970 is accepted in the year 2023. -/
theorem goodFor_of_ancient :
    IsTimestamp (1700000000 : Nat) ∧ IsTimestamp ((1700000000 : Nat) + -10000000000) ∧
      Credentials.resolve
        (.signed "k" (Directory.ofUsers [⟨"alice", "customer", ⟨"A1"⟩, ⟨"bank1"⟩⟩]))
        1700000000 (issue "k" 1700000000 "alice" "customer" (-10000000000)) =
          .ok ⟨"alice", ⟨"bank1"⟩, ⟨"A1"⟩⟩ :=
  ⟨by decide, by decide,
    (goodFor_of_issued "k" [⟨"alice", "customer", ⟨"A1"⟩, ⟨"bank1"⟩⟩] "alice" "customer"
      (by decide) (by decide)).known (by decide) rfl []
        ⟨"alice", "customer", ⟨"A1"⟩, ⟨"bank1"⟩⟩ [] rfl rfl (by simp)⟩

end Token

end ClearingHouse
