import ClearingHouse.Identity.Token
import ClearingHouse.Proofs.Identity.Base64Url
import ClearingHouse.Proofs.Json.Bytes

/-!
# Tokens are read back

The token of some claims is cut into its parts again, its signature is the one that is
expected, and its header and its claims are read from their bytes.  So only the expiry
decides whether it is accepted.
-/

namespace ClearingHouse.Token

open Json.Reader (Reads Fills)

/-! ## The parts -/

/-- A text is cut at a point if there is none behind it. -/
theorem cutAtLastPoint_append {message behind : List Char} (noPoint : '.' ∉ behind) :
    cutAtLastPoint (message ++ '.' :: behind) = some (message, behind) := by
  have stops : ∀ character ∈ behind.reverse, (character != '.') = true := by
    intro character isBehind
    rw [bne_iff_ne]
    rintro rfl
    exact noPoint (List.mem_reverse.mp isBehind)
  have cut : (message ++ '.' :: behind).reverse.takeWhile
      (fun character => character != '.') = behind.reverse := by
    rw [List.reverse_append, List.reverse_cons, List.append_assoc, List.singleton_append,
      List.takeWhile_append_of_pos stops, List.takeWhile_cons_of_neg (by decide),
      List.append_nil]
  have isShorter : behind.reverse.length < (message ++ '.' :: behind).length := by
    simp
    omega
  have inFront : (message ++ '.' :: behind).length - behind.reverse.length - 1 =
      message.length := by
    simp
    omega
  simp only [cutAtLastPoint, cut, if_pos isShorter, inFront, List.take_left,
    List.reverse_reverse]

theorem bytes_eq (text : List Char) :
    bytes text = text.flatMap String.utf8EncodeChar := by
  rw [bytes, String.toUTF8_eq_toByteArray, String.toByteArray_ofList, List.utf8Encode,
    List.data_toByteArray]

/-- A part that is written from a text is read as the bytes of the text. -/
theorem part?_encode (text : List Char) :
    part? (Signature.Base64Url.encode (bytes text)) = some (Json.octets text) := by
  rw [part?, Signature.Base64Url.decode?_encode, Option.map_some, bytes_eq, List.map_flatMap]
  rfl

/-! ## Values -/

theorem reads_picked_string {α : Type} {pick : Json.Tree → Option α} {text : String}
    {value : α} (picks : pick (.text text) = some value) :
    Reads (picked pick) (Json.octets (Json.string text)) value := by
  intro rest _
  have read : Json.Reader.tree depth (Json.octets (Json.string text) ++ rest) =
      .ok (some (.text text), rest) := Json.Reader.tree_octets_string 125 text rest
  rw [picked, Json.Reader.bind_of_ok read, Option.bind_some, picks]
  rfl

theorem reads_seconds {number : Nat} (fits : number < 2 ^ 64) :
    Reads secondsReader (Json.natural number) number := by
  intro rest ends
  have read : Json.Reader.tree depth (Json.natural number ++ rest) =
      .ok (some (.number (.natural number)), rest) :=
    Json.Reader.tree_digits 125 fits ends
  rw [secondsReader, picked, Json.Reader.bind_of_ok read, Option.bind_some,
    Json.Tree.natural?, if_pos fits]
  rfl

/-! ## The header and the claims -/

theorem run_issuedHeader :
    Json.Reader.run headerReader (Json.octets issuedHeader) = .ok algorithm := by
  have header : Json.octets issuedHeader = issuedHeader := Json.octets_of_isAscii (by decide)
  have kindText : Json.octets (Json.string "JWT") = Json.string "JWT" :=
    Json.octets_of_isAscii (by decide)
  have algorithmText : Json.octets (Json.string algorithm) = Json.string algorithm :=
    Json.octets_of_isAscii (by decide)
  have kind : Reads ((headerField "typ" Json.Tree.isText).fill {})
      (Json.string "JWT") { others := ["typ"] } := by
    rw [← kindText]
    exact reads_picked_string rfl
  have signing : Reads (picked algorithm?) (Json.string algorithm) algorithm := by
    rw [← algorithmText]
    exact reads_picked_string (by decide)
  rw [header]
  refine Json.Reader.run_of_reads (Json.Reader.reads_recordBy ?_
    (.cons _ rfl rfl kind
      (.cons _ rfl rfl (Json.Reader.reads_field _ signing) (.nil _))) rfl)
  intro member isMember
  simp only [List.mem_cons, List.not_mem_nil, or_false] at isMember
  rcases isMember with rfl | rfl <;> exact Json.Reader.readsName_byteString (by decide)

/-- The members of claims whose names are written by `write`. -/
def claimMembers (write : String → List Char) (claims : Claims) :
    List (String × List Char) :=
  [("sub", write claims.username), ("role", write claims.role),
    ("exp", Json.natural claims.expiry), ("iat", Json.natural claims.issued)]

theorem isAscii_of_mem_claimMembers {write : String → List Char} {claims : Claims} :
    ∀ member ∈ claimMembers write claims, member.1.toList.all Json.isAscii := by
  simp only [claimMembers, List.forall_mem_cons]
  decide

theorem octets_claimsText (claims : Claims) :
    Json.octets (claimsText claims) =
      Json.object (claimMembers (fun text => Json.octets (Json.string text)) claims) := by
  refine (Json.octets_object isAscii_of_mem_claimMembers).trans ?_
  simp only [claimMembers, List.map_cons, List.map_nil, Json.octets_natural]

theorem fills_claims {claims : Claims} (expires : claims.expiry < 2 ^ 64)
    (issued : claims.issued < 2 ^ 64) :
    Fills claimFields {}
      (claimMembers (fun text => Json.octets (Json.string text)) claims)
      { username := some claims.username, role := some claims.role,
        expiry := some claims.expiry, issued := some claims.issued } := by
  refine .cons _ rfl rfl (Json.Reader.reads_field _ (reads_picked_string rfl)) ?_
  refine .cons _ rfl rfl (Json.Reader.reads_field _ (reads_picked_string rfl)) ?_
  refine .cons _ rfl rfl (Json.Reader.reads_field _ (reads_seconds expires)) ?_
  refine .cons _ rfl rfl (Json.Reader.reads_field _ (reads_seconds issued)) ?_
  exact .nil _

theorem run_claimsText {claims : Claims} (expires : claims.expiry < 2 ^ 64)
    (issued : claims.issued < 2 ^ 64) :
    Json.Reader.run claimsReader (Json.octets (claimsText claims)) = .ok claims := by
  have whole : ClaimsDraft.complete
      { username := some claims.username, role := some claims.role,
        expiry := some claims.expiry, issued := some claims.issued } = some claims := rfl
  have named : ∀ member ∈ claimMembers (fun text => Json.octets (Json.string text)) claims,
      Json.Reader.ReadsName Json.Reader.byteString member.1 := fun member isMember =>
    Json.Reader.readsName_byteString (isAscii_of_mem_claimMembers member isMember)
  rw [octets_claimsText]
  refine Json.Reader.run_of_reads fun rest _ => ?_
  rw [Json.Reader.object_append, claimsReader]
  refine (Json.Reader.bind_of_ok (Json.Reader.peekToken_cons rfl)).trans ?_
  exact Json.Reader.recordObject_object named (fills_claims expires issued) whole rest

/-! ## Tokens -/

/-- The token of some claims is accepted until they have expired. -/
theorem verify_ofClaims (secret : String) (now : Nat) {claims : Claims}
    (expires : claims.expiry < 2 ^ 64) (issued : claims.issued < 2 ^ 64) :
    verify secret now (ofClaims secret claims) =
      if claims.expiry < now - leeway then none else some claims := by
  have noPoint := Signature.Base64Url.not_point_mem_encode
  have unsigned : ∀ message, '.' ∉ signature secret message := fun _ => noPoint _
  rw [verify, ofClaims, String.toList_ofList, cutAtLastPoint_append (unsigned _)]
  simp only [Option.bind_eq_bind, Option.bind_some, cutAtLastPoint_append (noPoint _),
    part?_encode, run_issuedHeader, run_claimsText expires issued, Except.toOption, ne_eq,
    not_true_eq_false, if_false]

end ClearingHouse.Token
