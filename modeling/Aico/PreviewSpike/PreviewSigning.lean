import Aico.PreviewSpike.PreviewFixture

/-!
# What the sample signs, it accepts

A printed object of texts is parsed again, and a text of which the dots were taken is restored.
So the sample service verifies every grant and every session that it has signed, whatever its
hash function.
-/

namespace Aico

namespace PreviewProof

/-! ## Objects of texts -/

section Parsing

open JsString Json

def flatObject (entries : List (JsString × JsString)) : Json :=
  .obj (entries.map fun e => (e.1, .str e.2))

theorem flatEntries_succ (fuel : ℕ) (name value rest : JsString) :
    flatEntries (fuel + 1) (quoted name ++ 0x3A :: quoted value ++ rest) =
      if rest = [0x7D] then some [(name, .str value)]
      else (flatEntries fuel (rest.drop 1)).map fun entries => (name, .str value) :: entries := by
  have hname : (quoted name ++ 0x3A :: quoted value ++ rest).drop 1 =
      escape name ++ quote :: (0x3A :: quote :: (escape value ++ quote :: rest)) := by
    simp [quoted]
  rw [flatEntries, hname, unescape_escape]
  change (JsString.unescape (escape value ++ quote :: rest) >>= _) = _
  rw [unescape_escape]
  change (if rest = [0x7D] then _ else _) = _
  split
  · rfl
  · cases flatEntries fuel (rest.drop 1) <;> rfl

theorem flatEntries_stringifyEntries {entry : JsString × JsString}
    {entries : List (JsString × JsString)} {fuel : ℕ} (hfuel : entries.length < fuel) :
    flatEntries fuel
        (stringifyEntries ((entry :: entries).map fun e => (e.1, Json.str e.2)) ++ [0x7D]) =
      some ((entry :: entries).map fun e => (e.1, .str e.2)) := by
  induction entries generalizing entry fuel with
  | nil =>
      obtain ⟨fuel, rfl⟩ := Nat.exists_eq_succ_of_ne_zero (Nat.ne_of_gt hfuel)
      change flatEntries (fuel + 1) ((quoted entry.1 ++ 0x3A :: quoted entry.2 ++ []) ++ _) = _
      rw [List.append_assoc, flatEntries_succ]
      rfl
  | cons next entries ih =>
      obtain ⟨fuel, rfl⟩ := Nat.exists_eq_succ_of_ne_zero (Nat.ne_of_gt (Nat.zero_lt_of_lt hfuel))
      have hlater := @ih next fuel (Nat.lt_of_succ_lt_succ hfuel)
      change flatEntries (fuel + 1) ((quoted entry.1 ++ 0x3A :: quoted entry.2 ++
        0x2C :: stringifyEntries ((next :: entries).map fun e => (e.1, Json.str e.2))) ++ _) = _
      rw [List.append_assoc, flatEntries_succ, if_neg (by simp), List.cons_append, List.drop_one,
        List.tail_cons, hlater]
      rfl

theorem flatParse_stringify {entries : List (JsString × JsString)} (hne : entries ≠ [])
    (hsize : entries.length ≤ 16) :
    flatParse (Json.stringify (flatObject entries)) = some (flatObject entries) := by
  obtain ⟨entry, entries, rfl⟩ := List.exists_cons_of_ne_nil hne
  change (flatEntries 16 (stringifyEntries ((entry :: entries).map _) ++ [0x7D])).map _ = _
  rw [flatEntries_stringifyEntries hsize]
  rfl

/-- Where a value stands among the sorted depends on the names only. -/
theorem sortJson_flatObject {cmp : JsString → JsString → Ordering}
    {names sorted : List (JsString × ℕ)} (value : ℕ → JsString)
    (hsorted : enumerate (sortEntries cmp names) = sorted) :
    sortJson cmp (flatObject (names.map (Prod.map id value))) =
      flatObject (sorted.map (Prod.map id value)) := by
  unfold flatObject
  rw [sortJson, reorder_obj, List.map_map, List.map_map, List.map_map]
  change Json.obj (enumerate (sortEntries cmp
    (names.map (Prod.map id fun n => Json.str (value n))))) = _
  rw [sortEntries_map, enumerate_map, hsorted]
  rfl

end Parsing

/-! ## Texts without dots -/

theorem decodeDots_cons {u : UInt16} (h : u ≠ 0x7E) (rest : JsString) :
    decodeDots (u :: rest) = u :: decodeDots rest := by
  cases rest with
  | nil => rfl
  | cons v rest => rw [decodeDots, if_neg h]

theorem decodeDots_encodeDots (text : JsString) : decodeDots (encodeDots text) = text := by
  induction text with
  | nil => rfl
  | cons u rest ih =>
      unfold encodeDots
      split_ifs with hdot htilde
      · rw [decodeDots, if_pos rfl, if_pos rfl, ih, hdot]
      · rw [decodeDots, if_pos rfl, if_neg (by decide), ih, htilde]
      · rw [decodeDots_cons htilde, ih]

theorem dot_notMem_encodeDots (text : JsString) : 0x2E ∉ encodeDots text := by
  induction text with
  | nil => exact List.not_mem_nil
  | cons u rest ih =>
      unfold encodeDots
      split_ifs with hdot htilde
      · simp [ih]
      · simp [ih]
      · simp [ih, Ne.symm hdot]

theorem dot_notMem_sampleSign (text : JsString) : 0x2E ∉ sampleSign text := by
  intro h
  obtain ⟨d, hd, hdot⟩ := JsString.mem_decimal h
  interval_cases d <;> cases hdot

theorem js_dot : js "." = [0x2E] := by decide

theorem splitOn_signed {payload : JsString} (h : 0x2E ∉ payload) (text : JsString) :
    (payload ++ js "." ++ sampleSign text).splitOn 0x2E = [payload, sampleSign text] := by
  have hjoined : payload ++ js "." ++ sampleSign text =
      List.intercalate [0x2E] [payload, sampleSign text] := by
    rw [js_dot]
    simp [List.intercalate]
  rw [hjoined]
  refine List.splitOn_intercalate 0x2E ?_ (List.cons_ne_nil _ _)
  simp only [List.forall_mem_cons]
  exact ⟨h, dot_notMem_sampleSign _, List.forall_mem_nil _⟩

theorem splitOn_token {header payload : JsString} (hheader : 0x2E ∉ header)
    (hpayload : 0x2E ∉ payload) (text : JsString) :
    (header ++ js "." ++ payload ++ js "." ++ sampleSign text).splitOn 0x2E =
      [header, payload, sampleSign text] := by
  have hjoined : header ++ js "." ++ payload ++ js "." ++ sampleSign text =
      List.intercalate [0x2E] [header, payload, sampleSign text] := by
    rw [js_dot]
    simp [List.intercalate]
  rw [hjoined]
  refine List.splitOn_intercalate 0x2E ?_ (List.cons_ne_nil _ _)
  simp only [List.forall_mem_cons]
  exact ⟨hheader, hpayload, dot_notMem_sampleSign _, List.forall_mem_nil _⟩

/-! ## Grants and sessions -/

section Sample

open PreviewProofService

variable {sha256 : JsString → Digest}

def claimNames : List (JsString × ℕ) := (claimKeys.map js).zipIdx

def claimValue (grant : GrantAuthority) (nonce : JsString) : ℕ → JsString
  | 0 => js "PREVIEW_VIEWER"
  | 1 => grant.publicGrantId
  | 2 => nonce
  | 3 => grant.issuedAt
  | 4 => grant.notBefore
  | 5 => grant.expiresAt
  | 6 => grant.host
  | 7 => js grant.environment.text
  | _ => grant.bindingSha256

def sortedClaims : List (JsString × ℕ) :=
  [(js "audience", 0), (js "binding_sha256", 8), (js "environment", 7), (js "expires_at", 5),
    (js "issued_at", 3), (js "nonce", 2), (js "not_before", 4), (js "opaque_grant_ref", 1),
    (js "origin_hostname", 6)]

theorem enumerate_claimNames :
    Json.enumerate (Json.sortEntries (samplePlatform sha256).rt.localeCompare claimNames) =
      sortedClaims := by
  change Json.enumerate (Json.sortEntries (Runtime.sample id).localeCompare claimNames) = _
  decide +kernel

def parsedClaims (grant : GrantAuthority) (nonce : JsString) : Json :=
  flatObject (sortedClaims.map (Prod.map id (claimValue grant nonce)))

theorem canonicalJson_claims (grant : GrantAuthority) (nonce : JsString) :
    (samplePlatform sha256).canonicalJson ((sampleService sha256).signGrant grant nonce).claims =
      Json.stringify (parsedClaims grant nonce) := by
  have hclaims : ((sampleService sha256).signGrant grant nonce).claims =
      flatObject (claimNames.map (Prod.map id (claimValue grant nonce))) := rfl
  rw [Platform.canonicalJson, hclaims, sortJson_flatObject _ enumerate_claimNames]
  rfl

def headerNames : List (JsString × ℕ) := [(js "typ", 0), (js "alg", 1), (js "kid", 2)]

def headerValue : ℕ → JsString
  | 0 => js "AICO-PREVIEW-GRANT+JWT"
  | 1 => js "EdDSA"
  | _ => js "key-1"

def sortedHeader : List (JsString × ℕ) := [(js "alg", 1), (js "kid", 2), (js "typ", 0)]

def parsedHeader : Json := flatObject (sortedHeader.map (Prod.map id headerValue))

theorem sortJson_header :
    Json.sortJson (samplePlatform sha256).rt.localeCompare
        (sampleService sha256).protectedHeader = parsedHeader := by
  have hheader : (sampleService sha256).protectedHeader =
      flatObject (headerNames.map (Prod.map id headerValue)) := rfl
  have hsorted : Json.enumerate (Json.sortEntries (Runtime.sample id).localeCompare
      headerNames) = sortedHeader := by decide +kernel
  rw [hheader]
  exact sortJson_flatObject _ hsorted

theorem sortJson_parsedHeader :
    Json.sortJson (samplePlatform sha256).rt.localeCompare parsedHeader = parsedHeader := by
  have hsorted : Json.enumerate (Json.sortEntries (Runtime.sample id).localeCompare
      sortedHeader) = sortedHeader := by decide +kernel
  exact sortJson_flatObject _ hsorted

theorem compact_signGrant (svc : PreviewProofService) (grant : GrantAuthority)
    (nonce : JsString) : (svc.signGrant grant nonce).compact =
      svc.platform.encode (svc.platform.canonicalJson svc.protectedHeader) ++ js "." ++
        svc.platform.encode (svc.platform.canonicalJson (svc.signGrant grant nonce).claims) ++
        js "." ++ svc.platform.ed25519Sign
          (svc.platform.encode (svc.platform.canonicalJson svc.protectedHeader) ++ js "." ++
            svc.platform.encode
              (svc.platform.canonicalJson (svc.signGrant grant nonce).claims)) := rfl

theorem verifyGrant_signGrant (grant : GrantAuthority) (nonce : JsString) :
    (sampleService sha256).verifyGrant ((sampleService sha256).signGrant grant nonce).compact =
      some (parsedClaims grant nonce) := by
  have hheader : (samplePlatform sha256).canonicalJson (sampleService sha256).protectedHeader =
      Json.stringify parsedHeader := congrArg Json.stringify sortJson_header
  have hparsedHeader : flatParse (decodeDots (encodeDots (Json.stringify parsedHeader))) =
      some parsedHeader := by
    rw [decodeDots_encodeDots]
    exact flatParse_stringify (by simp [sortedHeader]) (by simp [sortedHeader])
  have hparsedClaims :
      flatParse (decodeDots (encodeDots (Json.stringify (parsedClaims grant nonce)))) =
        some (parsedClaims grant nonce) := by
    rw [decodeDots_encodeDots]
    exact flatParse_stringify (by simp [sortedClaims]) (by simp [sortedClaims])
  have hdigest : (samplePlatform sha256).canonicalDigest parsedHeader =
      (samplePlatform sha256).canonicalDigest (sampleService sha256).protectedHeader := by
    unfold Platform.canonicalDigest Runtime.canonicalDigest
    rw [sortJson_header, sortJson_parsedHeader]
  have hkeys : Json.hasExactKeys claimKeys (parsedClaims grant nonce) = true := by
    change decide (Json.sortedKeys (sortedClaims.map Prod.fst) =
      Json.sortedKeys (claimKeys.map js)) = true
    decide +kernel
  have hplatform : (sampleService sha256).platform = samplePlatform sha256 := rfl
  have hencode : (samplePlatform sha256).encode = encodeDots := rfl
  have hsign : (samplePlatform sha256).ed25519Sign = sampleSign := rfl
  rw [compact_signGrant, hplatform, hheader, canonicalJson_claims, hencode, hsign]
  unfold verifyGrant
  rw [splitOn_token (dot_notMem_encodeDots _) (dot_notMem_encodeDots _)]
  dsimp only [sampleService, samplePlatform]
  rw [hparsedHeader, hparsedClaims]
  exact if_pos ⟨hdigest, hkeys, decide_eq_true rfl⟩

theorem presentedSessionId_signSession (session : SessionAuthority) :
    (sampleService sha256).presentedSessionId ((sampleService sha256).signSession session) =
      some session.sessionId := by
  have hsigned : (sampleService sha256).signSession session = encodeDots session.sessionId ++
      js "." ++ sampleSign (encodeDots session.sessionId) := rfl
  unfold presentedSessionId
  rw [hsigned, splitOn_signed (dot_notMem_encodeDots _)]
  dsimp only [sampleService, samplePlatform]
  exact (if_pos (decide_eq_true rfl)).trans (congrArg some (decodeDots_encodeDots _))

end Sample

end PreviewProof

end Aico
