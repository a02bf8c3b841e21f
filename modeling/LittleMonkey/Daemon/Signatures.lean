import LittleMonkey.Lib.Guards
import LittleMonkey.Lib.Lists
import LittleMonkey.Lib.Primitives

/-! # Signatures of webhook deliveries

HMAC-SHA-256 over the message a delivery is signed for, and the scope of a
GitHub delivery.  SHA-256 is the parameter `digest`; a parsed JSON document is
a `Json`.
-/

namespace LittleMonkey.Daemon.Trigger

open Lists Primitives

inductive Json
  | null
  | bool (value : Bool)
  | number (text : String)
  | string (value : String)
  | array (items : List Json)
  | object (fields : List (String × Json))

namespace Json

def get (key : String) : Json → Option Json
  | .object fields => (fields.find? (·.1 == key)).map (·.2)
  | _ => none

def pointer (path : List String) (value : Json) : Option Json :=
  path.foldlM (fun value key => value.get key) value

def asStr : Json → Option String
  | .string value => some value
  | _ => none

end Json

/-! ## Hexadecimal -/

def hexDigit (value : UInt8) : Char :=
  if value < 10 then Char.ofNat (value.toNat + 48) else Char.ofNat (value.toNat + 87)

def hexEncode (bytes : Bytes) : String :=
  String.ofList (bytes.flatMap fun byte => [hexDigit (byte / 16), hexDigit (byte % 16)])

def sha256Hex (digest : Bytes → Bytes) (bytes : Bytes) : String := hexEncode (digest bytes)

def hexNibble (value : UInt8) : Option UInt8 :=
  if 48 ≤ value && value ≤ 57 then some (value - 48)
  else if 97 ≤ value && value ≤ 102 then some (value - 97 + 10)
  else if 65 ≤ value && value ≤ 70 then some (value - 65 + 10)
  else none

def decodePairs : Bytes → Option Bytes
  | high :: low :: rest => do
    let high ← hexNibble high
    let low ← hexNibble low
    let decoded ← decodePairs rest
    pure ((high <<< 4 ||| low) :: decoded)
  | _ => some []

def decodeHex32 (value : String) : Option Bytes :=
  if (textBytes value).length != 64 then none else decodePairs (textBytes value)

/-! ## HMAC -/

def padded (key : Bytes) : Bytes := key ++ List.replicate (64 - key.length) 0

def hmacSha256 (digest : Bytes → Bytes) (secret message : Bytes) : Bytes :=
  let key := padded (if secret.length > 64 then digest secret else secret)
  let inner := key.map (0x36 ^^^ ·)
  let outer := key.map (0x5c ^^^ ·)
  digest (outer ++ digest (inner ++ message))

def constantTimeEq (left right : Bytes) : Bool :=
  if left.length != right.length then false
  else (left.zip right).foldl (fun difference pair => difference ||| (pair.1 ^^^ pair.2)) 0 == 0

def suppliedHex (signature : String) : String :=
  if "sha256=".toList.isPrefixOf signature.toList then String.ofList (signature.toList.drop 7)
  else signature

def verifyHmacHex (digest : Bytes → Bytes) (secret message : Bytes) (signature : String) : Bool :=
  match decodeHex32 (suppliedHex signature) with
  | none => false
  | some decoded => constantTimeEq (hmacSha256 digest secret message) decoded

def canonicalGenericSignatureMessage (timestampMs : Nat) (nonce : String) (payload : Bytes) : Bytes :=
  textBytes (toString timestampMs) ++ 10 :: (textBytes nonce ++ 10 :: payload)

def verifyGenericSignature (digest : Bytes → Bytes) (secret : Bytes) (timestampMs : Nat)
    (nonce : String) (payload : Bytes) (signature : String) : Bool :=
  verifyHmacHex digest secret (canonicalGenericSignatureMessage timestampMs nonce payload) signature

def verifyGithubSignature (digest : Bytes → Bytes) (secret payload : Bytes) (signature : String) :
    Bool := verifyHmacHex digest secret payload signature

def githubBranch (value : Json) : String :=
  let pushed := ((value.get "ref").bind Json.asStr).bind fun text =>
    if "refs/heads/".toList.isPrefixOf text.toList then some (String.ofList (text.toList.drop 11))
    else none
  (pushed.or ((value.pointer ["pull_request", "head", "ref"]).bind Json.asStr)).getD ""

def githubScopeMatches (fromSlice : Bytes → Except String Json) (payload : Bytes)
    (eventName repository : String) (branchPrefixes events : List String) : Bool :=
  events.contains eventName &&
    match fromSlice payload with
    | .error _ => false
    | .ok value =>
      ((value.pointer ["repository", "full_name"]).bind Json.asStr).getD "" == repository &&
        (githubBranch value != "" &&
          branchPrefixes.any fun start => start.toList.isPrefixOf (githubBranch value).toList)

/-! ## What a generic signature covers -/

def OneLine (text : String) : Prop := ∀ c ∈ text.toList, c.toNat < 128 ∧ c ≠ '\n'

theorem OneLine.lineFeed_not_mem {text} (h : OneLine text) : 10 ∉ textBytes text := by
  intro hMem
  rw [textBytes_eq_flatMap] at hMem
  obtain ⟨c, hc, hByte⟩ := List.mem_flatMap.mp hMem
  obtain ⟨hAscii, hNe⟩ := h c hc
  have hSmall : c.utf8Size = 1 := by
    rw [Char.utf8Size_eq_one_iff]
    change c.toNat ≤ 127
    omega
  rw [String.utf8EncodeChar_eq_singleton hSmall, List.mem_singleton] at hByte
  have hToNat : c.toNat = 10 := by
    have hBytes := congrArg UInt8.toNat hByte
    change 10 = c.toNat % 256 at hBytes
    omega
  exact hNe (Char.ext (UInt32.toNat_inj.mp hToNat))

theorem oneLine_toString (n : Nat) : OneLine (toString n) := by
  intro c hc
  rw [Nat.toString_eq_repr, Nat.repr, String.toList_ofList] at hc
  have hDigit := Nat.isDigit_of_mem_toDigits (show 0 < 10 by decide) (show 10 ≤ 10 by decide) hc
  simp only [Char.isDigit, Bool.and_eq_true, decide_eq_true_eq] at hDigit
  change 48 ≤ c.toNat ∧ c.toNat ≤ 57 at hDigit
  refine ⟨by omega, ?_⟩
  rintro rfl
  have hTen : ('\n').toNat = 10 := rfl
  omega

theorem nonce_of_canonicalMessage {timestampMs timestampMs' nonce nonce' payload payload'} (hNonce : OneLine nonce) (hNonce' : OneLine nonce')
    (h : canonicalGenericSignatureMessage timestampMs nonce payload =
      canonicalGenericSignatureMessage timestampMs' nonce' payload') : nonce = nonce' := by
  obtain ⟨-, hRest⟩ := append_cons_inj_of_notMem_left
    (oneLine_toString timestampMs).lineFeed_not_mem
    (oneLine_toString timestampMs').lineFeed_not_mem h
  obtain ⟨hBytes, -⟩ := append_cons_inj_of_notMem_left hNonce.lineFeed_not_mem
    hNonce'.lineFeed_not_mem hRest
  exact textBytes_injective hBytes

end LittleMonkey.Daemon.Trigger
