import ChatFlow.Crypto.Aes
import ChatFlow.Crypto.Base64
import ChatFlow.Text.Utf8

/-!
# Sealed tokens

Access tokens are kept sealed: encrypted and signed with two keys that are the halves of the digest
of a secret. A sealed token is the text of a version byte, the time of sealing, the block that the
encryption began with, the encrypted token, and the signature of all of that.
-/

namespace ChatFlow

/-- The keys that tokens are sealed with. -/
structure SealKeys where
  signing : Bytes
  encryption : Bytes

/-- The keys that a secret stands for. -/
def SealKeys.ofSecret (secret : String) : SealKeys :=
  let digest := sha256 (utf8Bytes secret)
  ⟨digest.take 16, digest.drop 16⟩

/-- The first byte of every sealed token. -/
def sealVersion : UInt8 := 0x80

/-- Seals a token at a time, beginning the encryption with a given block. An empty token is not
sealed. -/
def sealToken (keys : SealKeys) (time : Nat) (start : Bytes) (token : String) : Option String :=
  if token.isEmpty then none
  else
    let body := sealVersion :: bigEndian 8 time ++ start
      ++ aesEncrypt keys.encryption start (utf8Bytes token)
    some (String.ofList (base64Encode (body ++ hmacSha256 keys.signing body)))

/-- The bytes of the token in the bytes of a sealed one, if version and signature are right. -/
def unseal? (keys : SealKeys) (bytes : Bytes) : Option Bytes :=
  let body := bytes.take (bytes.length - 32)
  let signature := bytes.drop (bytes.length - 32)
  if bytes.head? != some sealVersion || bytes.length < 9 then none
  else if signature != hmacSha256 keys.signing body then none
  else aesDecrypt? keys.encryption ((body.drop 9).take 16) (body.drop 25)

/-- Opens a sealed token. Nothing comes out of an empty one or one that was sealed otherwise; a
token whose bytes are no text is an error. -/
def openToken (keys : SealKeys) (sealedToken : String) : Except Utf8Error (Option String) :=
  if sealedToken.isEmpty then .ok none
  else
    match (base64Decode? sealedToken.toList).bind (unseal? keys) with
    | none => .ok none
    | some bytes => (decodeUtf8 bytes).map some

end ChatFlow
