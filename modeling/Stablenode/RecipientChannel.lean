import Stablenode.Base64
import Stablenode.Deposits
import Stablenode.CreationWrites
import Stablenode.JsonText

/-! The recipient of an order: its checks (controllers/sender/sender.go), its encryption into the
message hash and the decryption by the indexer (utils/crypto/crypto.go). -/
namespace Stablenode

open JsonValue

structure RecipientRow extends PaymentOrderRecipient where
  metadata : Option (List (String × JsonValue))

structure RecipientPayload extends RecipientRow where
  currency : String
  nonce : String

inductive Rejection where
  | badRequest (message : String) (data : List ErrorData)
  | panicked
  deriving DecidableEq

structure RecipientChecks where
  institutions : List Institution
  tokenSymbol : String
  baseCurrency : String
  validateAccount : String → String → Except String String
  validateRate : String → String → Except ErrorData Unit
  validateProvider : String → String → Except Rejection Unit

def RecipientPayload.missingFields (p : RecipientPayload) : List ErrorData :=
  [("Institution", p.institution), ("AccountIdentifier", p.accountIdentifier),
    ("AccountName", p.accountName), ("Memo", p.memo)].filterMap fun entry =>
      if entry.2 = "" then some ⟨entry.1, "This field is required"⟩ else none

namespace RecipientChecks

variable (x : RecipientChecks)

def validateRecipient (p : RecipientPayload) : Except Rejection RecipientRow :=
  let reject (data : List ErrorData) : Except Rejection RecipientRow :=
    .error (.badRequest "Failed to validate payload" data)
  if p.missingFields ≠ [] then reject p.missingFields
  else
    match x.institutions.find? (fun i => i.code = p.institution) with
    | none => reject [⟨"Recipient", "Provided institution is not supported"⟩]
    | some institution =>
      match institution.loadedCurrency with
      | none => .error .panicked
      | some currency =>
        if equalFold x.baseCurrency currency.code = false ∧
            equalFold x.baseCurrency "USD" = false then
          .error (.badRequest (x.tokenSymbol ++ " can only be converted to " ++ x.baseCurrency) [])
        else
          match x.validateAccount p.institution p.accountIdentifier with
          | .error e => reject [⟨"Recipient", "Account validation failed: " ++ e⟩]
          | .ok accountName =>
            match x.validateRate currency.code p.providerId with
            | .error e => reject [e]
            | .ok () =>
              if p.providerId = "" then .ok { p.toRecipientRow with accountName }
              else
                match x.validateProvider currency.code p.providerId with
                | .error e => .error e
                | .ok () => .ok { p.toRecipientRow with accountName }

end RecipientChecks

inductive PublicKeyPEM where
  | unreadable
  | malformed (e : String)
  | otherType
  | rsa
  deriving DecidableEq

inductive PrivateKeyPEM where
  | unreadable
  | malformed (e : String)
  | rsa
  deriving DecidableEq

structure RecipientCipher where
  aggregatorPublicKey : PublicKeyPEM
  aggregatorPrivateKey : PrivateKeyPEM
  encryptPKCS1v15 : ℕ → List UInt8 → Except String (List UInt8)
  decryptPKCS1v15 : List UInt8 → Except String (List UInt8)
  unmarshal : List UInt8 → Except String JsonValue

def mapValue : Option (List (String × JsonValue)) → JsonValue
  | none => .null
  | some fields => .object fields

def RecipientRow.message (nonce : List Char) (r : RecipientRow) : List (String × JsonValue) :=
  [("Nonce", .string (String.ofList nonce)), ("AccountIdentifier", .string r.accountIdentifier),
    ("AccountName", .string r.accountName), ("Institution", .string r.institution),
    ("ProviderID", .string r.providerId), ("Memo", .string r.memo),
    ("Metadata", mapValue r.metadata)]

namespace RecipientPayload

def empty : RecipientPayload := ⟨⟨⟨"", "", "", "", ""⟩, none⟩, "", ""⟩

inductive Field where
  | institution
  | accountIdentifier
  | accountName
  | memo
  | providerId
  | metadata
  | currency
  | nonce
  deriving DecidableEq

def tags : List (String × Field) :=
  [("institution", .institution), ("accountIdentifier", .accountIdentifier),
    ("accountName", .accountName), ("memo", .memo), ("providerId", .providerId),
    ("metadata", .metadata), ("currency", .currency), ("nonce", .nonce)]

def fieldOf (key : String) : Option Field :=
  (tags.find? fun tag => equalFold key tag.1).map Prod.snd

def setString (p : RecipientPayload) (set : String → RecipientPayload) :
    JsonValue → Except String RecipientPayload
  | .string text => .ok (set text)
  | .null => .ok p
  | _ => .error "json: cannot unmarshal into Go struct field of type string"

def setField (p : RecipientPayload) (entry : String × JsonValue) :
    Except String RecipientPayload :=
  match fieldOf entry.1 with
  | none => .ok p
  | some .institution => p.setString (fun text => { p with institution := text }) entry.2
  | some .accountIdentifier =>
    p.setString (fun text => { p with accountIdentifier := text }) entry.2
  | some .accountName => p.setString (fun text => { p with accountName := text }) entry.2
  | some .memo => p.setString (fun text => { p with memo := text }) entry.2
  | some .providerId => p.setString (fun text => { p with providerId := text }) entry.2
  | some .currency => p.setString (fun text => { p with currency := text }) entry.2
  | some .nonce => p.setString (fun text => { p with nonce := text }) entry.2
  | some .metadata =>
    match entry.2 with
    | .object fields => .ok { p with metadata := some fields }
    | .null => .ok { p with metadata := none }
    | _ => .error "json: cannot unmarshal into Go struct field of type map[string]interface \x7b\x7d"

def ofJson : JsonValue → Except String (Option RecipientPayload)
  | .null => .ok none
  | .object fields => (fields.foldlM setField empty).map some
  | _ => .error "json: cannot unmarshal into Go value of type types.PaymentOrderRecipient"

end RecipientPayload

namespace RecipientCipher

variable (C : RecipientCipher)

def publicKeyEncryptPlain (seed : ℕ) (plaintext : List UInt8) : Except String (List UInt8) :=
  match C.aggregatorPublicKey with
  | .unreadable => .error "failed to parse PEM block"
  | .malformed e => .error e
  | .otherType => .error "unsupported key type"
  | .rsa => C.encryptPKCS1v15 seed plaintext

def publicKeyEncryptJSON (seed : ℕ) (data : JsonValue) : Except String (List UInt8) :=
  C.publicKeyEncryptPlain seed (utf8 (marshal data))

def publicKeyDecryptPlain (ciphertext : List UInt8) : Option (Except String (List UInt8)) :=
  match C.aggregatorPrivateKey with
  | .unreadable => none
  | .malformed e => some (.error e)
  | .rsa => some (C.decryptPKCS1v15 ciphertext)

def publicKeyDecryptJSON (ciphertext : List UInt8) : Option (Except String JsonValue) :=
  (C.publicKeyDecryptPlain ciphertext).map fun plaintext => plaintext.bind C.unmarshal

def encryptOrderRecipient (nonce : Except String (List.Vector UInt8 12)) (seed : ℕ)
    (r : RecipientRow) : Except String (List Char) :=
  match nonce with
  | .error e => .error ("failed to generate nonce: " ++ e)
  | .ok nonce =>
    match C.publicKeyEncryptJSON seed (.object (r.message (Base64.encode nonce.toList))) with
    | .error e => .error ("failed to encrypt message: " ++ e)
    | .ok messageCipher => .ok (Base64.encode messageCipher)

def getOrderRecipientFromMessageHash (messageHash : List Char) :
    Option (Except String (Option RecipientPayload)) :=
  match Base64.decode messageHash with
  | none => some (.error "failed to decode message hash")
  | some messageCipher =>
    (C.publicKeyDecryptJSON messageCipher).map fun message =>
      match message with
      | .error e => .error ("failed to decrypt message hash: " ++ e)
      | .ok message => (C.unmarshal (utf8 (marshal message))).bind RecipientPayload.ofJson

end RecipientCipher

/-! ### The size of a message -/

def RecipientRow.contentSize (r : RecipientRow) : ℕ :=
  textSize (escapes r.accountIdentifier.toList) + textSize (escapes r.accountName.toList) +
    textSize (escapes r.institution.toList) + textSize (escapes r.providerId.toList) +
    textSize (escapes r.memo.toList) + textSize (marshal (mapValue r.metadata))

def messageOverhead : ℕ := 123

private lemma plain_base64 :
    ('=' :: Base64.alphabet).all (fun c => escape c = [c] ∧ c.utf8Size = 1) = true := by
  decide +kernel

lemma textSize_nonce (nonce : List.Vector UInt8 12) :
    textSize (escapes (Base64.encode nonce.toList)) = 16 := by
  rw [textSize_escapes_of_plain fun c hc =>
    of_decide_eq_true (List.all_eq_true.1 plain_base64 c (Base64.mem_encode hc)),
    Base64.length_encode, nonce.toList_length]

theorem textSize_message (nonce : List.Vector UInt8 12) (r : RecipientRow) :
    textSize (marshal (.object (r.message (Base64.encode nonce.toList)))) =
      messageOverhead + r.contentSize := by
  have hkeys : textSize (escapes "Nonce".toList) = 5 ∧
      textSize (escapes "AccountIdentifier".toList) = 17 ∧
      textSize (escapes "AccountName".toList) = 11 ∧
      textSize (escapes "Institution".toList) = 11 ∧ textSize (escapes "ProviderID".toList) = 10 ∧
      textSize (escapes "Memo".toList) = 4 ∧ textSize (escapes "Metadata".toList) = 8 := by
    decide +kernel
  obtain ⟨h₁, h₂, h₃, h₄, h₅, h₆, h₇⟩ := hkeys
  rw [RecipientRow.message, textSize_object (List.cons_ne_nil _ _)]
  simp only [List.map_cons, List.map_nil, List.sum_cons, List.sum_nil,
    marshal, textSize_quote, String.toList_ofList, textSize_nonce, h₁, h₂, h₃, h₄, h₅, h₆, h₇,
    RecipientRow.contentSize, messageOverhead]
  omega

/-! ### What the channel carries -/

def byKey (fields : List (String × JsonValue)) : List (String × JsonValue) :=
  fields.insertionSort fun a b => a.1 ≤ b.1

namespace RecipientCipher

variable (C : RecipientCipher)

structure Lawful (k : ℕ) : Prop where
  publicKey : C.aggregatorPublicKey = .rsa
  privateKey : C.aggregatorPrivateKey = .rsa
  decrypt_encrypt : ∀ seed plaintext, plaintext.length + 11 ≤ k →
    ∃ ciphertext, C.encryptPKCS1v15 seed plaintext = .ok ciphertext ∧
      C.decryptPKCS1v15 ciphertext = .ok plaintext
  encrypt_long : ∀ seed plaintext, k < plaintext.length + 11 →
    ∃ e, C.encryptPKCS1v15 seed plaintext = .error e

structure ReadsBack (fields : List (String × JsonValue)) : Prop where
  struct : C.unmarshal (utf8 (marshal (.object fields))) = .ok (.object (byKey fields))
  map : C.unmarshal (utf8 (marshal (.object (byKey fields)))) = .ok (.object (byKey fields))

def Carries (nonce : List.Vector UInt8 12) (seed : ℕ) (r : RecipientRow) : Prop :=
  ∃ messageHash, C.encryptOrderRecipient (.ok nonce) seed r = .ok messageHash ∧
    ∃ p, C.getOrderRecipientFromMessageHash messageHash = some (.ok (some p)) ∧
      p.toRecipientRow = r

variable {C}

lemma byKey_message (nonce : List Char) (r : RecipientRow) :
    byKey (r.message nonce) =
      [("AccountIdentifier", .string r.accountIdentifier), ("AccountName", .string r.accountName),
        ("Institution", .string r.institution), ("Memo", .string r.memo),
        ("Metadata", mapValue r.metadata), ("Nonce", .string (String.ofList nonce)),
        ("ProviderID", .string r.providerId)] := by
  simp [byKey, RecipientRow.message, List.insertionSort, List.orderedInsert]

private lemma equalFold_eq (a b : String) :
    equalFold a b = decide (a.toList.map Char.toLower = b.toList.map Char.toLower) := by
  simp [equalFold, String.toLower, ← String.toList_inj, String.toList_map]

private lemma fieldOf_keys :
    ["AccountIdentifier", "AccountName", "Institution", "Memo", "Metadata", "Nonce",
      "ProviderID"].map RecipientPayload.fieldOf =
      [some .accountIdentifier, some .accountName, some .institution, some .memo, some .metadata,
        some .nonce, some .providerId] := by
  simp only [List.map_cons, List.map_nil, RecipientPayload.fieldOf, equalFold_eq]
  decide +kernel

open RecipientPayload in
-- The keys are variables, so that their fields are taken from the hypotheses and not evaluated.
private lemma foldlM_setField {k₁ k₂ k₃ k₄ k₅ k₆ k₇ : String}
    (h : [k₁, k₂, k₃, k₄, k₅, k₆, k₇].map fieldOf =
      [some .accountIdentifier, some .accountName, some .institution, some .memo, some .metadata,
        some .nonce, some .providerId]) (r : RecipientRow) (nonce : String) :
    [(k₁, .string r.accountIdentifier), (k₂, .string r.accountName), (k₃, .string r.institution),
        (k₄, .string r.memo), (k₅, mapValue r.metadata), (k₆, .string nonce),
        (k₇, .string r.providerId)].foldlM setField empty =
      .ok { r with currency := "", nonce } := by
  simp only [List.map_cons, List.map_nil, List.cons.injEq, and_true] at h
  obtain ⟨h₁, h₂, h₃, h₄, h₅, h₆, h₇⟩ := h
  obtain ⟨recipient, metadata⟩ := r
  have hmetadata : ∀ p : RecipientPayload,
      p.setField (k₅, mapValue metadata) = .ok { p with metadata } := by
    intro p
    cases metadata with
    | none | some fields => simp only [setField, h₅, mapValue]
  have hstring : ∀ p : RecipientPayload, ∀ text : String,
      p.setField (k₁, .string text) = .ok { p with accountIdentifier := text } ∧
      p.setField (k₂, .string text) = .ok { p with accountName := text } ∧
      p.setField (k₃, .string text) = .ok { p with institution := text } ∧
      p.setField (k₄, .string text) = .ok { p with memo := text } ∧
      p.setField (k₆, .string text) = .ok { p with nonce := text } ∧
      p.setField (k₇, .string text) = .ok { p with providerId := text } := by
    intro p text
    simp only [setField, setString, h₁, h₂, h₃, h₄, h₆, h₇, and_self]
  simp only [List.foldlM_cons, List.foldlM_nil, hstring, hmetadata]
  rfl

lemma ofJson_message (nonce : List Char) (r : RecipientRow) :
    RecipientPayload.ofJson (.object (byKey (r.message nonce))) =
      .ok (some { r with currency := "", nonce := String.ofList nonce }) := by
  rw [byKey_message, RecipientPayload.ofJson, foldlM_setField fieldOf_keys]
  rfl

section Capacity

variable {k seed : ℕ} {nonce : List.Vector UInt8 12} {r : RecipientRow}

lemma length_plaintext (nonce : List.Vector UInt8 12) (r : RecipientRow) :
    (utf8 (marshal (.object (r.message (Base64.encode nonce.toList))))).length =
      messageOverhead + r.contentSize := by
  rw [length_utf8, textSize_message]

lemma encryptOrderRecipient_long (hC : C.Lawful k) (h : k < r.contentSize + messageOverhead + 11) :
    ∃ e, C.encryptOrderRecipient (.ok nonce) seed r = .error e := by
  obtain ⟨e, he⟩ := hC.encrypt_long seed
    (utf8 (marshal (.object (r.message (Base64.encode nonce.toList)))))
    (by rw [length_plaintext]; omega)
  refine ⟨"failed to encrypt message: " ++ e, ?_⟩
  simp only [encryptOrderRecipient, publicKeyEncryptJSON, publicKeyEncryptPlain, hC.publicKey, he]

lemma carries_of_fits (hC : C.Lawful k)
    (hjson : C.ReadsBack (r.message (Base64.encode nonce.toList)))
    (h : r.contentSize + messageOverhead + 11 ≤ k) : C.Carries nonce seed r := by
  obtain ⟨ciphertext, hencrypt, hdecrypt⟩ := hC.decrypt_encrypt seed
    (utf8 (marshal (.object (r.message (Base64.encode nonce.toList)))))
    (by rw [length_plaintext]; omega)
  refine ⟨Base64.encode ciphertext, ?_,
    { r with currency := "", nonce := String.ofList (Base64.encode nonce.toList) }, ?_, rfl⟩
  · simp only [encryptOrderRecipient, publicKeyEncryptJSON, publicKeyEncryptPlain, hC.publicKey,
      hencrypt]
  have hmessage : C.publicKeyDecryptJSON ciphertext =
      some (.ok (.object (byKey (r.message (Base64.encode nonce.toList))))) := by
    simp only [publicKeyDecryptJSON, publicKeyDecryptPlain, hC.privateKey, hdecrypt,
      Option.map_some, Except.bind, hjson.struct]
  simp only [getOrderRecipientFromMessageHash, Base64.decode_encode, hmessage, Option.map_some,
    hjson.map, Except.bind, ofJson_message]

end Capacity

theorem carries_iff_fits {k seed : ℕ} {nonce : List.Vector UInt8 12} {r : RecipientRow}
    (hC : C.Lawful k) (hjson : C.ReadsBack (r.message (Base64.encode nonce.toList))) :
    C.Carries nonce seed r ↔ r.contentSize + messageOverhead + 11 ≤ k := by
  refine ⟨fun ⟨messageHash, hencrypt, _⟩ => ?_, carries_of_fits hC hjson⟩
  by_contra h
  obtain ⟨e, he⟩ : ∃ e, C.encryptOrderRecipient (.ok nonce) seed r = .error e :=
    encryptOrderRecipient_long hC (Nat.lt_of_not_le h)
  rw [he] at hencrypt
  cases hencrypt

end RecipientCipher

/-! ### The checks and the capacity -/

lemma RecipientPayload.missingFields_eq_nil {p : RecipientPayload} :
    p.missingFields = [] ↔
      p.institution ≠ "" ∧ p.accountIdentifier ≠ "" ∧ p.accountName ≠ "" ∧ p.memo ≠ "" := by
  simp [missingFields, List.filterMap_eq_nil_iff]

/-! ### A recipient with a long memo -/

namespace Sample

def recipientChecks : RecipientChecks where
  institutions := [⟨"ABNGNGLA", some ⟨"NGN", true, 1500⟩⟩]
  tokenSymbol := "USDT"
  baseCurrency := "USD"
  validateAccount _ _ := .ok "JOHN DOE"
  validateRate _ _ := .ok ()
  validateProvider _ _ := .ok ()

def recipientRow (accountName memo : String) : RecipientRow :=
  ⟨⟨"ABNGNGLA", "1234567890", accountName, memo, ""⟩, none⟩

def recipientMessage (memo : String) : List (String × JsonValue) :=
  (recipientRow "JOHN DOE" memo).message
    (Base64.encode (List.Vector.replicate 12 (0 : UInt8)).toList)

def recipientCipher (fields : List (String × JsonValue)) : RecipientCipher where
  aggregatorPublicKey := .rsa
  aggregatorPrivateKey := .rsa
  encryptPKCS1v15 _ plaintext :=
    if plaintext.length + 11 ≤ 256 then .ok plaintext
    else .error "crypto/rsa: message too long for RSA key size"
  decryptPKCS1v15 ciphertext := .ok ciphertext
  unmarshal text :=
    if text = utf8 (marshal (.object fields)) ∨ text = utf8 (marshal (.object (byKey fields))) then
      .ok (.object (byKey fields))
    else .error "unexpected end of JSON input"

lemma recipientCipher_lawful (fields : List (String × JsonValue)) :
    (recipientCipher fields).Lawful 256 where
  publicKey := rfl
  privateKey := rfl
  decrypt_encrypt _ plaintext h := ⟨plaintext, if_pos h, rfl⟩
  encrypt_long _ _ h := ⟨_, if_neg (Nat.not_le_of_lt h)⟩

lemma recipientCipher_readsBack (fields : List (String × JsonValue)) :
    (recipientCipher fields).ReadsBack fields where
  struct := if_pos (.inl rfl)
  map := if_pos (.inr rfl)

def longMemo : String := String.ofList (List.replicate 120 'a')

end Sample

open Sample in
theorem RecipientCipher.carries_short_memo :
    (recipientCipher (recipientMessage "Rent")).Lawful 256 ∧
      (recipientCipher (recipientMessage "Rent")).Carries (List.Vector.replicate 12 0) 0
        (recipientRow "JOHN DOE" "Rent") :=
  ⟨recipientCipher_lawful _,
    (carries_iff_fits (recipientCipher_lawful _) (recipientCipher_readsBack _)).2
      (by decide +kernel)⟩

open Sample in
theorem RecipientCipher.long_memo_not_carried :
    recipientChecks.validateRecipient ⟨recipientRow "John Doe" longMemo, "", ""⟩ =
        .ok (recipientRow "JOHN DOE" longMemo) ∧
      (recipientCipher (recipientMessage longMemo)).Lawful 256 ∧
      (recipientCipher (recipientMessage longMemo)).ReadsBack (recipientMessage longMemo) ∧
      ¬ (recipientCipher (recipientMessage longMemo)).Carries (List.Vector.replicate 12 0) 0
        (recipientRow "JOHN DOE" longMemo) := by
  refine ⟨?_, recipientCipher_lawful _, recipientCipher_readsBack _, ?_⟩
  · have hfields : RecipientPayload.missingFields ⟨recipientRow "John Doe" longMemo, "", ""⟩ = [] :=
      RecipientPayload.missingFields_eq_nil.2 (by decide +kernel)
    simp [RecipientChecks.validateRecipient, hfields, recipientChecks, Institution.loadedCurrency, equalFold]
    rfl
  · rintro ⟨messageHash, hencrypt, -⟩
    obtain ⟨e, he⟩ : ∃ e, (recipientCipher (recipientMessage longMemo)).encryptOrderRecipient
        (.ok (List.Vector.replicate 12 0)) 0 (recipientRow "JOHN DOE" longMemo) = .error e :=
      encryptOrderRecipient_long (recipientCipher_lawful _) (by decide +kernel)
    rw [he] at hencrypt
    cases hencrypt

end Stablenode
