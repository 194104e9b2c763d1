import Stablenode.Hex

/-! JSON texts as `encoding/json` writes them, and how many bytes they take. -/
namespace Stablenode

inductive JsonValue where
  | null
  | bool (b : Bool)
  | number (text : String)
  | string (text : String)
  | array (items : List JsonValue)
  | object (fields : List (String × JsonValue))

namespace JsonValue

def isEscapedByNumber (c : Char) : Bool :=
  c.toNat < 0x20 || c = '<' || c = '>' || c = '&' || c.toNat = 0x2028 || c.toNat = 0x2029

def escape (c : Char) : List Char :=
  if c = '"' then ['\\', '"']
  else if c = '\\' then ['\\', '\\']
  else if c = '\n' then ['\\', 'n']
  else if c = '\r' then ['\\', 'r']
  else if c = '\t' then ['\\', 't']
  else if c.toNat = 0x08 then ['\\', 'b']
  else if c.toNat = 0x0c then ['\\', 'f']
  else if isEscapedByNumber c then '\\' :: 'u' :: Hex.padHex 4 c.toNat
  else [c]

def escapes (text : List Char) : List Char := text.flatMap escape

def quote (text : List Char) : List Char := '"' :: escapes text ++ ['"']

mutual

def marshal : JsonValue → List Char
  | null => "null".toList
  | bool b => (if b then "true" else "false").toList
  | number text => text.toList
  | string text => quote text.toList
  | array items => '[' :: List.intercalate [','] (marshalItems items) ++ [']']
  | object fields => '\x7b' :: List.intercalate [','] (marshalFields fields) ++ ['\x7d']

def marshalItems : List JsonValue → List (List Char)
  | [] => []
  | v :: rest => marshal v :: marshalItems rest

def marshalFields : List (String × JsonValue) → List (List Char)
  | [] => []
  | (key, v) :: rest => (quote key.toList ++ ':' :: marshal v) :: marshalFields rest

end

end JsonValue

def utf8 (text : List Char) : List UInt8 := text.flatMap String.utf8EncodeChar

def textSize (text : List Char) : ℕ := (text.map Char.utf8Size).sum

lemma length_utf8 (text : List Char) : (utf8 text).length = textSize text := by
  induction text with
  | nil => rfl
  | cons c rest ih =>
    have hc : (utf8 (c :: rest)).length = (String.utf8EncodeChar c).length + (utf8 rest).length :=
      List.length_append
    rw [hc, ih, String.length_utf8EncodeChar]
    rfl

@[simp] lemma textSize_nil : textSize [] = 0 := rfl

@[simp] lemma textSize_cons (c : Char) (text : List Char) :
    textSize (c :: text) = c.utf8Size + textSize text := rfl

@[simp] lemma textSize_append (text more : List Char) :
    textSize (text ++ more) = textSize text + textSize more := by
  simp [textSize]

lemma textSize_quote (text : List Char) :
    textSize (JsonValue.quote text) = textSize (JsonValue.escapes text) + 2 := by
  have h : Char.utf8Size '"' = 1 := by decide
  simp only [JsonValue.quote, List.cons_append, textSize_cons, textSize_append, textSize_nil, h]
  omega

variable {fields : List (String × JsonValue)}

open JsonValue in
private lemma textSize_fields (h : fields ≠ []) :
    textSize (List.intercalate [','] (marshalFields fields)) + 1 =
      (fields.map fun entry =>
        textSize (escapes entry.1.toList) + textSize (marshal entry.2) + 4).sum := by
  have hmarks : Char.utf8Size ',' = 1 ∧ Char.utf8Size ':' = 1 := by decide
  obtain ⟨hcomma, hcolon⟩ := hmarks
  induction fields with
  | nil => exact absurd rfl h
  | cons entry rest ih =>
    obtain ⟨key, v⟩ := entry
    cases rest with
    | nil =>
      simp only [marshalFields, List.intercalate_singleton, textSize_append, textSize_cons,
        textSize_quote, hcolon, List.map_cons, List.map_nil, List.sum_cons, List.sum_nil]
      omega
    | cons entry' rest =>
      have hrest := ih (List.cons_ne_nil _ _)
      rw [List.map_cons, List.sum_cons, ← hrest, marshalFields, List.intercalate_cons_of_ne_nil]
      · simp only [textSize_append, textSize_cons, textSize_nil, textSize_quote, hcolon, hcomma]
        omega
      · exact List.cons_ne_nil _ _

open JsonValue in
lemma textSize_object (h : fields ≠ []) :
    textSize (marshal (.object fields)) =
      (fields.map fun entry =>
        textSize (escapes entry.1.toList) + textSize (marshal entry.2) + 4).sum + 1 := by
  have hmarks : Char.utf8Size '\x7b' = 1 ∧ Char.utf8Size '\x7d' = 1 := by decide
  have hfields := textSize_fields h
  simp only [marshal, List.cons_append, textSize_cons, textSize_append, textSize_nil, hmarks.1,
    hmarks.2]
  omega

lemma textSize_escapes_of_plain {text : List Char}
    (h : ∀ c ∈ text, JsonValue.escape c = [c] ∧ c.utf8Size = 1) :
    textSize (JsonValue.escapes text) = text.length := by
  induction text with
  | nil => rfl
  | cons c rest ih =>
    obtain ⟨hescape, hsize⟩ := h c List.mem_cons_self
    have hrest := ih fun d hd => h d (List.mem_cons_of_mem c hd)
    have hcons : JsonValue.escapes (c :: rest) = c :: JsonValue.escapes rest := by
      simp [JsonValue.escapes, hescape]
    rw [hcons, textSize_cons, hsize, hrest, List.length_cons, Nat.add_comm]

end Stablenode
