import Stablenode.SignedOperations

/-! The call of a transaction payload (services/alchemy.go) on its two ways to the chain. -/
namespace Stablenode.CallPaths

open BigEndian Hex SignedOperations

structure TxPayload where
  target : String
  data : String
  value : Option String
  length_data : data.toList.length < 2 ^ 63

structure ChainCall where
  target : List UInt8
  value : ℕ
  data : List UInt8
  deriving DecidableEq

def digitsIn (base : ℕ) (digits : List Char) : Option ℕ :=
  if digits = [] then none
  else digits.foldlM (fun n c => ((hexValue c).filter (· < base)).map fun x => base * n + x) 0

def setString (text : String) : Option ℕ :=
  match text.toList with
  | '0' :: c :: rest =>
    if c = 'x' ∨ c = 'X' then digitsIn 16 rest
    else if c = 'b' ∨ c = 'B' then digitsIn 2 rest
    else if c = 'o' ∨ c = 'O' then digitsIn 8 rest
    else digitsIn 8 (c :: rest)
  | digits => digitsIn 10 digits

def executeSelector : List UInt8 := [0xb6, 0x1d, 0x27, 0xf6]

def executeArguments (target : List UInt8) (value : ℕ) (data : List UInt8) : List UInt8 :=
  leftPadBytes target 32 ++ leftPadBytes (bytesOf value) 32 ++ leftPadBytes (bytesOf 96) 32 ++
    leftPadBytes (bytesOf data.length) 32 ++
    (data ++ if data.length % 32 ≠ 0 then List.replicate (32 - data.length % 32) 0 else [])

def encodeExecuteCallData (target value data : String) : Option String :=
  (if value ≠ "0" ∧ value ≠ "" then bigNumber value else some 0).map fun valueBig =>
    "0x" ++ String.ofList (encode (executeSelector ++
      executeArguments (hexToAddress target) valueBig (hex2Bytes (trimMarker data))))

def executedCall (args : List UInt8) : Option ChainCall :=
  let offset := ofBytes ((args.drop 64).take 32)
  let length := ofBytes ((args.drop offset).take 32)
  if offset + 32 + length ≤ args.length then
    some ⟨(args.take 32).drop 12, ofBytes ((args.drop 32).take 32),
      (args.drop (offset + 32)).take length⟩
  else none

def smartAccountCall (tx : TxPayload) : Option ChainCall :=
  (encodeExecuteCallData tx.target (tx.value.getD "0") tx.data).bind fun callData =>
    (dataOf callData).bind fun bytes =>
      if bytes.take 4 = executeSelector then executedCall (bytes.drop 4) else none

def eoaCall (tx : TxPayload) : Option ChainCall :=
  tx.value.bind fun value =>
    (if value ≠ "0" then setString value else some 0).map fun n =>
      ⟨hexToAddress tx.target, n, fromHex tx.data⟩

variable {n : ℕ}

section Words

def wordRead (n : ℕ) : ℕ := ofBytes ((leftPadBytes (bytesOf n) 32).take 32)

lemma ofBytes_lt (bytes : List UInt8) : ofBytes bytes < 256 ^ bytes.length := by
  induction bytes using List.reverseRecOn with
  | nil => simp [ofBytes]
  | append_singleton bytes b ih =>
    have hb := b.toNat_lt
    rw [ofBytes_append_singleton, List.length_append, List.length_singleton, pow_succ]
    omega

lemma wordRead_lt (n : ℕ) : wordRead n < 256 ^ 32 :=
  (ofBytes_lt _).trans_le (Nat.pow_le_pow_right (by norm_num) (List.length_take_le 32 _))

lemma wordRead_of_lt (h : n < 256 ^ 32) : wordRead n = n := by
  rw [wordRead, leftPadBytes_bytesOf h, List.take_of_length_le (by simp), ofBytes_toBytes,
    Nat.mod_eq_of_lt h]

lemma take_toBytes (width extra n : ℕ) :
    (toBytes (width + extra) n).take width = toBytes width (n / 256 ^ extra) := by
  induction extra generalizing n with
  | zero => simp
  | succ extra ih =>
    rw [← add_assoc, toBytes, List.take_append_of_le_length (by simp), ih, Nat.div_div_eq_div_mul,
      pow_succ']

lemma wordRead_of_le (h : 256 ^ 32 ≤ n) :
    ∃ extra, 256 ^ (extra + 31) ≤ n ∧ n < 256 ^ (extra + 32) ∧ wordRead n = n / 256 ^ extra := by
  obtain ⟨extra, hlength⟩ : ∃ extra, (Nat.digits 256 n).length = extra + 32 :=
    ⟨_, (Nat.sub_add_cancel ((Nat.lt_digits_length_iff (by norm_num) n).2 h).le).symm⟩
  have hlow := (Nat.lt_digits_length_iff (b := 256) (k := extra + 31) (by norm_num) n).1 (by omega)
  have hhigh : n < 256 ^ (extra + 32) := hlength ▸ Nat.lt_base_pow_length_digits (by norm_num)
  have hbytes : leftPadBytes (bytesOf n) 32 = toBytes (32 + extra) n := by
    rw [← leftPadBytes_bytesOf (add_comm 32 extra ▸ hhigh)]
    simp [leftPadBytes, bytesOf, hlength, add_comm]
  refine ⟨extra, hlow, hhigh, ?_⟩
  rw [wordRead, hbytes, take_toBytes, ofBytes_toBytes, Nat.mod_eq_of_lt]
  exact Nat.div_lt_of_lt_mul (by rwa [← pow_add])

end Words

section Readings

def reading (base : ℕ) (digits : List ℕ) : ℕ := digits.foldl (fun n x => base * n + x) 0

lemma digitsIn_map {base : ℕ} (hbase : base ≤ 16) {digits : List ℕ} (hne : digits ≠ [])
    (h : ∀ x ∈ digits, x < base) :
    digitsIn base (digits.map hexDigit) = some (reading base digits) := by
  have hfold : ∀ (ds : List ℕ) (n : ℕ), (∀ x ∈ ds, x < base) →
      (ds.map hexDigit).foldlM (fun n c =>
        ((hexValue c).filter (· < base)).map fun x => base * n + x) n =
        some (ds.foldl (fun n x => base * n + x) n) := by
    intro ds
    induction ds with
    | nil => intros; rfl
    | cons x ds ih =>
      intro n hx
      have hlt := hx x List.mem_cons_self
      simp only [List.map_cons, List.foldlM_cons, hexValue_hexDigit (hlt.trans_le hbase),
        Option.filter_some, hlt, decide_true, if_true, Option.map_some, Option.bind_eq_bind,
        Option.bind_some, List.foldl_cons]
      exact ih _ fun y hy => hx y (List.mem_cons_of_mem _ hy)
  rw [digitsIn, if_neg (by simpa using hne), hfold digits 0 h, reading]

lemma hexValue_lt {c : Char} {x : ℕ} (h : hexValue c = some x) : x < 16 := by
  have hle : ∀ b : Char, c ≤ b → c.toNat ≤ b.toNat := fun b hb => UInt32.le_iff_toNat_le.1 hb
  unfold hexValue at h
  split_ifs at h with hdigit hlower hupper
  · have hmax : c.toNat ≤ 57 := hle '9' hdigit.2
    obtain rfl := Option.some.inj h
    omega
  · have hmax : c.toNat ≤ 102 := hle 'f' hlower.2
    obtain rfl := Option.some.inj h
    omega
  · have hmax : c.toNat ≤ 70 := hle 'F' hupper.2
    obtain rfl := Option.some.inj h
    omega

lemma digitsIn_sixteen (digits : List Char) : digitsIn 16 digits = number digits := by
  have hvalue : ∀ c, (hexValue c).filter (· < 16) = hexValue c := by
    intro c
    cases hc : hexValue c with
    | none => rfl
    | some x => simp [Option.filter_some, hexValue_lt hc]
  simp [digitsIn, number, hvalue]

lemma reading_cons (base d : ℕ) (digits : List ℕ) :
    reading base (d :: digits) = d * base ^ digits.length + reading base digits := by
  induction digits using List.reverseRecOn with
  | nil => simp [reading]
  | append_singleton digits x ih =>
    have hsnoc : ∀ ds, reading base (ds ++ [x]) = base * reading base ds + x := by
      simp [reading]
    rw [← List.cons_append, hsnoc, hsnoc, ih, List.length_append, List.length_singleton, pow_succ]
    ring

lemma reading_lt {base : ℕ} {digits : List ℕ} (h : ∀ x ∈ digits, x < base) :
    reading base digits < base ^ digits.length := by
  induction digits with
  | nil => simp [reading]
  | cons d digits ih =>
    have hd := h d List.mem_cons_self
    have hrest := ih fun x hx => h x (List.mem_cons_of_mem _ hx)
    rw [reading_cons, List.length_cons, pow_succ']
    calc d * base ^ digits.length + reading base digits
        < (d + 1) * base ^ digits.length := by rw [add_mul, one_mul]; omega
      _ ≤ base * base ^ digits.length := Nat.mul_le_mul_right _ hd

lemma reading_le (digits : List ℕ) : reading 10 digits ≤ reading 16 digits := by
  induction digits with
  | nil => rfl
  | cons d digits ih =>
    rw [reading_cons, reading_cons]
    exact Nat.add_le_add (Nat.mul_le_mul_left _ (Nat.pow_le_pow_left (by norm_num) _)) ih

lemma wordRead_reading_ne {d : ℕ} {digits : List ℕ} (hne : digits ≠ []) (hd : 0 < d)
    (h : ∀ x ∈ d :: digits, x < 10) :
    wordRead (reading 16 (d :: digits)) ≠ reading 10 (d :: digits) := by
  have hd10 := h d List.mem_cons_self
  have hrest : ∀ x ∈ digits, x < 10 := fun x hx => h x (List.mem_cons_of_mem _ hx)
  have hten := reading_lt hrest
  have hsixteen : reading 16 digits < 16 ^ digits.length :=
    reading_lt fun x hx => (hrest x hx).trans (by norm_num)
  have hle := reading_le digits
  have hpos : 0 < digits.length := List.length_pos_iff.2 hne
  rw [reading_cons, reading_cons]
  generalize hr : digits.length = r at *
  generalize reading 16 digits = a at *
  generalize reading 10 digits = b at *
  have hgrow : d * 10 ^ r < d * 16 ^ r :=
    Nat.mul_lt_mul_of_pos_left (Nat.pow_lt_pow_left (by norm_num) hpos.ne') hd
  rcases Nat.lt_or_ge (d * 16 ^ r + a) (256 ^ 32) with hsmall | hlarge
  · rw [wordRead_of_lt hsmall]
    omega
  have hupper : d * 16 ^ r + a < 10 * 16 ^ r :=
    calc d * 16 ^ r + a < (d + 1) * 16 ^ r := by rw [add_mul, one_mul]; omega
      _ ≤ 10 * 16 ^ r := Nat.mul_le_mul_right _ hd10
  obtain ⟨extra, hlow, hhigh, hread⟩ := wordRead_of_le hlarge
  have hword := wordRead_lt (d * 16 ^ r + a)
  have hmin : 256 ^ 31 ≤ wordRead (d * 16 ^ r + a) := by
    rw [hread, Nat.le_div_iff_mul_le (by positivity), ← pow_add, add_comm]
    exact hlow
  -- the sizes meet only between 75 and 78 digits
  rcases Nat.lt_or_ge r 74 with hshort | hlong
  · have hbound : 10 ^ r ≤ 10 ^ 73 := Nat.pow_le_pow_right (by norm_num) (by omega)
    have hmul : d * 10 ^ r ≤ 9 * 10 ^ 73 := Nat.mul_le_mul (by omega) hbound
    norm_num at hmin hmul hbound
    omega
  rcases Nat.lt_or_ge r 78 with hmid | hhuge
  · have hextra : ∀ k l, l = k + 1 → 256 ^ k ≤ d * 16 ^ r + a → d * 16 ^ r + a < 256 ^ l →
        extra + 31 = k := by
      rintro k _ rfl hk hk'
      have h₁ := (Nat.pow_lt_pow_iff_right (by norm_num : 1 < 256)).1 (hlow.trans_lt hk')
      have h₂ := (Nat.pow_lt_pow_iff_right (by norm_num : 1 < 256)).1 (hk.trans_lt hhigh)
      omega
    rw [hread]
    interval_cases r
    · obtain rfl : extra = 6 := Nat.add_right_cancel (m := 31)
        (hextra 37 38 rfl (by omega) (hupper.trans_le (by norm_num)))
      omega
    · obtain rfl : extra = 6 := Nat.add_right_cancel (m := 31)
        (hextra 37 38 rfl (by omega) (hupper.trans_le (by norm_num)))
      omega
    · obtain rfl : extra = 7 := Nat.add_right_cancel (m := 31)
        (hextra 38 39 rfl (by omega) (hupper.trans_le (by norm_num)))
      omega
    · obtain rfl : extra = 7 := Nat.add_right_cancel (m := 31)
        (hextra 38 39 rfl (by omega) (hupper.trans_le (by norm_num)))
      omega
  · have hbound : 10 ^ 78 ≤ d * 10 ^ r :=
      (Nat.pow_le_pow_right (by norm_num) hhuge).trans (Nat.le_mul_of_pos_left _ hd)
    norm_num at hword hbound
    omega

end Readings

section Calls

variable {target data : List UInt8} {value : ℕ}

lemma length_hexToAddress (text : String) : (hexToAddress text).length = 20 := by
  simp only [hexToAddress, leftPadBytes, List.length_append, List.length_replicate,
    List.length_drop]
  omega

lemma length_leftPadBytes (bytes : List UInt8) (width : ℕ) :
    (leftPadBytes bytes width).length = max width bytes.length := by
  simp only [leftPadBytes, List.length_append, List.length_replicate]
  omega

lemma executedCall_value (htarget : target.length = 20) {call : ChainCall}
    (h : executedCall (executeArguments target value data) = some call) :
    call.value = wordRead value := by
  have hlength : (leftPadBytes target 32).length = 32 := by rw [length_leftPadBytes, htarget]; rfl
  have hword : 32 ≤ (leftPadBytes (bytesOf value) 32).length := by
    rw [length_leftPadBytes]
    exact le_max_left _ _
  simp only [executedCall] at h
  split_ifs at h
  rw [← Option.some.inj h, wordRead]
  dsimp only [executeArguments]
  rw [List.append_assoc, List.append_assoc, List.append_assoc, List.drop_left' hlength,
    List.take_append_of_le_length hword]

lemma take_drop_middle {front middle back : List UInt8} {i : ℕ} (hi : front.length = i)
    (hn : middle.length = n) : ((front ++ (middle ++ back)).drop i).take n = middle := by
  rw [List.drop_left' hi, List.take_left' hn]

lemma executedCall_executeArguments (htarget : target.length = 20) (hvalue : value < 256 ^ 32)
    (hdata : data.length < 2 ^ 63) :
    executedCall (executeArguments target value data) = some ⟨target, value, data⟩ := by
  have hword : ∀ n < 256 ^ 32, ∃ word : List UInt8, leftPadBytes (bytesOf n) 32 = word ∧
      word.length = 32 ∧ ofBytes word = n := fun n hn =>
    ⟨_, leftPadBytes_bytesOf hn, length_toBytes 32 n, by rw [ofBytes_toBytes, Nat.mod_eq_of_lt hn]⟩
  obtain ⟨valueWord, hvalueWord, hvalueLength, hvalueRead⟩ := hword value hvalue
  obtain ⟨offset, hoffset, hoffsetLength, hoffsetRead⟩ := hword 96 (by norm_num)
  obtain ⟨length, hlength, hlengthLength, hlengthRead⟩ :=
    hword data.length (hdata.trans (by norm_num))
  obtain ⟨first, hfirst, hfirstLength⟩ : ∃ first : List UInt8,
      leftPadBytes target 32 = first ++ target ∧ first.length = 12 :=
    ⟨_, rfl, by simp [htarget]⟩
  rw [executeArguments, hvalueWord, hoffset, hlength, hfirst]
  generalize (if data.length % 32 ≠ 0 then List.replicate (32 - data.length % 32) (0 : UInt8) else [])
    = padding
  generalize hargs : first ++ target ++ valueWord ++ offset ++ length ++ (data ++ padding) = args
  have hsize : args.length = 128 + (data.length + padding.length) := by
    simp only [← hargs, List.length_append]
    omega
  have hreadTarget : (args.take 32).drop 12 = target := by
    rw [← hargs, ← hfirstLength]
    simp only [List.append_assoc]
    rw [← List.append_assoc first target, List.take_left' (by simp [htarget, hfirstLength]),
      List.drop_left]
  have hreadValue : (args.drop 32).take 32 = valueWord := by
    rw [← hargs]
    simp only [List.append_assoc]
    rw [← List.append_assoc first]
    exact take_drop_middle (by simp [htarget, hfirstLength]) hvalueLength
  have hreadOffset : (args.drop 64).take 32 = offset := by
    rw [← hargs, List.append_assoc, List.append_assoc]
    exact take_drop_middle (by simp [htarget, hfirstLength, hvalueLength]) hoffsetLength
  have hreadLength : (args.drop 96).take 32 = length := by
    rw [← hargs, List.append_assoc]
    exact take_drop_middle (by simp [htarget, hfirstLength, hvalueLength, hoffsetLength])
      hlengthLength
  have hreadData : (args.drop (96 + 32)).take data.length = data := by
    rw [← hargs]
    exact take_drop_middle
      (by simp [htarget, hfirstLength, hvalueLength, hoffsetLength, hlengthLength]) rfl
  simp only [executedCall, hreadOffset, hoffsetRead, hreadLength, hlengthRead, hreadTarget,
    hreadValue, hvalueRead, hreadData]
  rw [if_pos (by omega)]

lemma length_executeArguments (htarget : target.length = 20) (hvalue : value < 256 ^ 32)
    (hdata : data.length < 2 ^ 63) : 32 ∣ (executeArguments target value data).length := by
  have hpadding : 32 ∣ (data ++ if data.length % 32 ≠ 0 then
      List.replicate (32 - data.length % 32) (0 : UInt8) else []).length := by
    split_ifs <;> simp <;> omega
  have hlength : data.length < 256 ^ 32 := hdata.trans (by norm_num)
  rw [executeArguments, leftPadBytes_bytesOf hvalue, leftPadBytes_bytesOf hlength,
    leftPadBytes_bytesOf (by norm_num), List.length_append]
  refine dvd_add ?_ hpadding
  simp [length_leftPadBytes, htarget]

end Calls

section Payloads

variable {tx : TxPayload} {value : String} {bytes : List UInt8}

lemma fromHex_of_decodeString {text : String} (h : decodeString (trimMarker text) = some bytes) :
    fromHex text = bytes := by
  have heven := length_of_decodeString h
  have hbytes := hex2Bytes_of_decodeString h
  unfold trimMarker at h heven hbytes
  unfold fromHex
  split at h
  · next rest htext => simp only [htext] at *; rw [if_neg (by omega), hbytes]
  next hmarker =>
  split
  · next rest htext => exact absurd htext (hmarker rest)
  · next rest htext =>
    -- `X` is no digit, so these texts do not decode
    rw [htext] at h
    simp [decodeString, hexValue] at h
  · simp only at *
    rw [if_neg (by omega), hbytes]

lemma TxPayload.length_bytes (tx : TxPayload) (h : decodeString (trimMarker tx.data) = some bytes) :
    bytes.length < 2 ^ 63 := by
  have hlength := length_of_decodeString h
  have htrim : (trimMarker tx.data).length ≤ tx.data.toList.length := by
    unfold trimMarker
    split
    · next rest h => rw [h]; exact (Nat.le_succ _).trans (Nat.le_succ _)
    · rfl
  have hshort := tx.length_data
  omega

def valueRead (read : String → Option ℕ) (value : String) : Option ℕ :=
  if value ≠ "0" then read value else some 0

def Agree (tx : TxPayload) : Prop :=
  ∃ call, smartAccountCall tx = some call ∧ eoaCall tx = some call

lemma encodeExecuteCallData_eq (hne : value ≠ "") (hread : valueRead bigNumber value = some n)
    (target data : String) :
    encodeExecuteCallData target value data = some ("0x" ++ String.ofList
      (encode (executeSelector ++ executeArguments (hexToAddress target) n
        (hex2Bytes (trimMarker data))))) := by
  rw [valueRead] at hread
  simp [encodeExecuteCallData, hne, hread]

lemma smartAccountCall_eq (hvalue : tx.value = some value) (hne : value ≠ "")
    (hread : valueRead bigNumber value = some n) :
    smartAccountCall tx = executedCall (executeArguments (hexToAddress tx.target) n
      (hex2Bytes (trimMarker tx.data))) := by
  have hselector : executeSelector.length = 4 := rfl
  rw [smartAccountCall, hvalue, Option.getD_some, encodeExecuteCallData_eq hne hread,
    Option.bind_some, dataOf_ofList, decodeString_encode, Option.bind_some,
    if_pos (List.take_left' hselector), List.drop_left' hselector]

lemma eoaCall_eq (hvalue : tx.value = some value) {m : ℕ}
    (hread : valueRead setString value = some m) (hdata : fromHex tx.data = bytes) :
    eoaCall tx = some ⟨hexToAddress tx.target, m, bytes⟩ := by
  rw [valueRead] at hread
  simp only [eoaCall, hvalue, Option.bind_some, hread, Option.map_some, hdata]

variable (hvalue : tx.value = some value) (hne : value ≠ "")
  (hdata : decodeString (trimMarker tx.data) = some bytes)

include hvalue hne hdata

lemma agree_of_eq (hsmart : valueRead bigNumber value = some n)
    (heoa : valueRead setString value = some n) (hn : n < 256 ^ 32) : Agree tx := by
  refine ⟨_, ?_, eoaCall_eq hvalue heoa (fromHex_of_decodeString hdata)⟩
  rw [smartAccountCall_eq hvalue hne hsmart, hex2Bytes_of_decodeString hdata]
  exact executedCall_executeArguments (length_hexToAddress _) hn (tx.length_bytes hdata)

lemma not_agree_of_ne {m : ℕ} (hsmart : valueRead bigNumber value = some n)
    (heoa : valueRead setString value = some m) (hread : wordRead n ≠ m) : ¬ Agree tx := by
  rintro ⟨call, hcall, heoaCall⟩
  rw [smartAccountCall_eq hvalue hne hsmart] at hcall
  rw [eoaCall_eq hvalue heoa (fromHex_of_decodeString hdata), Option.some.injEq] at heoaCall
  have hword := executedCall_value (length_hexToAddress _) hcall
  rw [← heoaCall] at hword
  exact hread hword.symm

end Payloads

def IsDecimal (text : String) : Prop :=
  ∃ d digits, text.toList = (d :: digits).map hexDigit ∧ (∀ x ∈ d :: digits, x < 10) ∧
    (d = 0 → digits = [])

section Values

variable {value : String}

lemma toList_of_numberOf (h : numberOf value = some n) :
    ∃ digits, value.toList = '0' :: 'x' :: digits ∧ number digits = some n := by
  unfold numberOf at h
  split at h
  · next digits hdigits => exact ⟨digits, hdigits, h⟩
  · cases h

lemma valueRead_of_numberOf (h : numberOf value = some n) :
    value ≠ "" ∧ valueRead bigNumber value = some n ∧ valueRead setString value = some n := by
  obtain ⟨digits, htext, hnumber⟩ := toList_of_numberOf h
  have hne : value ≠ "0" := by rintro rfl; cases htext
  refine ⟨(by rintro rfl; cases htext), ?_, ?_⟩
  · rw [valueRead, if_pos hne, bigNumber_of_numberOf h]
  · rw [valueRead, if_pos hne, setString, htext]
    simp [digitsIn_sixteen, hnumber]

lemma hexDigit_ne {d : ℕ} (h : d < 10) : hexDigit d ≠ 'x' ∧ (0 < d → hexDigit d ≠ '0') := by
  interval_cases d <;> decide

lemma valueRead_of_decimal {d : ℕ} {digits : List ℕ} (hd : 0 < d)
    (htext : value.toList = (d :: digits).map hexDigit) (h : ∀ x ∈ d :: digits, x < 10) :
    value ≠ "" ∧ valueRead bigNumber value = some (reading 16 (d :: digits)) ∧
      valueRead setString value = some (reading 10 (d :: digits)) := by
  have hfirst := (hexDigit_ne (h d List.mem_cons_self)).2 hd
  have hne : value ≠ "0" := by
    rintro rfl
    exact hfirst (List.cons.inj htext).1.symm
  have hsixteen : ∀ x ∈ d :: digits, x < 16 := fun x hx => (h x hx).trans (by norm_num)
  refine ⟨(by rintro rfl; cases htext), ?_, ?_⟩
  · have htrim : trimMarker value = (d :: digits).map hexDigit := by
      unfold trimMarker
      rw [htext]
      split
      · next hmarker => exact absurd (List.cons.inj hmarker).1 hfirst
      · rfl
    rw [valueRead, if_pos hne, bigNumber, htrim, ← digitsIn_sixteen,
      digitsIn_map le_rfl (by simp) hsixteen]
  · rw [valueRead, if_pos hne, setString, htext]
    split
    · next hmarker => exact absurd (List.cons.inj hmarker).1 hfirst
    · exact digitsIn_map (by norm_num) (by simp) h

end Values

theorem paths_agree_iff (tx : TxPayload) (value : String) (bytes : List UInt8)
    (hvalue : tx.value = some value) (hdata : decodeString (trimMarker tx.data) = some bytes)
    (hform : IsDecimal value ∨ ∃ n, numberOf value = some n) :
    Agree tx ↔ (∃ n < 2 ^ 256, numberOf value = some n) ∨ value.toList.length = 1 := by
  have hpow : (2 : ℕ) ^ 256 = 256 ^ 32 := by norm_num
  rcases hform with ⟨d, digits, htext, hdigits, hzero⟩ | ⟨n, hn⟩
  · rcases Nat.eq_zero_or_pos d with rfl | hd
    · obtain rfl := hzero rfl
      obtain rfl : value = "0" := String.toList_injective htext
      exact iff_of_true (agree_of_eq hvalue (by decide) hdata rfl rfl (by norm_num)) (.inr rfl)
    obtain ⟨hne, hsmart, heoa⟩ := valueRead_of_decimal hd htext hdigits
    rcases eq_or_ne digits [] with rfl | hmore
    · refine iff_of_true (agree_of_eq hvalue hne hdata hsmart heoa ?_) (.inr (by rw [htext]; rfl))
      have := hdigits d List.mem_cons_self
      simp only [reading, List.foldl_cons, List.foldl_nil]
      norm_num
      omega
    refine iff_of_false
      (not_agree_of_ne hvalue hne hdata hsmart heoa (wordRead_reading_ne hmore hd hdigits)) ?_
    rintro (⟨n, -, hn⟩ | hlength)
    · obtain ⟨rest, hrest, -⟩ := toList_of_numberOf hn
      rw [htext] at hrest
      exact (hexDigit_ne (hdigits d List.mem_cons_self)).2 hd (List.cons.inj hrest).1
    · rw [htext, List.length_map, List.length_cons, Nat.add_eq_right, List.length_eq_zero_iff]
        at hlength
      exact hmore hlength
  · obtain ⟨hne, hsmart, heoa⟩ := valueRead_of_numberOf hn
    obtain ⟨digits, htext, -⟩ := toList_of_numberOf hn
    rcases Nat.lt_or_ge n (2 ^ 256) with hlt | hge
    · exact iff_of_true (agree_of_eq hvalue hne hdata hsmart heoa (hpow ▸ hlt)) (.inl ⟨n, hlt, hn⟩)
    refine iff_of_false (not_agree_of_ne hvalue hne hdata hsmart heoa ?_) ?_
    · exact ((wordRead_lt n).trans_le (hpow ▸ hge)).ne
    rintro (⟨m, hm, hread⟩ | hlength)
    · obtain rfl := Option.some.inj (hn.symm.trans hread)
      omega
    · simp [htext] at hlength

theorem encodeExecuteCallData_decodes (tx : TxPayload) (value : String) (target bytes : List UInt8)
    (n : ℕ) (htarget : decodeString (trimMarker tx.target) = some target)
    (hlength : target.length = 20) (hvalue : numberOf value = some n) (hn : n < 2 ^ 256)
    (hdata : decodeString (trimMarker tx.data) = some bytes) :
    ∃ text args, encodeExecuteCallData tx.target value tx.data = some text ∧
      dataOf text = some (executeSelector ++ args) ∧ args.take 12 = List.replicate 12 0 ∧
      executedCall args = some ⟨target, n, bytes⟩ ∧
      ∃ k, (executeSelector ++ args).length = 4 + 32 * k := by
  have hword : n < 256 ^ 32 := hn.trans_eq (by norm_num)
  have hshort := tx.length_bytes hdata
  have haddress : hexToAddress tx.target = target := by
    simp [hexToAddress, fromHex_of_decodeString htarget, hlength, leftPadBytes]
  obtain ⟨hne, hread, -⟩ := valueRead_of_numberOf hvalue
  obtain ⟨k, hk⟩ := length_executeArguments hlength hword hshort
  refine ⟨_, _, encodeExecuteCallData_eq hne hread _ _, by rw [dataOf_ofList, decodeString_encode],
    ?_⟩
  rw [haddress, hex2Bytes_of_decodeString hdata]
  refine ⟨?_, executedCall_executeArguments hlength hword hshort, k, ?_⟩
  · simp [executeArguments, leftPadBytes, hlength]
  · rw [List.length_append, hk]
    rfl

def payment (value : String) : TxPayload :=
  ⟨"0x00000000000000000000000000000000000000aa", "0x", some value, by decide⟩

theorem sixteen_units_decoded :
    ∃ text args, encodeExecuteCallData (payment "0x10").target "0x10" (payment "0x10").data =
        some text ∧
      dataOf text = some (executeSelector ++ args) ∧ args.take 12 = List.replicate 12 0 ∧
      executedCall args = some ⟨List.replicate 19 0 ++ [0xaa], 16, []⟩ ∧
      ∃ k, (executeSelector ++ args).length = 4 + 32 * k :=
  encodeExecuteCallData_decodes (payment "0x10") "0x10" (List.replicate 19 0 ++ [0xaa]) [] 16
    (by decide +kernel) rfl (by decide +kernel) (by norm_num) rfl

theorem paths_agree_nine : Agree (payment "9") :=
  (paths_agree_iff (payment "9") "9" [] rfl rfl (.inl ⟨9, [], rfl, by decide, nofun⟩)).2 (.inr rfl)

theorem ten_units_sixteen : ¬ Agree (payment "10") ∧
    (smartAccountCall (payment "10")).map ChainCall.value = some 16 ∧
    (eoaCall (payment "10")).map ChainCall.value = some 10 := by
  have hdecimal := @valueRead_of_decimal "10" 1 [0] (by decide) rfl (by decide)
  have hsmart : smartAccountCall (payment "10") = some ⟨hexToAddress (payment "10").target, 16, []⟩ :=
    (smartAccountCall_eq rfl (by decide) hdecimal.2.1).trans
      (executedCall_executeArguments (length_hexToAddress _) (by norm_num [reading]) (by decide))
  have heoa := @eoaCall_eq (payment "10") _ _ rfl _ hdecimal.2.2 (fromHex_of_decodeString rfl)
  refine ⟨?_, by rw [hsmart]; rfl, by rw [heoa]; rfl⟩
  exact not_agree_of_ne rfl hdecimal.1 rfl hdecimal.2.1 hdecimal.2.2
    (wordRead_reading_ne (by decide) (by decide) (by decide))

end Stablenode.CallPaths
