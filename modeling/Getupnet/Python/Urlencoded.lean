import Mathlib.Data.List.TakeWhile
import Mathlib.Data.Nat.Notation

namespace python

def hexValue (digit : Char) : Option Nat :=
  if '0' ≤ digit ∧ digit ≤ '9' then some (digit.toNat - 48)
  else if 'A' ≤ digit ∧ digit ≤ 'F' then some (digit.toNat - 55)
  else if 'a' ≤ digit ∧ digit ≤ 'f' then some (digit.toNat - 87)
  else none

/-- The value of two hexadecimal digits. -/
def escapeValue (high low : Char) : Option Nat :=
  match hexValue high, hexValue low with
  | some high, some low => some (16 * high + low)
  | _, _ => none

/-- A part of a text with escapes: a byte, or a character beyond ASCII. -/
inductive Quoted where
  | byte (value : Nat)
  | char (value : Char)

def Quoted.of (char : Char) : Quoted := if char.toNat < 0x80 then .byte char.toNat else .char char

/-- `%` with two hexadecimal digits stands for a byte; any other `%` stands for itself. -/
def percentDecode : List Char → List Quoted
  | '%' :: high :: low :: rest =>
    match escapeValue high low with
    | some value => .byte value :: percentDecode rest
    | none => Quoted.of '%' :: percentDecode (high :: low :: rest)
  | char :: rest => Quoted.of char :: percentDecode rest
  | [] => []

/-- A UTF-8 sequence under way: the bytes that it needs, its value so far, and the
range of its next byte. -/
structure Utf8Sequence where
  needed : Nat
  value : Nat
  low : Nat := 0x80
  high : Nat := 0xBF

def utf8Lead (byte : Nat) : Option Utf8Sequence :=
  if 0xC2 ≤ byte ∧ byte ≤ 0xDF then some { needed := 1, value := byte - 0xC0 }
  else if byte = 0xE0 then some { needed := 2, value := 0, low := 0xA0 }
  else if byte = 0xED then some { needed := 2, value := 0xD, high := 0x9F }
  else if 0xE1 ≤ byte ∧ byte ≤ 0xEF then some { needed := 2, value := byte - 0xE0 }
  else if byte = 0xF0 then some { needed := 3, value := 0, low := 0x90 }
  else if byte = 0xF4 then some { needed := 3, value := 4, high := 0x8F }
  else if 0xF1 ≤ byte ∧ byte ≤ 0xF3 then some { needed := 3, value := byte - 0xF0 }
  else none

/-- The character for bytes that are no UTF-8. -/
def replacementCharacter : Char := Char.ofNat 0xFFFD

/-- A byte at the start of a character: what it completes, and the sequence it opens. -/
def utf8Begin (byte : Nat) : List Char × Option Utf8Sequence :=
  if byte < 0x80 then ([Char.ofNat byte], none)
  else
    match utf8Lead byte with
    | some opened => ([], some opened)
    | none => ([replacementCharacter], none)

/-- A byte that does not go on with the sequence replaces it and begins anew. -/
def utf8Step (byte : Nat) : Option Utf8Sequence → List Char × Option Utf8Sequence
  | none => utf8Begin byte
  | some opened =>
    if opened.low ≤ byte ∧ byte ≤ opened.high then
      let value := opened.value * 64 + (byte - 0x80)
      if opened.needed = 1 then ([Char.ofNat value], none)
      else ([], some { needed := opened.needed - 1, value })
    else (replacementCharacter :: (utf8Begin byte).1, (utf8Begin byte).2)

def utf8End : Option Utf8Sequence → List Char
  | none => []
  | some _ => [replacementCharacter]

/-- `bytes.decode("utf-8", "replace")` between the characters beyond ASCII. -/
def decodeReplacing (state : Option Utf8Sequence) : List Quoted → List Char
  | [] => utf8End state
  | .char char :: rest => utf8End state ++ char :: decodeReplacing none rest
  | .byte byte :: rest => (utf8Step byte state).1 ++ decodeReplacing (utf8Step byte state).2 rest

/-- `urllib.parse.unquote` -/
def unquote (text : List Char) : List Char := decodeReplacing none (percentDecode text)

def plusToSpace (char : Char) : Char := if char = '+' then ' ' else char

/-- `urllib.parse.unquote_plus` -/
def unquote_plus (text : List Char) : List Char := unquote (text.map plusToSpace)

/-- One `name=value` of a query string. -/
def parseField (field : List Char) : String × String :=
  (String.ofList (unquote_plus (field.takeWhile (· ≠ '='))),
    String.ofList (unquote_plus ((field.dropWhile (· ≠ '=')).drop 1)))

/-- `urllib.parse.parse_qsl` with blank values kept. -/
def parse_qsl (query : List Char) : List (String × String) :=
  ((query.splitOn '&').filter fun field => !field.isEmpty).map parseField

def withoutFragment (url : List Char) : List Char := url.takeWhile (· ≠ '#')

/-- What follows the first `?` of a URL, without its fragment. -/
def query_string (url : List Char) : List Char := ((withoutFragment url).dropWhile (· ≠ '?')).drop 1

/-- Names and values put together as they are. -/
def joinFields : List (String × String) → List Char
  | [] => []
  | [(name, value)] => name.toList ++ '=' :: value.toList
  | (name, value) :: field :: rest =>
    name.toList ++ '=' :: value.toList ++ '&' :: joinFields (field :: rest)

/-- Some `%` is followed by two hexadecimal digits. -/
def hasEscape : List Char → Bool
  | '%' :: high :: low :: rest => (escapeValue high low).isSome || hasEscape (high :: low :: rest)
  | _ :: rest => hasEscape rest
  | [] => false

/-- A text that form decoding leaves as it is wherever it stands in a query string. -/
structure Transparent (text : List Char) : Prop where
  no_ampersand : '&' ∉ text
  no_number_sign : '#' ∉ text
  no_plus : '+' ∉ text
  no_escape : hasEscape text = false

theorem percentDecode_length_le (text : List Char) : (percentDecode text).length ≤ text.length := by
  fun_induction percentDecode text with
  | case1 high low rest value hvalue ih => simp only [List.length_cons]; omega
  | case2 high low rest hvalue ih => simpa using ih
  | case3 char rest _ ih => simpa using ih
  | case4 => simp

theorem percentDecode_length_lt {text : List Char} (h : hasEscape text = true) :
    (percentDecode text).length < text.length := by
  fun_induction percentDecode text with
  | case1 high low rest value hvalue ih =>
    have hrest := percentDecode_length_le rest
    simp only [List.length_cons]
    omega
  | case2 high low rest hvalue ih =>
    rw [hasEscape, hvalue] at h
    simpa using ih h
  | case3 char rest hplain ih =>
    rw [hasEscape] at h
    · simpa using ih h
    · exact hplain
  | case4 => cases h

/-- The characters still owed for a sequence under way. -/
def owed : Option Utf8Sequence → Nat
  | none => 0
  | some _ => 1

theorem utf8End_length (state : Option Utf8Sequence) : (utf8End state).length = owed state := by
  cases state <;> rfl

theorem utf8Begin_length (byte : Nat) : (utf8Begin byte).1.length + owed (utf8Begin byte).2 = 1 := by
  rw [utf8Begin]
  split
  · rfl
  · cases utf8Lead byte <;> rfl

theorem utf8Step_length_le (byte : Nat) (state : Option Utf8Sequence) :
    (utf8Step byte state).1.length + owed (utf8Step byte state).2 ≤ owed state + 1 := by
  have hbegin := utf8Begin_length byte
  cases state with
  | none => exact Nat.le_of_eq hbegin
  | some opened =>
    rw [utf8Step]
    split
    · dsimp only
      split <;> simp [owed]
    · change (utf8Begin byte).1.length + 1 + owed (utf8Begin byte).2 ≤ 1 + 1
      omega

/-- Decoding gives at most one character for each byte. -/
theorem decodeReplacing_length_le (parts : List Quoted) (state : Option Utf8Sequence) :
    (decodeReplacing state parts).length ≤ parts.length + owed state := by
  induction parts generalizing state with
  | nil => exact Nat.le_of_eq ((utf8End_length state).trans (Nat.zero_add _).symm)
  | cons part rest ih =>
    cases part with
    | char char =>
      have hrest := ih none
      have hend := utf8End_length state
      simp only [decodeReplacing, List.length_append, List.length_cons, hend]
      simp only [owed] at hrest ⊢
      omega
    | byte byte =>
      have hrest := ih (utf8Step byte state).2
      have hstep := utf8Step_length_le byte state
      simp only [decodeReplacing, List.length_append, List.length_cons]
      omega

theorem unquote_plus_length_le (text : List Char) : (unquote_plus text).length ≤ text.length := by
  have hdecode := decodeReplacing_length_le (percentDecode (text.map plusToSpace)) none
  have hparts := percentDecode_length_le (text.map plusToSpace)
  rw [List.length_map] at hparts
  exact hdecode.trans hparts

theorem percentDecode_of_not_hasEscape {text : List Char} (h : hasEscape text = false) :
    percentDecode text = text.map Quoted.of := by
  fun_induction percentDecode text with
  | case1 high low rest value hvalue ih =>
    rw [hasEscape, hvalue] at h
    cases h
  | case2 high low rest hvalue ih =>
    rw [hasEscape, hvalue] at h
    rw [ih h]
    rfl
  | case3 char rest hplain ih =>
    rw [hasEscape] at h
    · rw [ih h]
      rfl
    · exact hplain
  | case4 => rfl

theorem decodeReplacing_map_of (text : List Char) : decodeReplacing none (text.map Quoted.of) = text := by
  induction text with
  | nil => rfl
  | cons char rest ih =>
    rw [List.map_cons, Quoted.of]
    split
    · rename_i hascii
      rw [decodeReplacing, utf8Step, utf8Begin, if_pos hascii, ih, Char.ofNat_toNat]
      rfl
    · rw [decodeReplacing, ih]
      rfl

theorem hexValue_plusToSpace (char : Char) : hexValue (plusToSpace char) = hexValue char := by
  rw [plusToSpace]
  split
  · rename_i hplus
    rw [hplus]
    rfl
  · rfl

theorem escapeValue_plusToSpace (high low : Char) :
    escapeValue (plusToSpace high) (plusToSpace low) = escapeValue high low := by
  rw [escapeValue, escapeValue, hexValue_plusToSpace, hexValue_plusToSpace]

theorem plusToSpace_eq_percent {char : Char} (h : plusToSpace char = '%') : char = '%' := by
  rw [plusToSpace] at h
  split at h
  · cases h
  · exact h

theorem hasEscape_map_plusToSpace (text : List Char) : hasEscape (text.map plusToSpace) = hasEscape text := by
  fun_induction hasEscape text with
  | case1 high low rest ih =>
    change ((escapeValue (plusToSpace high) (plusToSpace low)).isSome ||
      hasEscape ((high :: low :: rest).map plusToSpace)) = _
    rw [escapeValue_plusToSpace, ih]
  | case2 char rest hplain ih =>
    rw [List.map_cons, hasEscape, ih]
    intro high low tail hchar htail
    obtain ⟨first, others, rfl, rfl, hothers⟩ := List.map_eq_cons_iff.mp htail
    obtain ⟨second, last, rfl, rfl, -⟩ := List.map_eq_cons_iff.mp hothers
    exact hplain first second last (plusToSpace_eq_percent hchar) rfl
  | case3 => rfl

/-- Form decoding leaves a text as it is exactly when it has neither pluses nor escapes. -/
theorem unquote_plus_eq_self_iff (text : List Char) :
    unquote_plus text = text ↔ '+' ∉ text ∧ hasEscape text = false := by
  cases hescape : hasEscape text with
  | true =>
    refine iff_of_false (fun h => ?_) (fun h => Bool.noConfusion h.2)
    have hparts : (percentDecode (text.map plusToSpace)).length < (text.map plusToSpace).length :=
      percentDecode_length_lt (by rw [hasEscape_map_plusToSpace, hescape])
    have hdecode := decodeReplacing_length_le (percentDecode (text.map plusToSpace)) none
    have hlength : (unquote_plus text).length = text.length := congrArg List.length h
    rw [List.length_map] at hparts
    exact Nat.lt_irrefl _ (Nat.lt_of_le_of_lt (hlength ▸ hdecode) hparts)
  | false =>
    have hmap : unquote_plus text = text.map plusToSpace := by
      rw [unquote_plus, unquote, percentDecode_of_not_hasEscape (by rw [hasEscape_map_plusToSpace, hescape]),
        decodeReplacing_map_of]
    rw [hmap]
    constructor
    · intro h
      refine ⟨fun hplus => ?_, rfl⟩
      rw [← h] at hplus
      obtain ⟨char, -, hchar⟩ := List.mem_map.mp hplus
      rw [plusToSpace] at hchar
      split at hchar
      · cases hchar
      · rename_i hne
        exact hne hchar
    · rintro ⟨hplus, -⟩
      refine (List.map_congr_left fun char hchar => ?_).trans (List.map_id text)
      refine if_neg fun heq => hplus ?_
      rw [← heq]
      exact hchar

theorem transparent_iff (text : List Char) :
    Transparent text ↔ '&' ∉ text ∧ '#' ∉ text ∧ unquote_plus text = text := by
  rw [unquote_plus_eq_self_iff]
  exact ⟨fun h => ⟨h.no_ampersand, h.no_number_sign, h.no_plus, h.no_escape⟩,
    fun ⟨hampersand, hnumber, hplus, hescape⟩ => ⟨hampersand, hnumber, hplus, hescape⟩⟩

/-- A name that is spelled as it is, before a single `=`. -/
structure PlainName (name : String) : Prop where
  ne_empty : name.toList ≠ []
  no_equals : '=' ∉ name.toList
  transparent : Transparent name.toList

theorem parse_qsl_append (first second : List Char) :
    parse_qsl (first ++ '&' :: second) = parse_qsl first ++ parse_qsl second := by
  rw [parse_qsl, List.splitOn_append_cons_self, List.filter_append, List.map_append]
  rfl

theorem parse_qsl_single {field : List Char} (hne : field ≠ []) (h : '&' ∉ field) :
    parse_qsl field = [parseField field] := by
  rw [parse_qsl, List.splitOn_eq_singleton h]
  cases field with
  | nil => exact absurd rfl hne
  | cons char rest => rfl

theorem parseField_eq {name : String} (hname : PlainName name) (value : List Char) :
    parseField (name.toList ++ '=' :: value) = (name, String.ofList (unquote_plus value)) := by
  have hbefore : ∀ char ∈ name.toList, decide (char ≠ '=') = true := by
    intro char hchar
    refine decide_eq_true fun heq => hname.no_equals ?_
    rw [← heq]
    exact hchar
  have hself := ((transparent_iff _).mp hname.transparent).2.2
  rw [parseField, List.takeWhile_append_of_pos hbefore, List.dropWhile_append_of_pos hbefore]
  simp [hself]

/-- The characters up to the end of a field or of the query string. -/
def fieldEnd (char : Char) : Bool := char == '&' || char == '#'

theorem withoutFragment_append {text : List Char} (h : '#' ∉ text) (rest : List Char) :
    withoutFragment (text ++ rest) = text ++ withoutFragment rest :=
  List.takeWhile_append_of_pos fun char hchar => decide_eq_true fun heq : char = '#' => h (heq ▸ hchar)

/-- The rest of a query string after the value of a field. -/
inductive FieldTail : List Char → Prop where
  | last : FieldTail []
  | next (rest : List Char) : FieldTail ('&' :: rest)

/-- A field is decoded from its value up to the first character that ends it. -/
theorem parse_qsl_field {name : String} (hname : PlainName name) (value : List Char) {tail : List Char}
    (htail : FieldTail tail) :
    ∃ others, parse_qsl (withoutFragment (name.toList ++ '=' :: value ++ tail)) =
      (name, String.ofList (unquote_plus (value.takeWhile fun char => !fieldEnd char))) :: others := by
  generalize hkept : value.takeWhile (fun char => !fieldEnd char) = kept
  have hplain : ∀ char ∈ kept, fieldEnd char = false := by
    intro char hchar
    rw [← hkept] at hchar
    simpa using List.mem_takeWhile_imp hchar
  have hfield : '&' ∉ name.toList ++ '=' :: kept ∧ '#' ∉ name.toList ++ '=' :: kept := by
    have hampersand : '&' ∉ kept := fun h => Bool.noConfusion (hplain _ h)
    have hnumber : '#' ∉ kept := fun h => Bool.noConfusion (hplain _ h)
    simp [hname.transparent.no_ampersand, hname.transparent.no_number_sign, hampersand, hnumber]
  have hsingle : parse_qsl (name.toList ++ '=' :: kept) = [(name, String.ofList (unquote_plus kept))] := by
    rw [parse_qsl_single (by simp) hfield.1, parseField_eq hname]
  -- what stops the value, in it or after it
  have hstop : ∃ stop, value ++ tail = kept ++ stop ∧ (FieldTail stop ∨ ∃ rest, stop = '#' :: rest) := by
    refine ⟨value.dropWhile (fun char => !fieldEnd char) ++ tail, ?_, ?_⟩
    · rw [← List.append_assoc, ← hkept, List.takeWhile_append_dropWhile]
    · cases hrest : value.dropWhile (fun char => !fieldEnd char) with
      | nil => exact Or.inl htail
      | cons char rest =>
        have hend : fieldEnd char = true := by
          have hhead := @List.head_dropWhile_not _ (fun char => !fieldEnd char) value (by rw [hrest]; simp)
          simpa [hrest] using hhead
        rw [fieldEnd, Bool.or_eq_true, beq_iff_eq, beq_iff_eq] at hend
        obtain rfl | rfl := hend
        · exact Or.inl (.next _)
        · exact Or.inr ⟨_, rfl⟩
  obtain ⟨stop, hvalue, hcases⟩ := hstop
  have hquery : name.toList ++ '=' :: value ++ tail = (name.toList ++ '=' :: kept) ++ stop := by
    rw [List.append_assoc, List.cons_append, hvalue, List.append_assoc, List.cons_append]
  rw [hquery, withoutFragment_append hfield.2]
  obtain hend | ⟨rest, rfl⟩ := hcases
  · cases hend with
    | last => exact ⟨[], by rw [withoutFragment, List.takeWhile_nil, List.append_nil, hsingle]⟩
    | next rest =>
      refine ⟨parse_qsl (withoutFragment rest), ?_⟩
      change parse_qsl (_ ++ '&' :: withoutFragment rest) = _
      rw [parse_qsl_append, hsingle]
      rfl
  · refine ⟨[], ?_⟩
    change parse_qsl (_ ++ []) = _
    rw [List.append_nil, hsingle]

/-- A field is decoded to its value exactly when the value is transparent. -/
theorem parse_qsl_field_iff {name value : String} (hname : PlainName name) {tail : List Char}
    (htail : FieldTail tail) :
    (parse_qsl (withoutFragment (name.toList ++ '=' :: value.toList ++ tail))).lookup name = some value ↔
      Transparent value.toList := by
  obtain ⟨others, hparsed⟩ := parse_qsl_field hname value.toList htail
  rw [hparsed, List.lookup_cons_self, transparent_iff]
  generalize hkept : value.toList.takeWhile (fun char => !fieldEnd char) = kept
  have hwhole : kept = value.toList ↔ '&' ∉ value.toList ∧ '#' ∉ value.toList := by
    rw [← hkept, List.takeWhile_eq_self_iff]
    constructor
    · exact fun h => ⟨fun hmem => Bool.noConfusion (h _ hmem), fun hmem => Bool.noConfusion (h _ hmem)⟩
    · rintro ⟨hampersand, hnumber⟩ char hchar
      have hne : char ≠ '&' ∧ char ≠ '#' := by
        constructor <;> rintro rfl
        · exact hampersand hchar
        · exact hnumber hchar
      simp [fieldEnd, hne.1, hne.2]
  constructor
  · intro h
    have hdecoded : unquote_plus kept = value.toList := by
      rw [← Option.some.inj h, String.toList_ofList]
    have hlength := unquote_plus_length_le kept
    rw [hdecoded] at hlength
    have hbegins : kept <+: value.toList := hkept ▸ List.takeWhile_prefix _
    have hsame : kept = value.toList := hbegins.eq_of_length_le hlength
    exact ⟨(hwhole.mp hsame).1, (hwhole.mp hsame).2, hsame ▸ hdecoded⟩
  · rintro ⟨hampersand, hnumber, hdecoded⟩
    rw [hwhole.mpr ⟨hampersand, hnumber⟩, hdecoded, String.ofList_toList]

/-- Fields that are put together as they are get decoded to themselves exactly when
all values are transparent. -/
theorem joinFields_decoded_iff :
    ∀ {fields : List (String × String)}, (∀ field ∈ fields, PlainName field.1) → (fields.map Prod.fst).Nodup →
      ((∀ field ∈ fields, (parse_qsl (withoutFragment (joinFields fields))).lookup field.1 = some field.2) ↔
        ∀ field ∈ fields, Transparent field.2.toList)
  | [], _, _ => by simp
  | [(name, value)], hnames, _ => by
    have hfield := @parse_qsl_field_iff name value (hnames _ List.mem_cons_self) [] .last
    rw [List.append_nil] at hfield
    simpa [joinFields] using hfield
  | (name, value) :: field :: rest, hnames, hnodup => by
    obtain ⟨hnew, hrest⟩ := List.nodup_cons.mp hnodup
    have hname := hnames _ List.mem_cons_self
    have hfield := @parse_qsl_field_iff name value hname _ (.next (joinFields (field :: rest)))
    have hothers := joinFields_decoded_iff (fun other hother => hnames other (List.mem_cons_of_mem _ hother)) hrest
    refine (List.forall_mem_cons.trans ?_).trans List.forall_mem_cons.symm
    rw [joinFields, hfield]
    refine and_congr_right fun hvalue => ?_
    rw [← hothers]
    refine forall₂_congr fun other hother => ?_
    have hne : other.1 ≠ name := by
      rintro rfl
      exact hnew (List.mem_map.mpr ⟨other, hother, rfl⟩)
    have hself := (transparent_iff _).mp hvalue
    have hplain : '#' ∉ name.toList ++ '=' :: value.toList := by
      simp [hname.transparent.no_number_sign, hself.2.1]
    have hquery : parse_qsl (withoutFragment (name.toList ++ '=' :: value.toList ++ '&' :: joinFields (field :: rest))) =
        (name, value) :: parse_qsl (withoutFragment (joinFields (field :: rest))) := by
      rw [withoutFragment_append hplain]
      change parse_qsl (_ ++ '&' :: withoutFragment _) = _
      rw [parse_qsl_append, parse_qsl_single (by simp)
        (by simp [hname.transparent.no_ampersand, hself.1]), parseField_eq hname, hself.2.2, String.ofList_toList]
      rfl
    rw [hquery, List.lookup_cons, beq_eq_false_iff_ne.mpr hne]

end python
